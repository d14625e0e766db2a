/-
Laying out a document on lines of bounded width.

A document is a list of pieces: words, places where a line may end, and groups.
A group that fits in the rest of its line is written flat.  Otherwise a
`consistent` group ends its line at each of its breaks, and an `inconsistent`
one only at those after which the text up to the next break does not fit.

What has to fit with a piece reaches to the next break of an enclosing group, so
`render` hands each piece the width of the text that cannot be parted from it.
-/

namespace TypedGraph
namespace Layout

/-- Columns of a line. -/
def margin : Int := 89

/-- Room that a line has however far it is indented. -/
def leastRoom : Int := 60

/-- A width that no line has. -/
def unbounded : Nat := 0xffff

inductive Breaking
  | consistent
  | inconsistent
deriving DecidableEq, Repr

/-- A place where a line may end.  A line that goes on gets `blank` spaces and
then `flat`; one that ends gets `before`, and the next one is moved by `offset`
and starts with `after`. -/
structure Break where
  blank : Nat := 0
  offset : Int := 0
  before : String := ""
  after : String := ""
  flat : String := ""
  never : Bool := false
deriving Repr

inductive Piece
  | word (text : String)
  | brk (b : Break)
  | group (breaking : Breaking) (indent : Int) (items : List Piece)
  /-- Takes no room but makes every group around it too wide. -/
  | overflow
deriving Repr

mutual

/-- Width in bytes when nothing is broken. -/
def Piece.width : Piece → Nat
  | .word text => text.utf8ByteSize
  | .brk b => b.blank
  | .group _ _ items => widthAll items
  | .overflow => unbounded

def widthAll : List Piece → Nat
  | [] => 0
  | p :: rest => p.width + widthAll rest

end

/-- Width of the text up to the first break of the list, or of the whole list
and the `tail` after it. -/
def lead (tail : Nat) : List Piece → Nat
  | [] => tail
  | .brk _ :: _ => 0
  | p :: rest => p.width + lead tail rest

/-- The page so far: its text, the room left on the line, and the spaces owed
before the next character. -/
structure Page where
  text : String := ""
  room : Int := margin
  owed : Nat := 0

namespace Page

def spaces (n : Nat) : String := String.ofList (List.replicate n ' ')

/-- Writes text after the spaces owed; the caller accounts for its width. -/
def put (p : Page) (s : String) : Page :=
  { p with text := (if p.owed = 0 then p.text else p.text ++ spaces p.owed) ++ s, owed := 0 }

def word (p : Page) (s : String) : Page :=
  let p := p.put s
  { p with room := p.room - s.utf8ByteSize }

/-- The line goes on over a break.  Spaces at a line end are never written. -/
def goOn (p : Page) (b : Break) : Page :=
  let p := { p with owed := p.owed + b.blank, room := p.room - b.blank }
  if b.flat.isEmpty then p
  else { p with text := p.text ++ b.flat, room := p.room - b.flat.utf8ByteSize }

/-- The line ends at a break, and the next one starts at column `indent`. -/
def newLine (p : Page) (b : Break) (indent : Int) : Page :=
  let p := if b.before.isEmpty then p else p.put b.before
  let column := indent + b.offset
  let p := { p with
    text := p.text ++ "\n"
    owed := column.toNat
    room := max (margin - column) leastRoom }
  if b.after.isEmpty then p else p.word b.after

end Page

/-- How the group around a piece is written. -/
inductive Frame
  | flat
  | broken (breaking : Breaking)

mutual

/-- Writes a piece that `tail` columns of text follow without a break, in a
group that starts at column `indent`. -/
def Piece.render (frame : Frame) (indent : Int) (tail : Nat) (page : Page) : Piece → Page
  | .word text => page.word text
  | .overflow => page.put ""
  | .brk b =>
    let goesOn := b.never || match frame with
      | .flat => true
      | .broken .consistent => false
      | .broken .inconsistent => decide ((b.blank + tail : Nat) ≤ page.room)
    if goesOn then page.goOn b else page.newLine b indent
  | .group breaking extra items =>
    if (widthAll items + tail : Nat) > page.room then
      renderAll (.broken breaking) (indent + extra) tail page items
    else
      renderAll .flat indent tail page items

def renderAll (frame : Frame) (indent : Int) (tail : Nat) (page : Page) : List Piece → Page
  | [] => page
  | p :: rest =>
    renderAll frame indent tail (p.render frame indent (lead tail rest) page) rest

end

/-- The text of a document.  The document as a whole is a consistent group. -/
def text (items : List Piece) : String :=
  ((Piece.group .consistent 0 items).render .flat 0 0 {}).text

end Layout
end TypedGraph
