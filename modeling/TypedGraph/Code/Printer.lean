/-
The printed form of source trees.

Each kind of tree becomes the pieces of a document: which words it is made of,
where it may be broken, and which of its parts break together.  `File.text`
lays the document of a whole file out.
-/
import TypedGraph.Code.Tree
import TypedGraph.Layout

namespace TypedGraph
namespace Code

open Layout (Piece Break)

/-! ## Breaks and groups -/

def tabWidth : Int := 4

def word (s : String) : Piece := .word s

/-- A break that is nothing on a line that goes on. -/
def zeroBreak (offset : Int) : Piece := .brk { offset }

/-- A break that is a space on a line that goes on. -/
def space (offset : Int) : Piece := .brk { blank := 1, offset }

/-- A line always ends here. -/
def hardBreak (offset : Int) : Piece := .brk { blank := Layout.unbounded, offset }

/-- Parts what precedes from what follows without a place to break. -/
def neverBreak : Piece := .brk { never := true }

def consistent (indent : Int) (items : List Piece) : Piece := .group .consistent indent items

def inconsistent (indent : Int) (items : List Piece) : Piece := .group .inconsistent indent items

/-- Items with commas between them; the break at the end, moved by `offset`,
writes a comma when the line ends there. -/
def commaSeparated (offset : Int) : List (List Piece) → List Piece
  | [] => []
  | [item] => item ++ [.brk { before := ",", offset }]
  | item :: rest => item ++ [word ",", space 0] ++ commaSeparated offset rest

/-- A group of items with commas, one to a line when it is broken; no items
leave no group. -/
def commaGroup (indent : Int) (items : List (List Piece)) : List Piece :=
  if items.isEmpty then []
  else [consistent indent (zeroBreak 0 :: commaSeparated (-tabWidth) items)]

/-- The lines of a body between braces, moved in by the group around them. -/
def braced (lines : List (List Piece)) : List Piece :=
  match lines.reverse with
  | [] => [word "\x7b", word "\x7d"]
  | last :: before =>
    [word "\x7b", hardBreak 0] ++ (before.reverse.map (· ++ [hardBreak 0])).flatten ++ last ++
      [hardBreak (-tabWidth), word "\x7d"]

/-! ## Types and paths -/

/-- Type arguments follow a name directly in a type, and after `::` in an
expression. -/
inductive Place
  | type
  | expr
deriving DecidableEq

def Argument.isLifetime : Argument → Bool
  | .lifetime _ => true
  | _ => false

mutual

def Ty.pieces : Ty → List Piece
  | .path leading segments => Segment.piecesAll .type leading segments
  | .ref lifetime mutable target =>
    [word "&"] ++ (lifetime.map (fun l => word (l ++ " "))).toList ++
      (if mutable then [word "mut "] else []) ++ target.pieces
  | .slice element => [word "["] ++ element.pieces ++ [word "]"]
  | .array element length => [word "["] ++ element.pieces ++ [word ("; " ++ length ++ "]")]
  | .tuple items =>
    match Ty.piecesEach items with
    | [one] => [word "("] ++ [consistent tabWidth (zeroBreak 0 :: one ++
        [word ",", zeroBreak (-tabWidth)])] ++ [word ")"]
    | many => [word "("] ++ commaGroup tabWidth many ++ [word ")"]
  | .parenthesized inner => [word "("] ++ inner.pieces ++ [word ")"]
  | .marked words target => word words :: word " " :: target.pieces
  | .word text => [word text]

def Ty.piecesEach : List Ty → List (List Piece)
  | [] => []
  | t :: rest => t.pieces :: Ty.piecesEach rest

/-- The names of a path, with `::` before each but the first. -/
def Segment.piecesAll (place : Place) (joined : Bool) : List Segment → List Piece
  | [] => []
  | s :: rest =>
    (if joined then [word "::"] else []) ++ s.pieces place ++ Segment.piecesAll place true rest

def Segment.pieces (place : Place) : Segment → List Piece
  | .plain name => [word name]
  | .generic name _ args =>
    let lifetimes := Argument.piecesEach true args
    let others := Argument.piecesEach false args
    if args.isEmpty then [word name]
    else
      [word name] ++ (if place = .expr then [word "::"] else []) ++ [word "<"] ++
        commaGroup tabWidth (lifetimes ++ others) ++ [word ">"]
  | .callable name inputs output =>
    let output := match output with
      | some t => word " -> " :: t.pieces
      | none => []
    [word name, consistent tabWidth ([word "(", zeroBreak 0] ++
      commaSeparated (-tabWidth) (Ty.piecesEach inputs) ++ [word ")"] ++ output)]

/-- The arguments that are lifetimes, or those that are not. -/
def Argument.piecesEach (lifetimes : Bool) : List Argument → List (List Piece)
  | [] => []
  | a :: rest =>
    let others := Argument.piecesEach lifetimes rest
    match a with
    | .type t => if lifetimes then others else t.pieces :: others
    | .lifetime name => if lifetimes then [word name] :: others else others
    | .literal text => if lifetimes then others else [word text] :: others

end

def Path.pieces (p : Path) (place : Place) : List Piece :=
  Segment.piecesAll place p.leading p.segments

/-! ## Expressions and statements -/

/-- A variable whose name is no longer than an indentation. -/
def Expr.isShortName : Expr → Bool
  | .name ident => decide (ident.utf8ByteSize ≤ tabWidth)
  | _ => false

/-- An only argument of these kinds shares the lines of its parentheses. -/
def Expr.hugsParentheses : Expr → Bool
  | .array _ | .block _ | .closure .. | .record .. => true
  | _ => false

/-- Whether the body of a closure is written in braces when it is broken. -/
def Expr.bracedInClosure : Expr → Bool
  | .matchOn .. | .call .. => false
  | e => !e.hugsParentheses

/-- Whether an arm with this body ends in a comma on one line. -/
def Expr.commaAfterArm : Expr → Bool
  | .branch .. | .matchOn .. | .block _ | .forEach .. => false
  | _ => true

/-- Whether the brace after a broken condition goes on a line of its own. -/
def Expr.partsFromBrace : Expr → Bool
  | .method .. | .field .. | .infixed .. => true
  | .binds _ value => value.partsFromBrace
  | .borrow target => target.partsFromBrace
  | .call function _ => function.partsFromBrace
  | _ => false

/-- A loop as a statement needs no semicolon. -/
def Expr.dropsSemicolon : Expr → Bool
  | .forEach .. => true
  | .branch _ _ none => true
  | _ => false

/-- Whether there is one argument and it hugs its parentheses. -/
def Expr.onlyHugs : List Expr → Bool
  | [e] => e.hugsParentheses
  | _ => false

/-- Arguments between parentheses. -/
def argumentPieces (hugs : Bool) (args : List (List Piece)) : List Piece :=
  match hugs, args with
  | true, [only] => [word "("] ++ only ++ [word ")"]
  | _, _ => [word "("] ++ commaGroup tabWidth args ++ [word ")"]

def genericPieces (generics : List Ty) : List Piece :=
  if generics.isEmpty then []
  else [word "::<"] ++ commaGroup tabWidth (Ty.piecesEach generics) ++ [word ">"]

/-- A closure's body, or an arm's, that gets braces when it does not stay on
the line. -/
def bracedWhenBroken (body : List Piece) (flat : String) : Piece :=
  consistent tabWidth ([.brk { before := "\x7b" }] ++ body ++
    [.brk { offset := -tabWidth, after := "\x7d", flat }])

/-- The condition of a branch, or the subject of a match, up to its brace. -/
def conditionPieces (e : Expr) (pieces : List Piece) : Piece :=
  consistent 0 (pieces ++ [if e.partsFromBrace then space 0 else word " "])

/-- The last piece of the list, which is a break, moved out by one
indentation. -/
def moveOut : List Piece → List Piece
  | [] => []
  | [.brk b] => [.brk { b with offset := b.offset - tabWidth }]
  | p :: rest => p :: moveOut rest

/-- Where an expression stands: as a value, at the start of a statement, or as
the receiver in a chain of calls. -/
inductive Role
  | value
  | statement
  | receiver (starts : Bool)

namespace Role

/-- Whether nothing of the statement precedes the expression. -/
def starts : Role → Bool
  | .value => false
  | .statement => true
  | .receiver s => s

/-- A receiver that is no call is not moved by the chain around it. -/
def apart (r : Role) (items : List Piece) : List Piece :=
  match r with
  | .receiver _ => [consistent (-tabWidth) items]
  | _ => items

/-- The calls of a chain form one group, which its last call opens. -/
def chain (r : Role) (items : List Piece) : List Piece :=
  match r with
  | .receiver _ => items
  | _ => [consistent tabWidth items]

/-- The role of the function of a call. -/
def ofFunction : Role → Role
  | .receiver _ => .receiver false
  | r => r

/-- How far the arguments of a call after a short name are moved back; inner
calls of a chain move nothing. -/
def callIndent (r : Role) (short : Bool) : Int :=
  match r with
  | .statement => if short then -tabWidth else 0
  | _ => 0

end Role

mutual

def Expr.pieces (role : Role) : Expr → List Piece
  | .word text => role.apart [word text]
  | .name ident => role.apart [word ident]
  | .path p => role.apart (p.pieces .expr)
  | .assoc self segments => role.apart ([word "<"] ++ self.pieces ++ [word ">"] ++
      Segment.piecesAll .expr true segments)
  | .call function args =>
    function.pieces role.ofFunction ++
      argumentPieces (Expr.onlyHugs args) (Expr.piecesEach args)
  | .method receiver name generics args =>
    let short := role.starts && receiver.isShortName
    role.chain (receiver.pieces (.receiver role.starts) ++ (if short then [] else [zeroBreak 0]) ++
      [word ".", word name] ++ genericPieces generics ++
      [consistent (role.callIndent short)
        (argumentPieces (Expr.onlyHugs args) (Expr.piecesEach args))])
  | .field receiver name =>
    let short := role.starts && receiver.isShortName
    role.chain (receiver.pieces (.receiver role.starts) ++ (if short then [] else [zeroBreak 0]) ++
      [word ".", word name])
  | .borrow target => role.apart ([word "&"] ++ target.pieces .value)
  | .array items =>
    role.apart (if items.isEmpty then [word "[]"]
      else [word "["] ++ commaGroup tabWidth (Expr.piecesEach items) ++ [word "]"])
  | .closure moves params body =>
    let params := match params.map closureParam with
      | [] => []
      | first :: rest => zeroBreak 0 :: first ++
          (rest.map (fun p => [word ",", space 0] ++ p)).flatten
    let head := consistent tabWidth ([word "|"] ++ params ++ [word "|", space (-tabWidth)])
    let body := if body.bracedInClosure then [bracedWhenBroken (body.pieces .value) ""]
      else body.pieces .value
    role.apart [inconsistent 0 ((if moves then [word "move "] else []) ++
      [head, neverBreak] ++ body)]
  | .block body => role.apart [consistent tabWidth (Stmt.smallBlock body)]
  | .matchOn subject arms =>
    let body := match (Arm.piecesEach arms).reverse with
      | [] => []
      | last :: before =>
        [consistent tabWidth ([hardBreak 0] ++
          (before.reverse.map (· ++ [hardBreak 0])).flatten ++ last ++ [hardBreak (-tabWidth)])]
    role.apart [inconsistent 0 ([word "match ",
      conditionPieces subject (subject.pieces .value), word "\x7b"] ++ body ++ [word "\x7d"])]
  | .branch condition yes no =>
    let head := [word "if ", conditionPieces condition (condition.pieces .value)]
    let tail := match no with
      | some no => Stmt.smallBlock yes ++ [word " else "] ++ Stmt.smallBlock no
      | none =>
        if yes.isEmpty then [word "\x7b\x7d"]
        else [word "\x7b", hardBreak 0] ++ moveOut (Stmt.piecesAll yes) ++ [word "\x7d"]
    role.apart [consistent tabWidth (head ++ tail)]
  | .binds pattern value =>
    role.apart [inconsistent 0 ([word "let ", word pattern, word " = ", neverBreak] ++
      value.pieces .value)]
  | .forEach pattern items body =>
    role.apart [inconsistent 0 ([word "for ", word pattern, word " in ", neverBreak,
      conditionPieces items (items.pieces .value), word "\x7b", neverBreak] ++
      (if body.isEmpty then [] else
        [consistent tabWidth (hardBreak 0 :: moveOut (Stmt.piecesAll body))]) ++ [word "\x7d"])]
  | .record name fields =>
    if fields.isEmpty then role.apart [word name, word " \x7b\x7d"]
    else
      let body := [word name, word " \x7b", space 0] ++ recordFields (FieldValue.piecesEach fields)
      let wide := decide (Layout.widthAll body > 34)
      role.apart [consistent tabWidth (body ++ (if wide then [.overflow] else [])), word "\x7d"]
  | .vecOf element count =>
    role.apart ([word "vec!["] ++ [consistent tabWidth ([zeroBreak 0] ++
      [inconsistent 0 (element.pieces .value ++ [word ";", space 0] ++ count.pieces .value)] ++
      [zeroBreak (-tabWidth)])] ++ [word "]"])
  | .infixed left operator right =>
    role.apart [inconsistent tabWidth ([inconsistent (-tabWidth) (left.pieces .value)] ++
      [space 0, word operator, word " "] ++ right.pieces .value)]

where
  closureParam : String × Option Ty → List Piece
    | (name, some t) => [word name, word ": "] ++ t.pieces
    | (name, none) => [word name]
  /-- The widest a record may be on one line is 34 columns. -/
  recordFields : List (List Piece) → List Piece
    | [] => []
    | [item] => item ++ [.brk { blank := 1, before := ",", offset := -tabWidth }]
    | item :: rest => item ++ [word ",", space 0] ++ recordFields rest

def Expr.piecesEach : List Expr → List (List Piece)
  | [] => []
  | e :: rest => e.pieces .value :: Expr.piecesEach rest

/-- The pieces of arms, without the ends of their last lines. -/
def Arm.piecesEach : List Arm → List (List Piece)
  | [] => []
  | .mk pattern (.block stmts) :: rest =>
    [inconsistent 0 ([word pattern, word " => ", word "\x7b", neverBreak] ++
      (if stmts.isEmpty then [] else
        [consistent tabWidth (hardBreak 0 :: moveOut (Stmt.piecesAll stmts))]) ++ [word "\x7d"])] ::
      Arm.piecesEach rest
  | .mk pattern e :: rest =>
    [inconsistent 0 [word pattern, word " => ", neverBreak,
      bracedWhenBroken (e.pieces .statement) (if e.commaAfterArm then "," else "")]] ::
      Arm.piecesEach rest

def FieldValue.piecesEach : List FieldValue → List (List Piece)
  | [] => []
  | .mk name (some value) :: rest =>
    [word name, word ": ", inconsistent 0 (value.pieces .value)] :: FieldValue.piecesEach rest
  | .mk name none :: rest => [word name] :: FieldValue.piecesEach rest

/-- The pieces of a statement with the end of its line. -/
def Stmt.pieces : Stmt → List Piece
  | .bind pattern type value =>
    let type := match type with
      | some t => word ": " :: t.pieces
      | none => []
    [inconsistent 0 ([word "let ", word pattern] ++ type ++ [word " = ", neverBreak] ++
      value.pieces .value ++ [word ";"]), hardBreak 0]
  | .expr e semicolon =>
    [inconsistent 0 (e.pieces .statement ++
      (if semicolon && !e.dropsSemicolon then [word ";"] else [])), hardBreak 0]

def Stmt.piecesAll : List Stmt → List Piece
  | [] => []
  | s :: rest => s.pieces ++ Stmt.piecesAll rest

/-- A block that stays on one line when it is one value that fits. -/
def Stmt.smallBlock : List Stmt → List Piece
  | [] => [word "\x7b\x7d"]
  | [.expr e false] =>
    [word "\x7b", space 0, inconsistent 0 (e.pieces .statement), space (-tabWidth), word "\x7d"]
  | s :: rest =>
    [word "\x7b", space 0] ++ moveOut (s.pieces ++ Stmt.piecesAll rest) ++ [word "\x7d"]

end

end Code
end TypedGraph
