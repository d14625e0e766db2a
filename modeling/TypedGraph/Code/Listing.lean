/-
The text of source files.

Items, and the members of implementations and traits, each take whole lines;
`File.text` is the text of a file of them.
-/
import TypedGraph.Code.Printer
import TypedGraph.Text.Quoted

namespace TypedGraph
namespace Code

open Layout (Piece)

/-! ## Attributes -/

/-- Whether a text can stand between comment delimiters, which nest. -/
def closesComment (depth : Nat) : List Char → Bool
  | '/' :: '*' :: rest => closesComment (depth + 1) rest
  | '*' :: '/' :: rest => if depth = 0 then false else closesComment (depth - 1) rest
  | _ :: rest => closesComment depth rest
  | [] => depth = 0

def trimSpacesEnd (cs : List Char) : List Char := (cs.reverse.dropWhile (· == ' ')).reverse

/-- Drops the spaces before each line feed. -/
def trimInnerLines (doc : List Char) : List Char :=
  match (splitLines doc).reverse with
  | [] => []
  | last :: before => ((before.reverse.map trimSpacesEnd ++ [last]).intersperse ['\n']).flatten
where
  splitLines : List Char → List (List Char)
    | [] => [[]]
    | c :: rest =>
      match splitLines rest with
      | [] => [[c]]
      | line :: lines => if c = '\n' then [] :: line :: lines else (c :: line) :: lines

/-- A documentation text becomes a line comment, or a block comment when it has
several lines, or an attribute when neither can hold it.  `inner` marks the
documentation of the file itself. -/
def docPieces (inner : Bool) (doc : String) : List Piece :=
  let cs := doc.toList
  let starts (c : Char) : Bool := cs.head? == some c
  if !cs.contains '\n' && (inner || !starts '/') then
    [word (if inner then "//!" else "///"), word (String.ofList (trimSpacesEnd cs)), hardBreak 0]
  else if closesComment 0 cs && cs.getLast? != some '/' &&
      (inner || !(starts '*' || starts '/')) then
    [word (if inner then "/*!" else "/**"), word (String.ofList (trimInnerLines cs)), word "*/",
      hardBreak 0]
  else
    [word (if inner then "#!" else "#"), word "[", word "doc", word " = ", word (Text.quote doc),
      word "]", space 0]

def Attribute.pieces : Attribute → List Piece
  | .doc text => docPieces false text
  | .mark text => [word "#", word "[", word text, word "]", space 0]

def Attribute.piecesAll (as : List Attribute) : List Piece := as.flatMap Attribute.pieces

/-! ## Signatures -/

def Bound.pieces : Bound → List Piece
  | .type t => t.pieces
  | .lifetime name => [word name]

def TypeParam.pieces (p : TypeParam) : List Piece :=
  [word p.name, inconsistent tabWidth (bounds p.bounds)]
where
  bounds : List Bound → List Piece
    | [] => []
    | first :: rest => word ": " :: first.pieces ++
        (rest.map (fun b => [space 0, word "+ "] ++ b.pieces)).flatten

def Generics.paramPieces (g : Generics) : List Piece :=
  if g.params.isEmpty then []
  else [word "<"] ++ commaGroup 0 (g.params.map TypeParam.pieces) ++ [word ">"]

def Predicate.pieces (p : Predicate) : List Piece :=
  let bounds := match p.bounds with
    | [] => []
    | first :: rest => word " " :: first.pieces ++
        (rest.map (fun b => [space 0, word "+ "] ++ b.pieces)).flatten
  p.type.pieces ++ [word ":",
    inconsistent (if p.bounds.length = 1 then 0 else tabWidth) bounds]

/-- The where clause before a body, up to the brace. -/
def Generics.whereBody (g : Generics) : List Piece :=
  match g.predicates.reverse with
  | [] => [word " "]
  | last :: before =>
    [hardBreak (-tabWidth), word "where", hardBreak 0] ++
      (before.reverse.map (fun p => p.pieces ++ [word ",", hardBreak 0])).flatten ++
      last.pieces ++ [word ",", hardBreak (-tabWidth)]

def Param.pieces : Param → List Piece
  | .receiver text => [word text]
  | .typed name t => [word name, word ": "] ++ t.pieces

def Signature.pieces (s : Signature) : List Piece :=
  (if s.isConst then [word "const "] else []) ++ [word "fn ", word s.name] ++
    s.generics.paramPieces ++ [word "(", neverBreak] ++ commaGroup 0 (s.params.map Param.pieces) ++
    [word ")", consistent (-tabWidth) (match s.output with
      | some t => word " -> " :: t.pieces
      | none => [])]

/-! ## Items -/

/-- A function with its body. -/
def functionPieces (attributes : List Attribute) (visibility : String) (s : Signature)
    (body : List Stmt) : List Piece :=
  Attribute.piecesAll attributes ++
    [consistent tabWidth ([word visibility] ++ s.pieces ++ s.generics.whereBody ++ [word "\x7b"] ++
      (if body.isEmpty then [] else hardBreak 0 :: moveOut (Stmt.piecesAll body))),
      word "\x7d", hardBreak 0]

def constantPieces (start name : String) (type : Ty) (value : Expr) : List Piece :=
  [consistent 0 ([word start, word name, word ": "] ++ type.pieces ++ [word " = ", neverBreak] ++
    value.pieces .value ++ [word ";"]), hardBreak 0]

def Member.pieces : Member → List Piece
  | .constant visibility name t value => constantPieces (visibility ++ "const ") name t value
  | .type name target => [consistent tabWidth ([word "type ", word name, word " = ", neverBreak,
      inconsistent (-tabWidth) target.pieces, word ";"]), hardBreak 0]
  | .function attributes visibility s (some body) => functionPieces attributes visibility s body
  | .function attributes visibility s none =>
    Attribute.piecesAll attributes ++
      [consistent tabWidth ([word visibility] ++ s.pieces ++ [word ";"]), hardBreak 0]

/-- Members between braces, each ending its own line. -/
def memberBlock (members : List Member) : List Piece :=
  if members.isEmpty then [word "\x7b"]
  else word "\x7b" :: hardBreak 0 :: moveOut (members.flatMap Member.pieces)

def namedFields (fields : List (String × Ty)) : List Piece :=
  if fields.isEmpty then [word "\x7b"]
  else word "\x7b" :: hardBreak 0 ::
    moveOut (fields.flatMap fun f => [word f.1, word ": "] ++ f.2.pieces ++ [word ",", hardBreak 0])

def Item.pieces : Item → List Piece
  | .use visibility tree =>
    [consistent tabWidth [word visibility, word "use ", word tree, word ";"], hardBreak 0]
  | .constant visibility name type value =>
    constantPieces (visibility ++ "const ") name type value
  | .staticValue visibility name type value =>
    constantPieces (visibility ++ "static ") name type value
  | .struct attributes visibility name generics fields =>
    let head := [word visibility, word "struct ", word name] ++ generics.paramPieces
    Attribute.piecesAll attributes ++ (match fields with
      | .named fields => [consistent tabWidth (head ++ generics.whereBody ++ namedFields fields),
          word "\x7d", hardBreak 0]
      | .positional fields =>
        [consistent tabWidth (head ++ [word "("] ++
          commaGroup tabWidth (fields.map fun f => word f.1 :: f.2.pieces) ++ [word ")", word ";"]),
          hardBreak 0]
      | .none => [consistent tabWidth (head ++ [word ";"]), hardBreak 0])
  | .enum attributes visibility name variants =>
    Attribute.piecesAll attributes ++
      [consistent tabWidth ([word visibility, word "enum ", word name, word " ", word "\x7b"] ++
        (if variants.isEmpty then [] else
          hardBreak 0 :: moveOut (variants.flatMap fun v => [word v, word ",", hardBreak 0]))),
        word "\x7d", hardBreak 0]
  | .trait attributes visibility name supertraits members =>
    let bounds := match supertraits with
      | [] => []
      | first :: rest => word ": " :: first.pieces ++
          (rest.map (fun b => word " + " :: b.pieces)).flatten
    Attribute.piecesAll attributes ++
      [consistent tabWidth ([word visibility, word "trait ", word name] ++ bounds ++ [word " "] ++
        memberBlock members), word "\x7d", hardBreak 0]
  | .impl generics implemented target members =>
    let traitPieces := match implemented with
      | some p => p.pieces .type ++ [space 0, word "for "]
      | none => []
    [consistent tabWidth ([inconsistent (-tabWidth)
        ([consistent tabWidth (word "impl" :: generics.paramPieces), word " "] ++ traitPieces ++
          target.pieces)] ++
      generics.whereBody ++ memberBlock members), word "\x7d", hardBreak 0]
  | .function attributes visibility s body => functionPieces attributes visibility s body
  | .submodule visibility name =>
    [consistent tabWidth [word visibility, word "mod ", word name, word ";"], hardBreak 0]

def File.text (f : File) : String :=
  Layout.text ((f.doc.map (docPieces true)).toList.flatten ++ f.items.flatMap Item.pieces)

end Code
end TypedGraph
