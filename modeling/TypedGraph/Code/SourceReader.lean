/-
Source files given as tokens.

`source?` reads a file of items: modules, imports, constants, structures,
enumerations, functions, and implementations and traits with their members.
Bodies are made of statements whose expressions are literals, paths, calls and
what can be written with these.
-/
import TypedGraph.Code.PathReader

namespace TypedGraph
namespace Code

/-- Reads something from the front of the tokens, or fails and leaves them. -/
abbrev Reader := StateT (List Token) Option

namespace SourceReader

/-! ## Tokens -/

def symbol (c : Char) : Reader Unit := do
  match ← get with
  | .punct d _ :: rest => if d = c then set rest else failure
  | _ => failure

def keyword (w : String) : Reader Unit := do
  match ← get with
  | .ident v :: rest => if v = w then set rest else failure
  | _ => failure

def opening (c : Char) : Reader Unit := do
  match ← get with
  | .opening d :: rest => if d = c then set rest else failure
  | _ => failure

def closing (c : Char) : Reader Unit := do
  match ← get with
  | .closing d :: rest => if d = c then set rest else failure
  | _ => failure

def arrow : Reader Unit := do
  match ← get with
  | .punct '-' true :: .punct '>' _ :: rest => set rest
  | _ => failure

def name : Reader String := do
  match ← get with
  | .ident n :: rest =>
    if keywords.contains n then failure
    else
      set rest
      return n
  | _ => failure

/-- A type, whose every token is read by at most seven readers. -/
def type : Reader Ty := fun ts => PathReader.type? (7 * ts.length + 7) ts

def path : Reader Path := fun ts => PathReader.path? (7 * ts.length + 7) ts

/-- Whether something is there, which is then taken. -/
def taken (r : Reader Unit) : Reader Bool := (r *> pure true) <|> pure false

/-- Things up to an end, which is taken too. -/
def upTo {α : Type} (done : Reader Unit) (one : Reader α) : Nat → Reader (List α)
  | 0 => failure
  | steps + 1 => (done *> pure []) <|> do
    let a ← one
    let rest ← upTo done one steps
    return a :: rest

/-- Things with commas between them up to an end, before which a comma may
stand. -/
def listed {α : Type} (done : Reader Unit) (one : Reader α) : Nat → Reader (List α)
  | 0 => failure
  | steps + 1 => (done *> pure []) <|> do
    let a ← one
    (done *> pure [a]) <|> do
      symbol ','
      let rest ← listed done one steps
      return a :: rest

/-! ## Attributes and visibility -/

/-- What stands before the bracket that closes the open one, and after it. -/
def splitClosed : Nat → List Token → Option (List Token × List Token)
  | _, [] => none
  | depth, .closing c :: rest =>
    if depth = 0 then some ([], rest)
    else (splitClosed (depth - 1) rest).map fun (inside, rest) => (.closing c :: inside, rest)
  | depth, .opening c :: rest =>
    (splitClosed (depth + 1) rest).map fun (inside, rest) => (.opening c :: inside, rest)
  | depth, t :: rest => (splitClosed depth rest).map fun (inside, rest) => (t :: inside, rest)

/-- The text of an attribute, where `parted` tells whether a word before has to
be parted from a word that follows. -/
def markText : Bool → List Token → String
  | _, [] => ""
  | parted, .ident w :: rest => (if parted then " " else "") ++ w ++ markText true rest
  | parted, .literal w :: rest => (if parted then " " else "") ++ w ++ markText true rest
  | _, .punct ',' _ :: rest => (if rest.isEmpty then "," else ", ") ++ markText false rest
  | _, .punct '=' _ :: rest => " = " ++ markText false rest
  | _, .punct c _ :: rest => c.toString ++ markText false rest
  | _, .opening c :: rest => c.toString ++ markText false rest
  | _, .closing c :: rest => c.toString ++ markText true rest
  | parted, .doc _ _ :: rest => markText parted rest

def mark : Reader Attribute := do
  symbol '#'
  opening '['
  match splitClosed 0 (← get) with
  | some (.ident w :: inside, rest) =>
    set rest
    return .mark (markText false (.ident w :: inside))
  | _ => failure

def attribute_ : Reader Attribute := do
  match ← get with
  | .doc false text :: rest =>
    set rest
    return .doc text
  | _ => mark

/-- The attributes before an item, each of which takes a token. -/
def attributes : Nat → Reader (List Attribute)
  | 0 => pure []
  | steps + 1 => (do
    let a ← attribute_
    let rest ← attributes steps
    return a :: rest) <|> pure []

def visibility : Reader String := do
  if ← taken (keyword "pub") then
    match ← get with
    | .opening '(' :: .ident w :: .closing ')' :: rest =>
      if ["crate", "self", "super"].contains w then
        set rest
        return "pub(" ++ w ++ ") "
      else return "pub "
    | _ => return "pub "
  else return ""

/-! ## Expressions and statements -/

def atom : Reader Expr := do
  match ← get with
  | .literal text :: rest =>
    set rest
    return .word text
  | .ident "true" :: rest =>
    set rest
    return .word "true"
  | .ident "false" :: rest =>
    set rest
    return .word "false"
  | _ =>
    let p ← path
    match p.leading, p.segments with
    | false, [.plain n] => return .name n
    | _, _ => return .path p

mutual

/-- An expression; the readers give up when their steps are used up. -/
def expr : Nat → Reader Expr
  | 0 => failure
  | steps + 1 => do
    if ← taken (symbol '&') then return .borrow (← expr steps)
    else if ← taken (opening '[') then return .array (← arguments steps ']')
    else calls steps (← atom)

/-- What is called or selected on an expression. -/
def calls : Nat → Expr → Reader Expr
  | 0, _ => failure
  | steps + 1, e => do
    if ← taken (opening '(') then calls steps (.call e (← arguments steps ')'))
    else if ← taken (symbol '.') then
      let n ← name
      if ← taken (opening '(') then calls steps (.dot e n (← arguments steps ')'))
      else calls steps (.field e n)
    else return e

/-- Expressions up to the closing delimiter. -/
def arguments : Nat → Char → Reader (List Expr)
  | 0, _ => failure
  | steps + 1, close => do
    if ← taken (closing close) then return []
    else
      let e ← expr steps
      if ← taken (closing close) then return [e]
      else
        symbol ','
        return e :: (← arguments steps close)

end

def value : Reader Expr := fun ts => expr (3 * ts.length + 3) ts

def statement : Reader Stmt := do
  if ← taken (keyword "let") then
    let n ← name
    let t ← if ← taken (symbol ':') then some <$> type else pure none
    symbol '='
    let e ← value
    symbol ';'
    return .bind n t e
  else
    let e ← value
    if ← taken (symbol ';') then return .run e
    else
      match (← get).head? with
      | some (.closing _) => return .value e
      | _ => failure

/-- Statements between braces. -/
def body : Reader (List Stmt) := do
  opening '\x7b'
  upTo (closing '\x7d') statement ((← get).length + 1)

/-! ## Declarations -/

def parameter : Reader Param := do
  match ← get with
  | .punct '&' _ :: .ident "mut" :: .ident "self" :: rest =>
    set rest
    return .receiver "&mut self"
  | .punct '&' _ :: .ident "self" :: rest =>
    set rest
    return .receiver "&self"
  | .ident "mut" :: .ident "self" :: rest =>
    set rest
    return .receiver "mut self"
  | .ident "self" :: rest =>
    set rest
    return .receiver "self"
  | _ =>
    let n ← name
    symbol ':'
    return .typed n (← type)

def signature : Reader Signature := do
  let isConst ← taken (keyword "const")
  keyword "fn"
  let n ← name
  opening '('
  let params ← listed (closing ')') parameter ((← get).length + 1)
  let output ← if ← taken arrow then some <$> type else pure none
  return { isConst, name := n, params, output }

/-- The type and the value of a constant. -/
def typedValue : Reader (Ty × Expr) := do
  symbol ':'
  let t ← type
  symbol '='
  let e ← value
  symbol ';'
  return (t, e)

def field : Reader (String × Ty) := do
  let v ← visibility
  let n ← name
  symbol ':'
  return (v ++ n, ← type)

def positionalField : Reader (String × Ty) := do
  let v ← visibility
  return (v, ← type)

def fields : Reader Fields := do
  if ← taken (opening '\x7b') then
    return .named (← listed (closing '\x7d') field ((← get).length + 1))
  else if ← taken (opening '(') then
    let fs ← listed (closing ')') positionalField ((← get).length + 1)
    symbol ';'
    return .positional fs
  else
    symbol ';'
    return .none

def member : Reader Member := do
  let as ← attributes (← get).length
  let v ← visibility
  (do
    let s ← signature
    if ← taken (symbol ';') then return .function as v s none
    else return .function as v s (some (← body))) <|> do
  guard as.isEmpty
  if ← taken (keyword "const") then
    let n ← name
    let (t, e) ← typedValue
    return .constant v n t e
  else
    keyword "type"
    let n ← name
    symbol '='
    let t ← type
    symbol ';'
    return .type n t

def members : Reader (List Member) := do
  opening '\x7b'
  upTo (closing '\x7d') member ((← get).length + 1)

/-- An implementation of a trait, or of nothing but its members. -/
def implementation : Reader Item := do
  keyword "impl"
  (do
    let p ← path
    keyword "for"
    return .impl {} (some p) (← type) (← members)) <|> do
  return .impl {} none (← type) (← members)

/-- Items that take no attributes. -/
def plainItem (v : String) : Reader Item := do
  if ← taken (keyword "mod") then
    let n ← name
    symbol ';'
    return .submodule v n
  else if ← taken (keyword "use") then
    let p ← path
    symbol ';'
    guard (p.segments.all Segment.isPlain)
    let start := if p.leading then "::" else ""
    return .use v (start ++ "::".intercalate (p.segments.map Segment.name))
  else if ← taken (keyword "const") then
    let n ← name
    let (t, e) ← typedValue
    return .constant v n t e
  else if ← taken (keyword "static") then
    let n ← name
    let (t, e) ← typedValue
    return .staticValue v n t e
  else
    guard v.isEmpty
    implementation

def item : Reader Item := do
  let as ← attributes (← get).length
  let v ← visibility
  (do return .function as v (← signature) (← body)) <|> do
  if ← taken (keyword "struct") then
    let n ← name
    return .struct as v n {} (← fields)
  else if ← taken (keyword "enum") then
    let n ← name
    opening '\x7b'
    return .enum as v n (← listed (closing '\x7d') name ((← get).length + 1))
  else if ← taken (keyword "trait") then
    let n ← name
    return .trait as v n [] (← members)
  else
    guard as.isEmpty
    plainItem v

/-- The end of the tokens. -/
def done : Reader Unit := do guard (← get).isEmpty

/-- The documentation of a file, and its items. -/
def file : Reader File := do
  let doc ← match ← get with
    | .doc true text :: rest => do
      set rest
      pure (some text)
    | _ => pure none
  return { doc, items := ← upTo done item ((← get).length + 1) }

end SourceReader

def source? (ts : List Token) : Option File := (SourceReader.file.run ts).map (·.1)

end Code
end TypedGraph
