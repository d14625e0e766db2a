/-
Reading of TOML.

Statements fill a table of tables step by step.  A table remembers how it came
to be, since only that decides whether a later statement may add to it.  The
keys of every mapping come out in order.
-/
import TypedGraph.Data.JsonWriter
import TypedGraph.Data.TomlSyntax

namespace TypedGraph
namespace Data
namespace Toml

/-- How a table came to be. -/
inductive Origin
  /-- On the way to another table. -/
  | implied
  /-- By a header. -/
  | declared
  /-- By a key of several names. -/
  | dotted
deriving DecidableEq, Repr

inductive Node
  | value (t : Tree)
  | table (origin : Origin) (entries : List (String × Node))
  /-- The elements of an array of tables, the last one first. -/
  | tables (last : List (String × Node)) (before : List (List (String × Node)))

/-- A table under construction. -/
abbrev Table := List (String × Node)

namespace Table

def put (name : String) (n : Node) : Table → Table
  | [] => [(name, n)]
  | (key, old) :: rest => if key = name then (key, n) :: rest else (key, old) :: put name n rest

end Table

mutual

def Node.toTree : Node → Tree
  | .value t => t
  | .table _ entries => .object (entriesToTree entries)
  | .tables last before => .list (elementsToTree before ++ [.object (entriesToTree last)])

def entriesToTree : List (String × Node) → List (String × Tree)
  | [] => []
  | (key, n) :: rest => (key, n.toTree) :: entriesToTree rest

/-- The elements, the last one first. -/
def elementsToTree : List (List (String × Node)) → List Tree
  | [] => []
  | last :: before => elementsToTree before ++ [.object (entriesToTree last)]

end

/-- What messages call a value. -/
def kindName : Tree → String
  | .text _ => "string"
  | .integer _ => "integer"
  | .float _ => "float"
  | .boolean _ => "boolean"
  | .sequence .. => "array"
  | .mapping [(key, _)] _ => if key = dateKey then "datetime" else "inline table"
  | _ => "inline table"

/-- Gives a key in a table a value. -/
def assign (value : Tree) : List String → Table → Except Fault Table
  | [], t => .ok t
  | [name], t =>
    match t.lookup name with
    | none => .ok (Table.put name (.value value) t)
    | some _ => .error .duplicateKey
  | name :: rest, t =>
    match t.lookup name with
    | none => do return Table.put name (.table .dotted (← assign value rest [])) t
    | some (.table .dotted entries) => do
      return Table.put name (.table .dotted (← assign value rest entries)) t
    | some (.value old) => .error (.extendsValue (kindName old))
    | some _ => .error .duplicateKey

/-- Does something to the table that a header leads to; tables on the way are
made. -/
def inside (act : Table → Except Fault Table) : List String → Table → Except Fault Table
  | [], t => act t
  | name :: rest, t =>
    match t.lookup name with
    | none => do return Table.put name (.table .implied (← inside act rest [])) t
    | some (.table origin entries) => do
      return Table.put name (.table origin (← inside act rest entries)) t
    | some (.tables last before) => do
      return Table.put name (.tables (← inside act rest last) before) t
    | some (.value _) => .error .duplicateKey

/-- Opens the table of a header. -/
def declare (name : String) (t : Table) : Except Fault Table :=
  match t.lookup name with
  | none => .ok (Table.put name (.table .declared []) t)
  | some (.table .implied entries) => .ok (Table.put name (.table .declared entries) t)
  | some _ => .error .duplicateKey

/-- Opens a further element of an array of tables. -/
def append (name : String) (t : Table) : Except Fault Table :=
  match t.lookup name with
  | none => .ok (Table.put name (.tables [] []) t)
  | some (.tables last before) => .ok (Table.put name (.tables [] (last :: before)) t)
  | some _ => .error .duplicateKey

/-! ## Values -/

mutual

/-- A value; every value takes a character. -/
def readValue : Nat → List Char → Except Fault (Tree × List Char)
  | 0, _ => .error .unquotedText
  | steps + 1, cs =>
    match cs with
    | '"' :: rest => do
      let (s, rest) ← readText '"' rest
      return (.text s, rest)
    | '\'' :: rest => do
      let (s, rest) ← readText '\'' rest
      return (.text s, rest)
    | '[' :: rest => do
      let (items, rest) ← readItems steps (skipAll rest)
      return (.list items, rest)
    | '\x7b' :: rest => do
      let (t, rest) ← readPairs [] steps (skipAll rest)
      return (.object (entriesToTree t), rest)
    | cs => readPlain cs
termination_by structural steps => steps

/-- The items of an array up to its end. -/
def readItems : Nat → List Char → Except Fault (List Tree × List Char)
  | 0, _ => .error .unclosedArray
  | _ + 1, [] => .error .unclosedArray
  | steps + 1, c :: rest =>
    if c = ']' then .ok ([], rest)
    else do
      let (item, rest) ← readValue steps (c :: rest)
      match skipAll rest with
      | [] => throw .unclosedArray
      | ']' :: rest => return ([item], rest)
      | ',' :: rest =>
        let (items, rest) ← readItems steps (skipAll rest)
        return (item :: items, rest)
      | _ => throw .missingItemComma
termination_by structural steps => steps

/-- The pairs of an inline table up to its end, after those in `t`. -/
def readPairs (t : Table) : Nat → List Char → Except Fault (Table × List Char)
  | 0, _ => .error .unclosedInlineTable
  | _ + 1, [] => .error .unclosedInlineTable
  | steps + 1, c :: rest =>
    if c = '}' then .ok (t, rest)
    else do
      let (key, rest) ← readKey (rest.length + 1) (c :: rest)
      match skipBlanks rest with
      | '=' :: rest =>
        let (value, rest) ← readValue steps (skipBlanks rest)
        let t ← assign value key t
        match skipAll rest with
        | [] => throw .unclosedInlineTable
        | '}' :: rest => return (t, rest)
        | ',' :: rest => readPairs t steps (skipAll rest)
        | _ => throw .missingEntryComma
      | _ => throw .keyWithoutValue
termination_by structural steps => steps

end

/-! ## Documents -/

/-- A document under construction, and the table that keys now go into. -/
structure Progress where
  root : Table := []
  header : List String := []

/-- The statement that a line starts with. -/
def readStatement (p : Progress) (cs : List Char) : Except Fault (Progress × List Char) := do
  match cs with
  | '[' :: '[' :: rest =>
    let (key, rest) ← readKey (rest.length + 1) rest
    match skipBlanks rest with
    | ']' :: ']' :: rest =>
      let root ← inside (append (key.getLast?.getD "")) key.dropLast p.root
      return (⟨root, key⟩, ← endLine rest)
    | _ => throw (.unclosedHeader "]]")
  | '[' :: rest =>
    let (key, rest) ← readKey (rest.length + 1) rest
    match skipBlanks rest with
    | ']' :: rest =>
      let root ← inside (declare (key.getLast?.getD "")) key.dropLast p.root
      return (⟨root, key⟩, ← endLine rest)
    | _ => throw (.unclosedHeader "]")
  | cs =>
    let (key, rest) ← readKey (cs.length + 1) cs
    match skipBlanks rest with
    | '=' :: rest =>
      let (value, rest) ← readValue (rest.length + 1) (skipBlanks rest)
      let root ← inside (assign value key) p.header p.root
      return (⟨root, p.header⟩, ← endLine rest)
    | _ => throw .keyWithoutValue

/-- Every statement takes a character. -/
def readStatements (p : Progress) : Nat → List Char → Except Fault Progress
  | 0, _ => .ok p
  | steps + 1, cs =>
    match skipAll cs with
    | [] => .ok p
    | cs => do
      let (p, rest) ← readStatement p cs
      readStatements p steps rest

/-- The document that a text holds. -/
def read (source : String) : Except Fault Tree := do
  let cs := match source.toList with
    | '\uFEFF' :: rest => rest
    | cs => cs
  let p ← readStatements {} (cs.length + 1) cs
  return (Tree.object (entriesToTree p.root)).sorted

end Toml
end Data
end TypedGraph
