/-
Qualified names.

A name is an optional package, made of segments with dots between them, and a
simple name.  `QualifiedName.parse` cuts a text at its last dot, `fqn` puts the
dot back, and `segments` are the package segments as generated modules spell
them.
-/
import TypedGraph.Text.Blank
import TypedGraph.Text.Case

namespace TypedGraph
namespace Schema

/-- What can be wrong with a definition on its own. -/
inductive SchemaError
  | emptyName (text : String)
  | unknownIndexClass (index className : String)
  | unknownIndexProperty (index className property : String)
deriving DecidableEq, Repr

namespace SchemaError

def message : SchemaError → String
  | .emptyName text => "classifier name is empty in '" ++ text ++ "'"
  | .unknownIndexClass index className =>
    "index '" ++ index ++ "' references unknown class '" ++ className ++ "'"
  | .unknownIndexProperty index className property =>
    "index '" ++ index ++ "' references unknown property '" ++ property ++ "' on class '" ++
      className ++ "'"

end SchemaError

structure QualifiedName where
  package : Option String
  name : String
deriving DecidableEq, Repr

/-- The parts before and after the last occurrence of a character. -/
def splitLast (sep : Char) : List Char → Option (List Char × List Char)
  | [] => none
  | c :: rest =>
    match splitLast sep rest with
    | some (before, after) => some (c :: before, after)
    | none => if c = sep then some ([], rest) else none

namespace QualifiedName

/-- An empty package is no package. -/
def of (package : Option String) (name : String) : QualifiedName :=
  { package := package.filter (!·.isEmpty), name }

/-- Cuts a text at its last dot.  The part after it may not be empty. -/
def parse (text : String) : Except SchemaError QualifiedName :=
  let (package, name) := match splitLast '.' text.toList with
    | some (before, after) => (some (String.ofList before), String.ofList after)
    | none => (none, text)
  if name.isEmpty then .error (.emptyName text) else .ok (.of package name)

def fqn (q : QualifiedName) : String :=
  match q.package with
  | some package => package ++ "." ++ q.name
  | none => q.name

/-- The non-empty package segments in lower case. -/
def segments (q : QualifiedName) : List String :=
  match q.package with
  | some package =>
    ((package.toList.splitOn '.').filter (!·.isEmpty)).map fun s =>
      String.ofList (Text.lower s)
  | none => []

/-- The lower-cased package as one text. -/
def modulePackage (q : QualifiedName) : Option String :=
  if q.segments.isEmpty then none else some (".".intercalate q.segments)

/-- Having no package comes before having one. -/
def packageOrder : Option String → Option String → Ordering
  | none, none => .eq
  | none, some _ => .lt
  | some _, none => .gt
  | some p, some q => compare p q

/-- The package decides first, then the name. -/
def order (a b : QualifiedName) : Ordering :=
  (packageOrder a.package b.package).then (compare a.name b.name)

end QualifiedName

end Schema
end TypedGraph
