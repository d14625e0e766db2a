/-
The written forms of names, properties and classifiers.

What is unset, empty or false is left out.
-/
import TypedGraph.Data.Decode
import TypedGraph.Schema.Diagnostic

namespace TypedGraph
namespace Schema

open Data (Tree Decoder)

/-- An entry, if there is a value for it. -/
def entryOf (key : String) (value : Option Tree) : List (String × Tree) :=
  (value.map fun t => (key, t)).toList

/-- A flag, if it is set. -/
def flagEntry (key : String) (b : Bool) : List (String × Tree) :=
  if b then [(key, .boolean true)] else []

def textList (texts : List String) : Tree := .list (texts.map .text)

namespace QualifiedName

def toTree (q : QualifiedName) : Tree :=
  .object (entryOf "package" (q.package.map .text) ++ [("name", .text q.name)])

end QualifiedName

namespace Primitive

def toTree (p : Primitive) : Tree := .text p.name

def read : Decoder Primitive := Tree.choice Tree.isNull (all.map fun p => (p.name, p))

end Primitive

namespace Property

def toTree (p : Property) : Tree :=
  let dependencies := p.dependencies.map fun path => Tree.object [("path", .text path)]
  let parameters := p.parameters.toList.map fun (key, value) => (key, Tree.text value)
  .object ([("ident", .text p.name), ("ty", .text p.type), ("kind", .text p.kind.name)] ++
    entryOf "algorithm" (p.algorithm.map .text) ++
    (if dependencies.isEmpty then [] else [("dependencies", .list dependencies)]) ++
    (if parameters.isEmpty then [] else [("parameters", .object parameters)]) ++
    flagEntry "derived" p.derived ++ flagEntry "learned" p.learned ++ flagEntry "global" p.isGlobal)

end Property

namespace Classifier

def toTree : Classifier → Tree
  | .ofClass c =>
    .object ([("kind", .text "class"), ("ident", c.ident.toTree)] ++
      entryOf "parent" (c.parent.map .text) ++
      [("properties", .object (c.properties.map fun p => (p.name, p.toTree)))])
  | .ofEnum e =>
    .object [("kind", .text "enum"), ("ident", e.ident.toTree), ("literals", textList e.literals)]
  | .ofIndex i =>
    .object [("kind", .text "index"), ("ident", i.ident.toTree), ("class", .text i.className),
      ("properties", textList i.properties)]

end Classifier

end Schema
end TypedGraph
