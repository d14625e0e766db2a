/-
Collecting definitions from several sources.

Classes and enumerations enter the model in the order they were added, so that
the last definition of a name counts.  Indexes follow, so that they meet
complete classes wherever those were declared.
-/
import TypedGraph.Schema.Model

namespace TypedGraph
namespace Schema

/-- An index whose owner may still be missing. -/
structure IndexRequest where
  fqn : String
  className : String
  properties : List String
deriving DecidableEq, Repr

structure ModelBuilder where
  definitions : List Classifier := []
  indexes : List IndexRequest := []

namespace ModelBuilder

def addClass (b : ModelBuilder) (c : Class) : ModelBuilder :=
  { b with definitions := b.definitions ++ [.ofClass c] }

def addEnum (b : ModelBuilder) (e : Enumeration) : ModelBuilder :=
  { b with definitions := b.definitions ++ [.ofEnum e] }

def addIndex (b : ModelBuilder) (fqn className : String) (properties : List String) :
    ModelBuilder :=
  { b with indexes := b.indexes ++ [⟨fqn, className, properties⟩] }

def build (b : ModelBuilder) : Except SchemaError Model :=
  b.indexes.foldlM (fun m r => m.addIndex r.fqn r.className r.properties)
    (b.definitions.foldl Model.add {})

end ModelBuilder

end Schema
end TypedGraph
