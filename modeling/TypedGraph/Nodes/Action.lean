/-
Steps of tasks.

An action acts on a context, which holds the nodes that the step before came to,
and hands its own nodes on.  The actions of the runtime itself are written out
by name and pass their nodes through.
-/
import TypedGraph.Nodes.Graph

namespace TypedGraph
namespace Nodes

/-- An action of the runtime. -/
structure NamedAction where
  name : String
  args : List String := []
deriving DecidableEq, Repr

namespace NamedAction

def text (a : NamedAction) : String := a.name ++ "(" ++ ",".intercalate a.args ++ ")"

def travelInWorld (world : String) : NamedAction := ⟨"travelInWorld", [world]⟩

def createTypedNode (typeName : String) : NamedAction := ⟨"createTypedNode", [typeName]⟩

def setAttribute (name : String) (tag : Nat) (value : String) : NamedAction :=
  ⟨"setAttribute", [name, toString tag, value]⟩

def readAttribute (name : String) : NamedAction := ⟨"attribute", [name]⟩

def addVarToRelation (relation variable_ : String) : NamedAction :=
  ⟨"addVarToRelation", [relation, variable_]⟩

def traverse (relation : String) : NamedAction := ⟨"traverse", [relation]⟩

def readGlobalIndex (index : String) : NamedAction := ⟨"readGlobalIndex", [index]⟩

def addToGlobalIndex (index : String) (attributes : List String) : NamedAction :=
  ⟨"addToGlobalIndex", index :: attributes⟩

end NamedAction

/-- The input of a step, and what it handed on. -/
structure TaskContext where
  time : Int
  nodes : List Node
  output : Option (List Node) := none
deriving DecidableEq, Repr

namespace TaskContext

def continueWith (ctx : TaskContext) (nodes : List Node) : TaskContext :=
  { ctx with output := some nodes }

end TaskContext

end Nodes
end TypedGraph
