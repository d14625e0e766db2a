/-
Tasks over the sample model.
-/
import TypedGraph.Nodes.Resolution
import TypedGraph.Sample.Facade
import TypedGraph.Text.Words

namespace TypedGraph
namespace Sample

open Nodes (NamedAction Node TaskContext)

inductive Action
  | named (a : NamedAction)
  /-- Every node of the result is replaced by its version in the planned or the
  real world. -/
  | inOtherWorld (planned : Bool)
deriving DecidableEq, Repr

namespace Action

def text : Action → String
  | .named a => a.text
  | .inOtherWorld true => "getPlannedVersionNode()"
  | .inOtherWorld false => "getRealVersionNode()"

/-- The world that an action resolves nodes in. -/
def world (plannedWorld : PlannedWorld) (planned : Bool) : Int :=
  if planned then plannedOrReal plannedWorld else realWorld

def eval (plannedWorld : PlannedWorld) (g : Nodes.Graph) (ctx : TaskContext) : Action → TaskContext
  | .named _ => ctx.continueWith ctx.nodes
  | .inOtherWorld planned => Nodes.resolveIn g (world plannedWorld planned) ctx

end Action

/-! ## The task api -/

/-- Actions on a class and its properties, with the texts they are called with. -/
inductive TaskFunction
  | travelInRealWorld
  | travelInPlannedWorld
  | create (c : ClassName)
  | set (a : Attribute)
  | get (a : Attribute)
  | addTo (r : Relation)
  | traverse (r : Relation)
  | findAllByEmail
  | indexByEmail
  | plannedVersion
  | realVersion
deriving DecidableEq, Repr

namespace TaskFunction

def all : List TaskFunction :=
  [.travelInRealWorld, .travelInPlannedWorld, .findAllByEmail, .indexByEmail, .plannedVersion,
    .realVersion] ++ ClassName.all.map .create ++ Attribute.all.map .set ++
    Attribute.all.map .get ++ Relation.all.map .addTo ++ Relation.all.map .traverse

/-- A class and a property in one name. -/
def qualified (c : ClassName) (property : String) : String :=
  Text.snakeCase c.name ++ "_" ++ Text.snakeCase property

def name : TaskFunction → String
  | .travelInRealWorld => "travel_in_real_world"
  | .travelInPlannedWorld => "travel_in_planned_world"
  | .create c => "create_" ++ Text.snakeCase c.name ++ "_node"
  | .set a => "set_" ++ qualified a.owner a.key
  | .get a => "get_" ++ qualified a.owner a.key
  | .addTo r => "add_to_" ++ qualified r.owner r.key
  | .traverse r => "traverse_" ++ qualified r.owner r.key
  | .findAllByEmail => "find_all_by_email"
  | .indexByEmail => "index_by_email"
  | .plannedVersion => "get_planned_version_node"
  | .realVersion => "get_real_version_node"

def ofName? (name : String) : Option TaskFunction := all.find? (·.name == name)

/-- The action, where only some functions look at the value. -/
def action (plannedWorld : PlannedWorld) (value : String) : TaskFunction → Action
  | .travelInRealWorld => .named (.travelInWorld (toString realWorld))
  | .travelInPlannedWorld => .named (.travelInWorld (toString (plannedOrReal plannedWorld)))
  | .create c => .named (.createTypedNode c.nodeName)
  | .set a => .named (.setAttribute a.key a.kind.tag value)
  | .get a => .named (.readAttribute a.key)
  | .addTo r => .named (.addVarToRelation r.key value)
  | .traverse r => .named (.traverse r.key)
  | .findAllByEmail => .named (.readGlobalIndex emailIndex)
  | .indexByEmail => .named (.addToGlobalIndex emailIndex emailMembers)
  | .plannedVersion => .inOtherWorld true
  | .realVersion => .inOtherWorld false

end TaskFunction

/-! ## Selections -/

/-- Applies a predicate to nodes of a class; all others are rejected. -/
def select (c : ClassName) (predicate : Node → TaskContext → Bool) (n : Node) (ctx : TaskContext) :
    Bool :=
  (n.downcast? c.accessor).any fun typed => predicate typed ctx

end Sample
end TypedGraph
