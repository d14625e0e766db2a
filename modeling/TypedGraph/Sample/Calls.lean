/-
Runs of calls on one graph.

A call goes to the facade or to an accessor.  What an accessor call does depends
on the id of its handle only, not on the world and time of the handle nor on the
accessor it is seen through, so a student stands for a person wherever one is
asked for.  The calls of a run are kept with the latest first, and what a run
told the graph last is read off from them.
-/
import TypedGraph.Sample.Facade

namespace TypedGraph
namespace Sample

open Nodes (Node Value)

inductive Call
  | connect (planned : PlannedWorld)
  | disconnect
  | create (c : ClassName) (world time : Int)
  | get (n : Node) (a : Attribute)
  | set (n : Node) (a : Attribute) (value : a.kind.type)
  | related (n : Node) (r : Relation)
  | addTo (n : Node) (r : Relation) (other : Node)
  | removeFrom (n : Node) (r : Relation) (other : Node)
  | indexByEmail (n : Node)
  | findByEmail (world time : Int) (query : String)
  | findAllByEmail (world time : Int)

namespace Call

def handles : Call → List Node
  | .get n _ | .set n _ _ | .related n _ | .indexByEmail n => [n]
  | .addTo n _ other | .removeFrom n _ other => [n, other]
  | _ => []

/-- The graph after a call. -/
def perform (g : Nodes.Graph) : Call → Nodes.Graph
  | .connect planned => (Sample.connect planned g).2.2
  | .disconnect => g.disconnect.2
  | .create c world time => (newNode g c world time).2
  | .get n .mood => (Mood.read g n).1
  | .set n a value =>
    match Sample.set g n a value with
    | .ok after => after
    | .error _ => g
  | .addTo n r other => Sample.addTo g n r other
  | .removeFrom n r other => Sample.removeFrom g n r other
  | .indexByEmail n => Sample.indexByEmail g n
  | .get .. | .related .. | .findByEmail .. | .findAllByEmail .. => g

/-- All handles are of stored nodes. -/
def Reaches (c : Call) (g : Nodes.Graph) : Prop := ∀ n ∈ c.handles, g.store.contains n.id

instance (c : Call) (g : Nodes.Graph) : Decidable (c.Reaches g) :=
  inferInstanceAs (Decidable (∀ n ∈ c.handles, g.store.contains n.id))

end Call

/-- Calls that lead from one graph to another, the latest first. -/
inductive Run (start : Nodes.Graph) : List Call → Nodes.Graph → Prop
  | start : Run start [] start
  | call {past : List Call} {g : Nodes.Graph} (c : Call) :
      Run start past g → c.Reaches g → Run start (c :: past) (c.perform g)

/-- What a call writes, if it is a call of a setter on the node. -/
def Call.writes? (id : Int) (a : Attribute) : Call → Option Value
  | .set n b value => if n.id = id ∧ b = a then some (.of b.kind value) else none
  | _ => none

/-- What the latest call of a setter on a node wrote. -/
def written? (id : Int) (a : Attribute) (past : List Call) : Option Value :=
  past.findSome? (·.writes? id a)

/-- The text of a node's email address when it last entered the index; an unset
address counts as empty. -/
def enteredEmail? (id : Int) : List Call → Option String
  | [] => none
  | .indexByEmail n :: past =>
    if n.id = id then some (((written? id .email past).map Value.display).getD "")
    else enteredEmail? id past
  | _ :: past => enteredEmail? id past

end Sample
end TypedGraph
