/-
Resolving nodes in another world.

Every node of the input is looked up anew, and what is found takes its slot.
The callback of a lookup fills its slot and then counts, the caller registers a
continuation, and a schedule says in which order all of this happens.  The
continuation takes the slots and hands on what is in them.
-/
import TypedGraph.Nodes.Action
import TypedGraph.Nodes.Counter
import TypedGraph.Nodes.Interleaving

namespace TypedGraph
namespace Nodes

/-- A resolution under way. -/
structure Resolution where
  slots : List (Option Node)
  counter : Counter Unit
  /-- The lists handed on so far. -/
  handedOn : List (List Node) := []
deriving DecidableEq, Repr

namespace Resolution

/-- What can happen next, each under a lock. -/
inductive Step
  /-- What a lookup found takes its slot. -/
  | fill (slot : Nat) (found : Option Node)
  /-- A callback counts. -/
  | count
  /-- The continuation is registered. -/
  | register
deriving DecidableEq, Repr

def start (count : Nat) : Resolution :=
  { slots := List.replicate count none, counter := .new count }

/-- Takes the slots and hands on what is in them, if the continuation runs. -/
def resume (r : Resolution) : Counter Unit × Option Unit → Resolution
  | (counter, some ()) =>
    { slots := [], counter, handedOn := r.handedOn ++ [r.slots.filterMap id] }
  | (counter, none) => { r with counter }

def step (r : Resolution) : Step → Resolution
  | .fill slot found => { r with slots := r.slots.set slot found }
  | .count => r.resume r.counter.count
  | .register => r.resume (r.counter.andThen ())

def run (r : Resolution) (schedule : List Step) : Resolution := schedule.foldl step r

/-- The callbacks of the lookups of ids, and the caller. -/
def threads (find : Int → Option Node) (ids : List Int) : List (List Step) :=
  (ids.mapIdx fun slot id => [.fill slot (find id), .count]) ++ [[.register]]

/-- The schedule of a graph that answers at once. -/
def schedule (find : Int → Option Node) (ids : List Int) : List Step := (threads find ids).flatten

end Resolution

/-- The context after its nodes were resolved on a schedule. -/
def resolveOn (schedule : List Resolution.Step) (ctx : TaskContext) : TaskContext :=
  ((Resolution.start ctx.nodes.length).run schedule).handedOn.foldl TaskContext.continueWith ctx

/-- Replaces the nodes of a context by what they are in a world. -/
def resolveIn (g : Graph) (world : Int) (ctx : TaskContext) : TaskContext :=
  resolveOn (Resolution.schedule (g.lookup world ctx.time) (ctx.nodes.map (·.id))) ctx

end Nodes
end TypedGraph
