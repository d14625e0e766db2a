/-
Runs of calls in one process.

All facades of a process share its planned world, while every graph counts the
worlds that are forked from it.  A graph is known by its place among those that
were built, and so is the facade that owns it.  The calls of a run are kept with
the latest first.
-/
import TypedGraph.Sample.Facade

namespace TypedGraph
namespace Sample

open Nodes (Plugin)

structure Process where
  planned : PlannedWorld := none
  /-- The graphs in the order they were built. -/
  graphs : List Nodes.Graph := []

namespace Process

inductive Answer
  | built
  | done (success : Bool)
  | world (id : Int)
deriving DecidableEq, Repr

/-- A call that concerns one graph. -/
inductive GraphCall
  /-- The facade of the graph is connected. -/
  | connect
  /-- The graph itself is connected, which no facade gets to know. -/
  | connectGraph
  | disconnect
  | save
  | fork (parent : Int)
deriving DecidableEq, Repr

/-- The answer of a call, with the planned world and the graph after it.  The
parent of a forked world is not looked at. -/
def GraphCall.perform (planned : PlannedWorld) (g : Nodes.Graph) :
    GraphCall → Answer × PlannedWorld × Nodes.Graph
  | .connect => match Sample.connect planned g with
    | (success, planned, g) => (.done success, planned, g)
  | .connectGraph => match g.connect with
    | (success, g) => (.done success, planned, g)
  | .disconnect => match g.disconnect with
    | (success, g) => (.done success, planned, g)
  | .save => (.done g.save, planned, g)
  | .fork _ => match g.fork with
    | (world, g) => (.world world, planned, g)

inductive Call
  /-- Builds a graph.  A facade gives its own plugins after those it was given. -/
  | build (plugins : List Plugin)
  | on (graph : Nat) (call : GraphCall)

/-- What a call does, unless there is no such graph. -/
def step (p : Process) : Call → Option (Answer × Process)
  | .build plugins => some (.built, { p with graphs := p.graphs ++ [.build plugins] })
  | .on i call => p.graphs[i]?.map fun g =>
    match call.perform p.planned g with
    | (answer, planned, g) => (answer, { planned, graphs := p.graphs.set i g })

/-- A call that was made, its answer, and the planned world that there was then. -/
structure Event where
  call : Call
  answer : Answer
  planned : PlannedWorld

/-- Calls from the start of a process, the latest first. -/
inductive Run : List Event → Process → Prop
  | start : Run [] {}
  | call {past : List Event} {p q : Process} {c : Call} {answer : Answer} :
      Run past p → p.step c = some (answer, q) → Run (⟨c, answer, q.planned⟩ :: past) q

/-- The graph whose facade an event connected. -/
def Event.connected? (e : Event) : Option Nat :=
  match e.call, e.answer with
  | .on i .connect, .done true => some i
  | _, _ => none

/-- No facade has been connected. -/
def Unconnected (past : List Event) : Prop := ∀ e ∈ past, e.connected? = none

instance (past : List Event) : Decidable (Unconnected past) :=
  inferInstanceAs (Decidable (∀ e ∈ past, e.connected? = none))

/-- The world that an event forked from a graph.  Of the facades that are connected
only the first forks one, which is the planned world then. -/
def Event.forked? (e : Event) (past : List Event) (i : Nat) : Option Int :=
  match e.call, e.answer with
  | .on j (.fork _), .world id => if j = i then some id else none
  | .on j .connect, .done true => if j = i ∧ Unconnected past then e.planned else none
  | _, _ => none

/-- The worlds that were forked from a graph, in order. -/
def forkedFrom (i : Nat) : List Event → List Int
  | [] => []
  | e :: past => forkedFrom i past ++ (e.forked? past i).toList

/-- The id of the last world that was forked from a graph, or that of the real one. -/
def lastWorld (p : Process) (i : Nat) : Int :=
  (p.graphs[i]?.map (·.store.lastWorld)).getD realWorld

end Process

end Sample
end TypedGraph
