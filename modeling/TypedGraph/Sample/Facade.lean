/-
The facade of the sample model.

The planned world is forked once in a process, by the first facade that is
connected, and then stays the same for all of them.
-/
import TypedGraph.Sample.Classes

namespace TypedGraph
namespace Sample

open Nodes (Node Plugin)

/-- The world that all others are forked from. -/
def realWorld : Int := 0

/-- Registers the accessors of all classes. -/
def plugin : Plugin :=
  { factories := ClassName.all.map fun c => (c.nodeName, c.accessor) }

/-- A graph with the plugins that the model needs after those given. -/
def newGraph (plugins : List Plugin) : Nodes.Graph :=
  .build (plugins ++ [plugin, Nodes.Learner.plugin])

/-- The planned world of the process, once there is one. -/
abbrev PlannedWorld := Option Int

/-- Connects a graph.  If there is no planned world yet it is forked. -/
def connect (planned : PlannedWorld) (g : Nodes.Graph) : Bool × PlannedWorld × Nodes.Graph :=
  match g.connect with
  | (false, g) => (false, planned, g)
  | (true, g) =>
    match planned with
    | some world => (true, some world, g)
    | none =>
      match g.fork with
      | (world, g) => (true, some world, g)

/-- The planned world, or the real one as long as there is none. -/
def plannedOrReal (planned : PlannedWorld) : Int := planned.getD realWorld

/-- A new node of a class.  There is none when no accessor is registered. -/
def newNode (g : Nodes.Graph) (c : ClassName) (world time : Int) : Option Node × Nodes.Graph :=
  match g.newNode world time c.nodeName with
  | (n, g) => (n.downcast? c.accessor, g)

/-- Hands a callback the persons in the index that satisfy a query; none without
the index. -/
def findByEmailThen {α : Type} (g : Nodes.Graph) (world time : Int) (query : String)
    (callback : List Node → α) : α :=
  match g.indexIfExists world time emailIndex with
  | some index => callback ((g.find index query).filterMap (·.downcast? ClassName.person.accessor))
  | none => callback []

def findAllByEmailThen {α : Type} (g : Nodes.Graph) (world time : Int)
    (callback : List Node → α) : α :=
  match g.indexIfExists world time emailIndex with
  | some index => callback ((g.findAll index).filterMap (·.downcast? ClassName.person.accessor))
  | none => callback []

def findByEmail (g : Nodes.Graph) (world time : Int) (query : String) : List Node :=
  findByEmailThen g world time query id

def findAllByEmail (g : Nodes.Graph) (world time : Int) : List Node :=
  findAllByEmailThen g world time id

end Sample
end TypedGraph
