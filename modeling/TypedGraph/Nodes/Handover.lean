/-
Handing a result over at a gate.

Completions count at a gate, and one that wraps leaves a result there before it
counts.  A waiter looks at the gate: it sleeps at a closed one, and takes the
result of an open one.  The count that opens the gate wakes the waiter up, but it
may also wake up for no reason, so that it can look again at any time.
-/
import TypedGraph.Nodes.Gate
import TypedGraph.Nodes.Interleaving

namespace TypedGraph
namespace Nodes

/-- A gate and the one who waits at it. -/
structure Handover (ν : Type) {ι : Type} (type : ι → Type) where
  gate : Gate ν
  asleep : Bool := false
  /-- What the calls of the waiter returned so far, each with the type it asked for. -/
  returned : List (Σ k, Option (type k)) := []

namespace Handover

variable {ν ι : Type} {type : ι → Type}

/-- What can happen next, each under the lock of the gate. -/
inductive Step (ν ι : Type)
  /-- A completion leaves its result. -/
  | store (result : Option ν)
  /-- A completion counts. -/
  | count
  /-- The waiter looks whether its call can return. -/
  | look (k : ι)
deriving DecidableEq, Repr

def start (expected : Nat) : Handover ν type := { gate := .new expected }

def step [Tagged ν type] (s : Handover ν type) : Step ν ι → Handover ν type
  | .store result => { s with gate := s.gate.store result }
  | .count => { s with gate := s.gate.count, asleep := s.asleep && !s.gate.count.isOpen }
  | .look k =>
    if s.gate.isOpen then
      let (result, gate) := s.gate.take k
      { gate, returned := s.returned ++ [⟨k, result⟩] }
    else { s with asleep := true }

def run [Tagged ν type] (s : Handover ν type) (schedule : List (Step ν ι)) : Handover ν type :=
  schedule.foldl step s

/-- A call that counts, and may leave a result before. -/
inductive Completion (ν : Type)
  | count
  | wrap (result : Option ν)
deriving DecidableEq, Repr

def Completion.steps : Completion ν → List (Step ν ι)
  | .count => [.count]
  | .wrap result => [.store result, .count]

/-- Completions, and a waiter that looks some number of times.  Once its call has
returned, it looks for another call. -/
def threads (completions : List (Completion ν)) (k : ι) (looks : Nat) : List (List (Step ν ι)) :=
  completions.map Completion.steps ++ [List.replicate looks (.look k)]

/-- The steps of a completion, when nobody acts between them, are its call. -/
theorem gate_run_steps [Tagged ν type] (s : Handover ν type) (c : Completion ν) :
    (s.run c.steps).gate = match c with
      | .count => s.gate.count
      | .wrap result => s.gate.wrap result := by
  cases c <;> rfl

end Handover

end Nodes
end TypedGraph
