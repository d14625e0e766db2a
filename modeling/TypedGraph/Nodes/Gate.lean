/-
Gates that a caller waits at.

A gate opens when it has been counted as often as it was told.  It can carry one
result to whoever waits, and callers may ask for results of different types.
`wrap` is two steps, the storing of a result and a count, between which other
callers may act.
-/
import TypedGraph.Nodes.Value

namespace TypedGraph
namespace Nodes

/-- Values of the types of a family, which are given back to those who ask for their
type. -/
class Tagged (ν : Type) {ι : outParam Type} (type : outParam (ι → Type)) where
  of (k : ι) : type k → ν
  as? (k : ι) : ν → Option (type k)
  as?_eq_some_iff {k : ι} {v : ν} {a : type k} : as? k v = some a ↔ v = of k a

instance : Tagged Value ValueKind.type where
  of := Value.of
  as? := Value.as?
  as?_eq_some_iff := Value.as?_eq_some_iff

/-- A gate carries values of attributes unless stated otherwise. -/
structure Gate (ν : Type := Value) where
  remaining : Nat
  result : Option ν := none
deriving DecidableEq

namespace Gate

variable {ν ι : Type} {type : ι → Type}

def new (expected : Nat) : Gate ν := { remaining := expected }

def isOpen (g : Gate ν) : Bool := g.remaining == 0

def count (g : Gate ν) : Gate ν := { g with remaining := g.remaining - 1 }

/-- Leaves a result, or takes away the one that was left. -/
def store (g : Gate ν) (result : Option ν) : Gate ν := { g with result }

/-- Leaves a result and counts. -/
def wrap (g : Gate ν) (result : Option ν) : Gate ν := (g.store result).count

/-- Takes the result, whatever its type; only one of the asked type is handed on.
Callers wait for the gate to open first. -/
def take [Tagged ν type] (g : Gate ν) (k : ι) : Option (type k) × Gate ν :=
  (g.result.bind (Tagged.as? k), { g with result := none })

theorem isOpen_iff {g : Gate ν} : g.isOpen ↔ g.remaining = 0 := beq_iff_eq

end Gate

end Nodes
end TypedGraph
