/-
Counters that something waits for.

A counter is told how often it will be counted.  What waits for it is one
continuation, which is handed back at the last count, or at once when nothing is
left to count.
-/

namespace TypedGraph
namespace Nodes

/-- The counts that are left, and what waits for the last of them. -/
structure Counter (κ : Type) where
  remaining : Nat
  waiting : Option κ := none
deriving DecidableEq, Repr

namespace Counter

variable {κ : Type}

def new (expected : Nat) : Counter κ := { remaining := expected }

/-- Counts once.  The result holds the continuation that now runs. -/
def count (c : Counter κ) : Counter κ × Option κ :=
  let remaining := c.remaining - 1
  if remaining = 0 then ({ remaining }, c.waiting) else ({ c with remaining }, none)

/-- Has a continuation wait in place of another, or run at once when there is
nothing to wait for. -/
def andThen (c : Counter κ) (continuation : κ) : Counter κ × Option κ :=
  if c.remaining > 0 then ({ c with waiting := some continuation }, none)
  else (c, some continuation)

theorem count_of_lt {c : Counter κ} (h : 1 < c.remaining) :
    c.count = ({ c with remaining := c.remaining - 1 }, none) := by
  have hleft : ¬c.remaining - 1 = 0 := by omega
  simp only [count, if_neg hleft]

theorem count_of_le {c : Counter κ} (h : c.remaining ≤ 1) :
    c.count = ({ remaining := 0 }, c.waiting) := by
  have hleft : c.remaining - 1 = 0 := by omega
  simp only [count, hleft, if_true]

theorem andThen_of_pos {c : Counter κ} (h : 0 < c.remaining) (continuation : κ) :
    c.andThen continuation = ({ c with waiting := some continuation }, none) := if_pos h

theorem andThen_of_zero {c : Counter κ} (h : c.remaining = 0) (continuation : κ) :
    c.andThen continuation = (c, some continuation) := if_neg (by omega)

/-- A call through any of the handles of a counter, which all share its state.  A
call has that state to itself, and a continuation runs once it is free again. -/
inductive Call (κ : Type)
  | count
  | andThen (continuation : κ)
deriving DecidableEq, Repr

def perform (c : Counter κ) : Call κ → Counter κ × Option κ
  | .count => c.count
  | .andThen continuation => c.andThen continuation

/-- The state that calls lead to. -/
def after (c : Counter κ) (calls : List (Call κ)) : Counter κ :=
  calls.foldl (fun c call => (c.perform call).1) c

/-- What the call at a position runs. -/
def ran (c : Counter κ) (calls : List (Call κ)) (position : Nat) : Option κ :=
  calls[position]?.bind fun call => ((c.after (calls.take position)).perform call).2

def display (c : Counter κ) : String :=
  "Counter \x7b remaining: " ++ toString c.remaining ++ ", .. \x7d"

end Counter

end Nodes
end TypedGraph
