/-
Values of attributes.

A value is of one of five kinds.  Each kind has a type of its own, so that
reading a value as a kind gives something of that type or nothing.
-/
import TypedGraph.Number.Shortest

namespace TypedGraph
namespace Nodes

open Number (Double)

inductive ValueKind
  | bool
  | text
  | long
  | int
  | double
deriving DecidableEq, Repr

namespace ValueKind

/-- What values of the kind hold. -/
abbrev type : ValueKind → Type
  | .bool => Bool
  | .text => String
  | .long => Int64
  | .int => Int32
  | .double => Double

/-- Number of the kind in the store. -/
def tag : ValueKind → Nat
  | .bool => 1
  | .text => 2
  | .long => 3
  | .int => 4
  | .double => 5

/-- Name of the tag. -/
def tagName : ValueKind → String
  | .bool => "BOOL"
  | .text => "STRING"
  | .long => "LONG"
  | .int => "INT"
  | .double => "DOUBLE"

def all : List ValueKind := [.bool, .text, .long, .int, .double]

end ValueKind

inductive Value
  | bool (b : Bool)
  | text (s : String)
  | long (n : Int64)
  | int (n : Int32)
  | double (x : Double)
deriving DecidableEq

namespace Value

def kind : Value → ValueKind
  | .bool _ => .bool
  | .text _ => .text
  | .long _ => .long
  | .int _ => .int
  | .double _ => .double

def tag (v : Value) : Nat := v.kind.tag

def of : (k : ValueKind) → k.type → Value
  | .bool, b => .bool b
  | .text, s => .text s
  | .long, n => .long n
  | .int, n => .int n
  | .double, x => .double x

/-- What a value of the kind holds. -/
def as? : (k : ValueKind) → Value → Option k.type
  | .bool, .bool b => some b
  | .text, .text s => some s
  | .long, .long n => some n
  | .int, .int n => some n
  | .double, .double x => some x
  | _, _ => none

def display : Value → String
  | .bool b => if b then "true" else "false"
  | .text s => s
  | .long n => toString n.toInt
  | .int n => toString n.toInt
  | .double x => x.text

@[simp] theorem as?_of (k : ValueKind) (a : k.type) : as? k (of k a) = some a := by
  cases k <;> rfl

theorem as?_eq_some_iff {k : ValueKind} {v : Value} {a : k.type} :
    as? k v = some a ↔ v = of k a := by
  cases k <;> cases v <;> simp [as?, of]

end Value

end Nodes
end TypedGraph
