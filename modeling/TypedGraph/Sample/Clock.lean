/-
Spans of time in milliseconds.

A span is a number of units, and a time before or after another one lies a span
away from it.  All of this is arithmetic on 64 bits, which fails where its result
does not fit.
-/

namespace TypedGraph
namespace Sample

inductive TimeUnit
  | second
  | minute
  | hour
  | day
deriving DecidableEq, Repr

namespace TimeUnit

def all : List TimeUnit := [.second, .minute, .hour, .day]

def milliseconds : TimeUnit → Int
  | .second => 1000
  | .minute => 60 * 1000
  | .hour => 60 * 60 * 1000
  | .day => 24 * 60 * 60 * 1000

/-- Name of the function for spans of the unit. -/
def plural : TimeUnit → String
  | .second => "seconds"
  | .minute => "minutes"
  | .hour => "hours"
  | .day => "days"

end TimeUnit

/-- An operation whose result does not fit. -/
inductive TimeOverflow
  | product
  | after
  | before
deriving DecidableEq, Repr

def TimeOverflow.message : TimeOverflow → String
  | .product => "attempt to multiply with overflow"
  | .after => "attempt to add with overflow"
  | .before => "attempt to subtract with overflow"

namespace TimeUnit

def leastTime : Int := -Int.pow 2 63

def greatestTime : Int := Int.pow 2 63 - 1

def IsTime (n : Int) : Prop := leastTime ≤ n ∧ n ≤ greatestTime

instance (n : Int) : Decidable (IsTime n) := inferInstanceAs (Decidable (_ ∧ _))

/-- The number that an operation gives, if it has 64 bits. -/
def checked (e : TimeOverflow) (n : Int) : Except TimeOverflow Int64 :=
  if IsTime n then .ok (Int64.ofInt n) else .error e

/-- So many units. -/
def span (u : TimeUnit) (count : Int32) : Except TimeOverflow Int64 :=
  checked .product (count.toInt * u.milliseconds)

/-- So many units after a time. -/
def next (u : TimeUnit) (current : Int64) (count : Int32) : Except TimeOverflow Int64 := do
  let span ← u.span count
  checked .after (current.toInt + span.toInt)

/-- So many units before a time. -/
def previous (u : TimeUnit) (current : Int64) (count : Int32) : Except TimeOverflow Int64 := do
  let span ← u.span count
  checked .before (current.toInt - span.toInt)

end TimeUnit

/-- The functions on times and spans. -/
inductive TimeFunction
  | span (u : TimeUnit)
  | next (u : TimeUnit)
  | previous (u : TimeUnit)
deriving DecidableEq, Repr

namespace TimeFunction

def all : List TimeFunction :=
  TimeUnit.all.map .span ++ TimeUnit.all.map .next ++ TimeUnit.all.map .previous

def name : TimeFunction → String
  | .span u => u.plural
  | .next u => "next_" ++ u.plural
  | .previous u => "prev_" ++ u.plural

def ofName? (s : String) : Option TimeFunction := all.find? (·.name == s)

/-- The result of a function, where spans do not look at the time. -/
def eval (current : Int64) (count : Int32) : TimeFunction → Except TimeOverflow Int
  | .span u => (u.span count).map (·.toInt)
  | .next u => (u.next current count).map (·.toInt)
  | .previous u => (u.previous current count).map (·.toInt)

end TimeFunction

end Sample
end TypedGraph
