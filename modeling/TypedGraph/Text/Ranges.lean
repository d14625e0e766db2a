/-
Character classes given as tables of code point ranges.

A class is an array of closed ranges in ascending order, and `inRanges` asks
whether a character lies in one of them.  Every class of the library that goes
beyond ASCII is such a table, so that its members can be read off.
-/

namespace TypedGraph
namespace Text

/-- Whether a character lies in one of the closed ranges. -/
def inRanges (ranges : Array (Nat × Nat)) (c : Char) : Bool :=
  ranges.any fun r => r.1 ≤ c.toNat && c.toNat ≤ r.2

end Text
end TypedGraph
