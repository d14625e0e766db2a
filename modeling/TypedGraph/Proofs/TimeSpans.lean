/-
The algebra of times and spans.

Times and spans are 64-bit numbers, counts are 32-bit ones, and results that do
not fit are refused.  A span of any count fits, so what a function says is told by
the exact sum or difference alone.  From there the laws of the integers carry
over, each as far as its operations are defined: going back undoes going on, two
steps make one, and a unit is so many of the next smaller one.
-/
import TypedGraph.Sample.Clock

namespace TypedGraph
namespace Sample
namespace TimeUnit

variable {u : TimeUnit} {e e' : TimeOverflow} {n : Int} {c d : Int64} {count : Int32}

theorem isTime_iff : IsTime n ↔ -9223372036854775808 ≤ n ∧ n < 9223372036854775808 := by
  have hleast : leastTime = -9223372036854775808 := rfl
  have hgreatest : greatestTime = 9223372036854775807 := rfl
  unfold IsTime
  omega

theorem isTime_toInt (c : Int64) : IsTime c.toInt :=
  isTime_iff.mpr ⟨c.le_toInt, c.toInt_lt⟩

theorem toInt_ofInt (h : IsTime n) : (Int64.ofInt n).toInt = n :=
  Int64.toInt_ofInt_of_le (isTime_iff.mp h).1 (isTime_iff.mp h).2

/-! ## Checked results -/

theorem checked_eq_ok : checked e n = .ok d ↔ d.toInt = n := by
  by_cases h : IsTime n
  · rw [checked, if_pos h, Except.ok.injEq, ← Int64.toInt_inj, toInt_ofInt h]
    exact eq_comm
  · rw [checked, if_neg h]
    refine iff_of_false (fun heq => nomatch heq) ?_
    intro hd
    exact h (hd ▸ isTime_toInt d)

theorem checked_eq_error : checked e n = .error e' ↔ e' = e ∧ ¬IsTime n := by
  by_cases h : IsTime n
  · rw [checked, if_pos h]
    exact iff_of_false (fun heq => nomatch heq) (fun hneg => hneg.2 h)
  · rw [checked, if_neg h, Except.error.injEq]
    exact ⟨fun heq => ⟨heq.symm, h⟩, fun heq => heq.1.symm⟩

/-- Which operation was refused shows in the refusal alone. -/
theorem toOption_checked : (checked e n).toOption = (checked e' n).toOption := by
  by_cases h : IsTime n
  · rw [checked, checked, if_pos h, if_pos h]
  · rw [checked, checked, if_neg h, if_neg h]
    rfl

/-! ## Spans -/

theorem isTime_span (u : TimeUnit) (count : Int32) : IsTime (count.toInt * u.milliseconds) := by
  have hleast := count.le_toInt
  have hgreatest := count.toInt_lt
  rw [isTime_iff]
  cases u <;> simp only [milliseconds] <;> omega

/-- The product that a span is does fit. -/
theorem span_eq (u : TimeUnit) (count : Int32) :
    ∃ s, u.span count = .ok s ∧ s.toInt = count.toInt * u.milliseconds := by
  have hspan := toInt_ofInt (isTime_span u count)
  exact ⟨_, checked_eq_ok.mpr hspan, hspan⟩

theorem next_eq (u : TimeUnit) (c : Int64) (count : Int32) :
    u.next c count = checked .after (c.toInt + count.toInt * u.milliseconds) := by
  obtain ⟨s, hs, hvalue⟩ := span_eq u count
  rw [next, hs, ← hvalue]
  rfl

theorem previous_eq (u : TimeUnit) (c : Int64) (count : Int32) :
    u.previous c count = checked .before (c.toInt - count.toInt * u.milliseconds) := by
  obtain ⟨s, hs, hvalue⟩ := span_eq u count
  rw [previous, hs, ← hvalue]
  rfl

/-- A later time is defined by the exact sum. -/
theorem next_eq_ok : u.next c count = .ok d ↔ d.toInt = c.toInt + count.toInt * u.milliseconds := by
  rw [next_eq, checked_eq_ok]

theorem previous_eq_ok :
    u.previous c count = .ok d ↔ d.toInt = c.toInt - count.toInt * u.milliseconds := by
  rw [previous_eq, checked_eq_ok]

/-! ## Laws -/

theorem next_eq_ok_iff_previous : u.next c count = .ok d ↔ u.previous d count = .ok c := by
  rw [next_eq_ok, previous_eq_ok]
  omega

/-- All counts but the least have an opposite. -/
theorem toInt_neg_of_ne (h : count ≠ Int32.minValue) : (-count).toInt = -count.toInt := by
  have hne : count.toInt ≠ -2 ^ 31 := by
    intro heq
    exact h (Int32.toInt_inj.mp (heq.trans Int32.toInt_minValue.symm))
  have hleast := count.le_toInt
  have hgreatest := count.toInt_lt
  rw [Int32.toInt_neg]
  exact Int.bmod_eq_of_le (by omega) (by omega)

theorem next_neg (h : count ≠ Int32.minValue) (c : Int64) :
    (u.next c (-count)).toOption = (u.previous c count).toOption := by
  have hsum : c.toInt + (-count).toInt * u.milliseconds =
      c.toInt - count.toInt * u.milliseconds := by
    rw [toInt_neg_of_ne h, Int.neg_mul, Int.sub_eq_add_neg]
  rw [next_eq, previous_eq, hsum]
  exact toOption_checked

/-- The least count is its own opposite, so that going on by the opposite is not
going back. -/
example : (TimeUnit.second.next 0 (-Int32.minValue)).toOption ≠
    (TimeUnit.second.previous 0 Int32.minValue).toOption := by
  decide

/-- Two steps from a time make one step, if the first can be taken. -/
theorem next_next {a b ab : Int32} (hab : ab.toInt = a.toInt + b.toInt)
    (h : u.next c a = .ok d) : u.next d b = u.next c ab := by
  have hsum : d.toInt + b.toInt * u.milliseconds = c.toInt + ab.toInt * u.milliseconds := by
    rw [next_eq_ok.mp h, hab, Int.add_mul, Int.add_assoc]
  rw [next_eq, next_eq, hsum]

/-- A unit as a number of the next smaller ones. -/
def smaller? : TimeUnit → Option (TimeUnit × Int)
  | .second => none
  | .minute => some (.second, 60)
  | .hour => some (.minute, 60)
  | .day => some (.hour, 24)

theorem milliseconds_of_smaller {v : TimeUnit} (h : u.smaller? = some (v, n)) :
    u.milliseconds = n * v.milliseconds := by
  cases u with
  | second => exact nomatch h
  | minute | hour | day =>
    obtain ⟨rfl, rfl⟩ := Prod.mk.inj (Option.some.inj h)
    rfl

/-- The functions of a unit follow the arithmetic of the integers. -/
structure LawfulSpans (u : TimeUnit) : Prop where
  span : ∀ a, ∃ s, u.span a = .ok s ∧ s.toInt = a.toInt * u.milliseconds
  next_ok : ∀ c a d, u.next c a = .ok d ↔ d.toInt = c.toInt + a.toInt * u.milliseconds
  next_error : ∀ c a e,
    u.next c a = .error e ↔ e = .after ∧ ¬IsTime (c.toInt + a.toInt * u.milliseconds)
  previous_ok : ∀ c a d, u.previous c a = .ok d ↔ d.toInt = c.toInt - a.toInt * u.milliseconds
  previous_error : ∀ c a e,
    u.previous c a = .error e ↔ e = .before ∧ ¬IsTime (c.toInt - a.toInt * u.milliseconds)
  /-- Going back undoes going on, and the other way round. -/
  inverse : ∀ c a d, u.next c a = .ok d ↔ u.previous d a = .ok c
  /-- Both are undefined, or equal. -/
  opposite : ∀ c a, a ≠ Int32.minValue →
    (u.next c (-a)).toOption = (u.previous c a).toOption
  /-- The second step can be taken where the one step can. -/
  compose : ∀ c a b ab d, ab.toInt = a.toInt + b.toInt → u.next c a = .ok d →
    u.next d b = u.next c ab
  scale : ∀ v n a b, u.smaller? = some (v, n) → b.toInt = n * a.toInt →
    u.span a = v.span b ∧ ∀ c, u.next c a = v.next c b ∧ u.previous c a = v.previous c b

/-- The functions of every unit are lawful, for all times and counts. -/
theorem spans_lawful (u : TimeUnit) : LawfulSpans u where
  span := span_eq u
  next_ok c a d := next_eq_ok
  next_error c a e := by rw [next_eq, checked_eq_error]
  previous_ok c a d := previous_eq_ok
  previous_error c a e := by rw [previous_eq, checked_eq_error]
  inverse c a d := next_eq_ok_iff_previous
  opposite c a h := next_neg h c
  compose c a b ab d hab h := next_next hab h
  scale v n a b hsmaller hab := by
    have hproduct : a.toInt * u.milliseconds = b.toInt * v.milliseconds := by
      rw [milliseconds_of_smaller hsmaller, hab, ← Int.mul_assoc, Int.mul_comm a.toInt n]
    refine ⟨?_, fun c => ⟨?_, ?_⟩⟩
    · rw [TimeUnit.span, TimeUnit.span, hproduct]
    · rw [next_eq, next_eq, hproduct]
    · rw [previous_eq, previous_eq, hproduct]

end TimeUnit
end Sample
end TypedGraph
