/-
Counters under any schedule of calls.

Handles of a counter call it in any order, and `Interleaving` says which schedules
their callers can give.  The state after some calls is told by how many of them
counted and by which continuation was registered last, whatever the order was
(`after_new`).  Everything about continuations is read off from there.  Two calls
may register the same continuation, so each is known by the position of its call
(`numbered`).
-/
import Mathlib.Data.List.Induction
import Mathlib.Data.Nat.Find
import TypedGraph.Nodes.Counter
import TypedGraph.Nodes.Interleaving

namespace TypedGraph
namespace Nodes
namespace Counter

variable {κ κ' : Type} {expected : Nat} {calls past : List (Call κ)} {call : Call κ}
  {continuation : κ} {i j m n : Nat}

namespace Call

def isCount : Call κ → Bool
  | .count => true
  | .andThen _ => false

def continuation? : Call κ → Option κ
  | .count => none
  | .andThen continuation => some continuation

def map (f : κ → κ') : Call κ → Call κ'
  | .count => .count
  | .andThen continuation => .andThen (f continuation)

end Call

/-! ## Counts -/

/-- How many of the calls count. -/
def counts (calls : List (Call κ)) : Nat := calls.countP Call.isCount

theorem counts_concat (past : List (Call κ)) (call : Call κ) :
    counts (past ++ [call]) = counts past + if call.isCount then 1 else 0 := by
  rw [counts, List.countP_append, List.countP_singleton]
  rfl

theorem counts_take_succ (h : calls[i]? = some call) :
    counts (calls.take (i + 1)) = counts (calls.take i) + if call.isCount then 1 else 0 := by
  rw [List.take_add_one, h]
  exact counts_concat _ call

theorem counts_take_mono (calls : List (Call κ)) (h : m ≤ n) :
    counts (calls.take m) ≤ counts (calls.take n) :=
  (List.take_sublist_take_left h).countP_le

/-- The call with which the expected counts are complete. -/
def IsLastCount (expected : Nat) (calls : List (Call κ)) (i : Nat) : Prop :=
  calls[i]? = some .count ∧ counts (calls.take i) + 1 = expected

namespace IsLastCount

theorem counts_succ (h : IsLastCount expected calls i) :
    counts (calls.take (i + 1)) = expected := by
  rw [counts_take_succ h.1]
  exact h.2

theorem unique (hi : IsLastCount expected calls i) (hj : IsLastCount expected calls j) : i = j := by
  have hnot : ∀ {a b}, IsLastCount expected calls a → IsLastCount expected calls b → ¬a < b := by
    intro a b ha hb hlt
    have hmono := counts_take_mono calls (Nat.succ_le_of_lt hlt)
    rw [ha.counts_succ] at hmono
    have := hb.2
    omega
  exact Nat.le_antisymm (Nat.le_of_not_lt (hnot hj hi)) (Nat.le_of_not_lt (hnot hi hj))

/-- If counts are pending at a position and enough of them are made, one of those
that follow is the last. -/
theorem exists_of_pending (hpending : counts (calls.take j) < expected)
    (henough : expected ≤ counts calls) : ∃ i, IsLastCount expected calls i ∧ j ≤ i := by
  have hexists : ∃ n, expected ≤ counts (calls.take n) := ⟨calls.length, by rwa [List.take_length]⟩
  have hcomplete := Nat.find_spec hexists
  generalize hfirst : Nat.find hexists = first at hcomplete
  have hbefore : ∀ n, n < first → counts (calls.take n) < expected := by
    intro n hn
    exact Nat.lt_of_not_le (Nat.find_min hexists (hfirst ▸ hn))
  have hlater : j < first := by
    have hnot : ¬first ≤ j := by
      intro hle
      have := counts_take_mono calls hle
      omega
    omega
  obtain ⟨i, rfl⟩ : ∃ i, first = i + 1 := ⟨first - 1, by omega⟩
  have hincomplete := hbefore i (by omega)
  cases hcall : calls[i]? with
  | none =>
    rw [List.take_add_one, hcall] at hcomplete
    simp at hcomplete
    omega
  | some call =>
    rw [counts_take_succ hcall] at hcomplete
    cases call with
    | count =>
      refine ⟨i, ⟨hcall, ?_⟩, by omega⟩
      simp only [Call.isCount, if_true] at hcomplete
      omega
    | andThen continuation =>
      simp only [Call.isCount, Bool.false_eq_true, if_false] at hcomplete
      omega

end IsLastCount

/-! ## The state after calls -/

/-- The continuation that was registered last. -/
def latest? (calls : List (Call κ)) : Option κ := (calls.filterMap Call.continuation?).getLast?

theorem latest?_concat (past : List (Call κ)) (call : Call κ) :
    latest? (past ++ [call]) = call.continuation?.or (latest? past) := by
  cases call with
  | count => simp [latest?, Call.continuation?]
  | andThen continuation => simp [latest?, Call.continuation?]

theorem after_concat (c : Counter κ) (past : List (Call κ)) (call : Call κ) :
    c.after (past ++ [call]) = ((c.after past).perform call).1 := by
  rw [after, List.foldl_append]
  rfl

/-- What waits is what was registered last, until the expected counts are
complete. -/
theorem after_new (expected : Nat) (calls : List (Call κ)) :
    (new expected).after calls =
      { remaining := expected - counts calls
        waiting := if counts calls < expected then latest? calls else none } := by
  induction calls using List.reverseRecOn with
  | nil =>
    have hnone : (none : Option κ) = if 0 < expected then none else none := by
      rw [ite_self]
    exact congrArg (Counter.mk expected) hnone
  | append_singleton past call ih =>
    rw [after_concat, ih, counts_concat, latest?_concat]
    cases call with
    | count =>
      simp only [perform, Call.isCount, Call.continuation?, if_true, Option.none_or]
      by_cases hleft : 1 < expected - counts past
      · have hpending : counts past < expected := by omega
        have hstill : counts past + 1 < expected := by omega
        rw [count_of_lt hleft, if_pos hpending, if_pos hstill, Nat.sub_sub]
      · have hcomplete : ¬counts past + 1 < expected := by omega
        have hzero : expected - (counts past + 1) = 0 := by omega
        rw [count_of_le (Nat.le_of_not_lt hleft), if_neg hcomplete, hzero]
    | andThen continuation =>
      simp only [perform, Call.isCount, Call.continuation?, Bool.false_eq_true, if_false,
        Nat.add_zero, Option.some_or]
      by_cases hpending : counts past < expected
      · rw [andThen_of_pos (Nat.sub_pos_of_lt hpending), if_pos hpending, if_pos hpending]
      · rw [andThen_of_zero (Nat.sub_eq_zero_of_le (Nat.le_of_not_lt hpending)),
          if_neg hpending, if_neg hpending]

theorem remaining_after (expected : Nat) (calls : List (Call κ)) :
    ((new expected).after calls).remaining = expected - counts calls := by
  rw [after_new]

/-- The last of the expected counts runs what was registered last, and no other
count runs anything. -/
theorem ran_count (h : calls[i]? = some .count) :
    (new expected).ran calls i =
      if counts (calls.take i) + 1 = expected then latest? (calls.take i) else none := by
  rw [ran, h, Option.bind_some, after_new, perform]
  by_cases hleft : 1 < expected - counts (calls.take i)
  · have hlast : ¬counts (calls.take i) + 1 = expected := by omega
    rw [count_of_lt hleft, if_neg hlast]
  · rw [count_of_le (Nat.le_of_not_lt hleft)]
    by_cases hpending : counts (calls.take i) < expected
    · have hlast : counts (calls.take i) + 1 = expected := by omega
      rw [if_pos hpending, if_pos hlast]
    · have hlast : ¬counts (calls.take i) + 1 = expected := by omega
      rw [if_neg hpending, if_neg hlast]

theorem ran_andThen (h : calls[i]? = some (.andThen continuation)) :
    (new expected).ran calls i =
      if counts (calls.take i) < expected then none else some continuation := by
  rw [ran, h, Option.bind_some, after_new, perform]
  by_cases hpending : counts (calls.take i) < expected
  · rw [andThen_of_pos (Nat.sub_pos_of_lt hpending), if_pos hpending, if_pos hpending]
  · rw [andThen_of_zero (Nat.sub_eq_zero_of_le (Nat.le_of_not_lt hpending)), if_neg hpending,
      if_neg hpending]

theorem ran_of_not_call (h : calls[i]? = none) : (new expected).ran calls i = none := by
  rw [ran, h]
  rfl

/-! ## Continuations by the position of their call -/

/-- The calls, where each continuation carries the position that it is registered
at. -/
def numbered (calls : List (Call κ)) : List (Call (Nat × κ)) :=
  calls.mapIdx fun i call => call.map (i, ·)

theorem numbered_concat (past : List (Call κ)) (call : Call κ) :
    numbered (past ++ [call]) = numbered past ++ [call.map (past.length, ·)] :=
  List.mapIdx_concat

theorem getElem?_numbered (calls : List (Call κ)) (i : Nat) :
    (numbered calls)[i]? = calls[i]?.map (Call.map (i, ·)) := by
  rw [numbered, List.getElem?_mapIdx]

theorem take_numbered (calls : List (Call κ)) (i : Nat) :
    (numbered calls).take i = numbered (calls.take i) := by
  refine List.ext_getElem? fun n => ?_
  by_cases h : n < i
  · rw [List.getElem?_take_of_lt h, getElem?_numbered, getElem?_numbered,
      List.getElem?_take_of_lt h]
  · rw [List.getElem?_take_eq_none (Nat.le_of_not_lt h), getElem?_numbered,
      List.getElem?_take_eq_none (Nat.le_of_not_lt h)]
    rfl

theorem counts_numbered (calls : List (Call κ)) : counts (numbered calls) = counts calls := by
  induction calls using List.reverseRecOn with
  | nil => rfl
  | append_singleton past call ih =>
    rw [numbered_concat, counts_concat, counts_concat, ih]
    cases call <;> rfl

/-- A call registers a continuation, whether that runs at once or not. -/
def Registers (calls : List (Call κ)) (j : Nat) : Prop :=
  ∃ continuation, calls[j]? = some (.andThen continuation)

theorem latest?_numbered {p : Nat × κ} : latest? (numbered calls) = some p ↔
    calls[p.1]? = some (.andThen p.2) ∧ ∀ j, p.1 < j → ¬Registers calls j := by
  induction calls using List.reverseRecOn with
  | nil => simp [latest?, numbered]
  | append_singleton past call ih =>
    rw [numbered_concat, latest?_concat]
    cases call with
    | count =>
      have hsame : ∀ (n : Nat) (k : κ), (past ++ [Call.count])[n]? = some (.andThen k) ↔
          past[n]? = some (.andThen k) := by
        intro n k
        rw [List.getElem?_append]
        split
        · rfl
        · next h =>
          have hnone : past[n]? = none := List.getElem?_eq_none (Nat.le_of_not_lt h)
          rw [hnone, List.getElem?_singleton]
          split <;> simp
      simp only [Call.map, Call.continuation?, Option.none_or, ih, Registers, hsame]
    | andThen k =>
      simp only [Call.map, Call.continuation?, Option.some_or, Option.some.injEq]
      constructor
      · rintro rfl
        refine ⟨by simp, ?_⟩
        rintro j hj ⟨k', hk'⟩
        have hend : (past ++ [Call.andThen k]).length ≤ j := by
          rw [List.length_append, List.length_singleton]
          exact hj
        rw [List.getElem?_eq_none hend] at hk'
        exact nomatch hk'
      · rintro ⟨hp, hlast⟩
        have hle : ¬p.1 < past.length := fun hlt => hlast past.length hlt ⟨k, by simp⟩
        have hlt : p.1 < (past ++ [Call.andThen k]).length := (List.getElem?_eq_some_iff.mp hp).1
        rw [List.length_append, List.length_singleton] at hlt
        have heq : past.length = p.1 := by omega
        rw [← heq, List.getElem?_concat_length, Option.some.injEq, Call.andThen.injEq] at hp
        exact Prod.ext heq hp

/-- The call at `i` runs the continuation that the call at `j` registered. -/
def RunsAt (expected : Nat) (calls : List (Call κ)) (i j : Nat) : Prop :=
  ∃ continuation, (new expected).ran (numbered calls) i = some (j, continuation)

theorem ran_numbered_count (h : calls[i]? = some .count) :
    (new expected).ran (numbered calls) i =
      if counts (calls.take i) + 1 = expected then latest? (numbered (calls.take i)) else none := by
  have hcall : (numbered calls)[i]? = some .count := by
    rw [getElem?_numbered, h]
    rfl
  rw [ran_count hcall, take_numbered, counts_numbered]

theorem ran_numbered_andThen (h : calls[i]? = some (.andThen continuation)) :
    (new expected).ran (numbered calls) i =
      if counts (calls.take i) < expected then none else some (i, continuation) := by
  have hcall : (numbered calls)[i]? = some (.andThen (i, continuation)) := by
    rw [getElem?_numbered, h]
    rfl
  rw [ran_andThen hcall, take_numbered, counts_numbered]

theorem latest?_map_snd (calls : List (Call κ)) :
    (latest? (numbered calls)).map Prod.snd = latest? calls := by
  induction calls using List.reverseRecOn with
  | nil => rfl
  | append_singleton past call ih =>
    rw [numbered_concat, latest?_concat, latest?_concat, ← ih]
    cases call <;> rfl

/-- The numbers only tell continuations apart. -/
theorem ran_map_snd (expected : Nat) (calls : List (Call κ)) (i : Nat) :
    ((new expected).ran (numbered calls) i).map Prod.snd = (new expected).ran calls i := by
  cases hcall : calls[i]? with
  | none =>
    have hnone : (numbered calls)[i]? = none := by
      rw [getElem?_numbered, hcall]
      rfl
    rw [ran_of_not_call hcall, ran_of_not_call hnone]
    rfl
  | some call =>
    cases call with
    | count =>
      rw [ran_count hcall, ran_numbered_count hcall, ← latest?_map_snd (calls.take i)]
      split <;> rfl
    | andThen continuation =>
      rw [ran_andThen hcall, ran_numbered_andThen hcall]
      split <;> rfl

/-- A continuation is left in place from its registration to a position. -/
def Remains (calls : List (Call κ)) (j i : Nat) : Prop :=
  j < i ∧ ∀ n, j < n → n < i → ¬Registers calls n

/-- What waits at a position was registered before it, and nothing since. -/
theorem latest?_numbered_take {p : Nat × κ} : latest? (numbered (calls.take i)) = some p ↔
    calls[p.1]? = some (.andThen p.2) ∧ Remains calls p.1 i := by
  rw [latest?_numbered]
  constructor
  · rintro ⟨hp, hlast⟩
    have hlt : p.1 < i := by
      have := (List.getElem?_eq_some_iff.mp hp).1
      rw [List.length_take] at this
      omega
    rw [List.getElem?_take_of_lt hlt] at hp
    refine ⟨hp, hlt, fun n hn hni => ?_⟩
    have hnot := hlast n hn
    rwa [Registers, List.getElem?_take_of_lt hni] at hnot
  · rintro ⟨hp, hlt, hlast⟩
    refine ⟨by rwa [List.getElem?_take_of_lt hlt], fun n hn hreg => ?_⟩
    obtain ⟨k, hk⟩ := hreg
    have hni : n < i := by
      have := (List.getElem?_eq_some_iff.mp hk).1
      rw [List.length_take] at this
      omega
    rw [List.getElem?_take_of_lt hni] at hk
    exact hlast n hn hni ⟨k, hk⟩

/-- A continuation runs with the last count if it waits until then, or as soon as it
is registered if nothing is pending. -/
theorem ran_numbered_eq_some : (new expected).ran (numbered calls) i = some (j, continuation) ↔
    calls[j]? = some (.andThen continuation) ∧
      (IsLastCount expected calls i ∧ Remains calls j i ∨
        i = j ∧ expected ≤ counts (calls.take j)) := by
  cases hcall : calls[i]? with
  | none =>
    have hnone : (numbered calls)[i]? = none := by
      rw [getElem?_numbered, hcall]
      rfl
    rw [ran_of_not_call hnone]
    refine iff_of_false (fun h => nomatch h) ?_
    rintro ⟨hj, ⟨hlast, -⟩ | ⟨rfl, -⟩⟩
    · exact nomatch hcall.symm.trans hlast.1
    · exact nomatch hcall.symm.trans hj
  | some call =>
    cases call with
    | count =>
      have hself : calls[j]? = some (.andThen continuation) → i ≠ j := by
        rintro hj rfl
        exact nomatch hcall.symm.trans hj
      rw [ran_numbered_count hcall]
      by_cases hlast : counts (calls.take i) + 1 = expected
      · rw [if_pos hlast, latest?_numbered_take]
        refine and_congr_right fun hj => ?_
        rw [or_iff_left (fun h => hself hj h.1)]
        exact (and_iff_right ⟨hcall, hlast⟩).symm
      · rw [if_neg hlast]
        refine iff_of_false (fun h => nomatch h) ?_
        rintro ⟨hj, ⟨hcomplete, -⟩ | ⟨heq, -⟩⟩
        · exact hlast hcomplete.2
        · exact hself hj heq
    | andThen k =>
      have hnot : ¬(IsLastCount expected calls i ∧ Remains calls j i) := by
        intro hlast
        exact nomatch hcall.symm.trans hlast.1.1
      rw [ran_numbered_andThen hcall, or_iff_right hnot]
      by_cases hpending : counts (calls.take i) < expected
      · rw [if_pos hpending]
        refine iff_of_false (fun h => nomatch h) ?_
        rintro ⟨-, rfl, hle⟩
        omega
      · rw [if_neg hpending, Option.some.injEq, Prod.mk.injEq]
        constructor
        · rintro ⟨rfl, rfl⟩
          exact ⟨hcall, rfl, Nat.le_of_not_lt hpending⟩
        · rintro ⟨hj, rfl, -⟩
          rw [hcall, Option.some.injEq, Call.andThen.injEq] at hj
          exact ⟨rfl, hj⟩

theorem runsAt_iff : RunsAt expected calls i j ↔ Registers calls j ∧
    (IsLastCount expected calls i ∧ Remains calls j i ∨
      i = j ∧ expected ≤ counts (calls.take j)) := by
  simp only [RunsAt, Registers, ran_numbered_eq_some, exists_and_right]

/-! ## Any schedule -/

/-- What becomes of the continuations that calls of several threads register, when
these calls are made in the given order. -/
structure RunsOnce (expected : Nat) (threads : List (List (Call κ))) (calls : List (Call κ)) :
    Prop where
  /-- What runs was registered, and is the continuation that was registered. -/
  source : ∀ i k, (new expected).ran calls i = some k →
    ∃ j, RunsAt expected calls i j ∧ calls[j]? = some (.andThen k)
  early : ∀ i j, RunsAt expected calls i j → expected ≤ counts (calls.take (i + 1))
  once : ∀ i i' j, RunsAt expected calls i j → RunsAt expected calls i' j → i = i'
  /-- One that is registered while counts are pending runs with the last of them,
  unless another one takes its place before. -/
  waiting : ∀ j, Registers calls j → counts (calls.take j) < expected → ∀ i,
    RunsAt expected calls i j ↔ IsLastCount expected calls i ∧ Remains calls j i
  /-- The last count is made in time, if the threads count often enough. -/
  complete : expected ≤ counts threads.flatten → ∀ j, Registers calls j →
    counts (calls.take j) < expected → ∃! i, IsLastCount expected calls i ∧ j < i
  immediate : ∀ j, Registers calls j → expected ≤ counts (calls.take j) → ∀ i,
    RunsAt expected calls i j ↔ i = j
  /-- Counts beyond the expected ones run nothing. -/
  surplus : ∀ i, calls[i]? = some .count → expected ≤ counts (calls.take i) →
    ∀ j, ¬RunsAt expected calls i j
  remaining : ∀ n, ((new expected).after (calls.take n)).remaining =
    expected - counts (calls.take n)
  settled : ∀ m n, m ≤ n → ((new expected).after (calls.take m)).remaining = 0 →
    ((new expected).after (calls.take n)).remaining = 0

theorem counts_of_interleaving {threads : List (List (Call κ))} (h : Interleaving threads calls) :
    counts calls = counts threads.flatten :=
  h.perm.countP_eq Call.isCount

theorem RunsAt.early (h : RunsAt expected calls i j) :
    expected ≤ counts (calls.take (i + 1)) := by
  obtain ⟨-, ⟨hlast, -⟩ | ⟨rfl, hle⟩⟩ := runsAt_iff.mp h
  · exact Nat.le_of_eq hlast.counts_succ.symm
  · exact Nat.le_trans hle (counts_take_mono calls (Nat.le_succ i))

theorem RunsAt.unique {i' : Nat} (h : RunsAt expected calls i j)
    (h' : RunsAt expected calls i' j) : i = i' := by
  -- A last count does not come after the counts are complete.
  have hpending : ∀ {i}, IsLastCount expected calls i → Remains calls j i →
      counts (calls.take j) < expected := by
    intro i hlast hremains
    have hmono := counts_take_mono calls (Nat.le_of_lt hremains.1)
    have := hlast.2
    omega
  obtain ⟨-, ⟨hlast, hremains⟩ | ⟨rfl, hle⟩⟩ := runsAt_iff.mp h <;>
    obtain ⟨-, ⟨hlast', hremains'⟩ | ⟨rfl, hle'⟩⟩ := runsAt_iff.mp h'
  · exact hlast.unique hlast'
  · exact absurd (hpending hlast hremains) (Nat.not_lt_of_le hle')
  · exact absurd (hpending hlast' hremains') (Nat.not_lt_of_le hle)
  · rfl

/-- Continuations run as they were registered, each once at most, whatever calls the
threads make and in whatever order. -/
theorem continuations_run_once {threads : List (List (Call κ))} (expected : Nat)
    (h : Interleaving threads calls) : RunsOnce expected threads calls where
  source i k hk := by
    rw [← ran_map_snd] at hk
    obtain ⟨⟨j, k⟩, hran, rfl⟩ := Option.map_eq_some_iff.mp hk
    exact ⟨j, ⟨k, hran⟩, (ran_numbered_eq_some.mp hran).1⟩
  early i j := RunsAt.early
  once i i' j := RunsAt.unique
  waiting j hreg hpending i := by
    rw [runsAt_iff]
    constructor
    · rintro ⟨-, hwaits | ⟨rfl, hle⟩⟩
      · exact hwaits
      · omega
    · exact fun hwaits => ⟨hreg, .inl hwaits⟩
  complete henough j hreg hpending := by
    rw [← counts_of_interleaving h] at henough
    obtain ⟨i, hlast, hle⟩ := IsLastCount.exists_of_pending hpending henough
    have hne : j ≠ i := by
      rintro rfl
      obtain ⟨k, hk⟩ := hreg
      exact nomatch hk.symm.trans hlast.1
    exact ⟨i, ⟨hlast, by omega⟩, fun i' h' => h'.1.unique hlast⟩
  immediate j hreg hle i := by
    rw [runsAt_iff]
    constructor
    · rintro ⟨-, ⟨hlast, hremains⟩ | ⟨heq, -⟩⟩
      · have hmono := counts_take_mono calls (Nat.le_of_lt hremains.1)
        have := hlast.2
        omega
      · exact heq
    · exact fun heq => ⟨hreg, .inr ⟨heq, hle⟩⟩
  surplus i hcount hle j hruns := by
    obtain ⟨⟨k, hk⟩, ⟨hlast, -⟩ | ⟨rfl, -⟩⟩ := runsAt_iff.mp hruns
    · have := hlast.2
      omega
    · exact nomatch hcount.symm.trans hk
  remaining n := remaining_after expected _
  settled m n hmn hzero := by
    rw [remaining_after] at hzero ⊢
    have := counts_take_mono calls hmn
    omega

theorem replacement_runs_once :
    Interleaving [[Call.count, .count], [.andThen "first"], [.andThen "second"]]
        [.andThen "first", .count, .andThen "second", .count] ∧
      RunsOnce 2 [[Call.count, .count], [.andThen "first"], [.andThen "second"]]
        [.andThen "first", .count, .andThen "second", .count] ∧
      (List.range 4).map ((new 2).ran [.andThen "first", .count, .andThen "second", .count]) =
        [none, none, none, some "second"] := by
  have h : Interleaving [[Call.count, .count], [.andThen "first"], [.andThen "second"]]
      [.andThen "first", .count, .andThen "second", .count] := by
    refine .step [[Call.count, .count]] _ [] [[.andThen "second"]] ?_
    refine .step [] _ [Call.count] [[], [.andThen "second"]] ?_
    refine .step [[Call.count], []] _ [] [] ?_
    refine .step [] _ [] [[], []] ?_
    exact .done (by simp)
  exact ⟨h, continuations_run_once 2 h, by decide⟩

end Counter
end Nodes
end TypedGraph
