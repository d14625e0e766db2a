/-
Results handed over on any schedule.

All completions but one count at a gate, and one wraps a result.  On every schedule
the waiter passes after all of them have counted, and has that result.  `Pending`
is what holds before, whatever is stored and whoever looks.  The last count leads
from there to a gate that `Offers` the result, since a result is stored before its
own count.  The call that takes it leaves a gate that is `Drained`, and stays so
until something is stored there again.
-/
import Mathlib.Data.List.Induction
import TypedGraph.Nodes.Handover

namespace TypedGraph
namespace Nodes
namespace Handover

variable {ν ι : Type} {type : ι → Type} {expected looks : Nat} {k : ι} {u : ν}
  {completions : List (Completion ν)} {e : Step ν ι} {past rest order later : List (Step ν ι)}

namespace Step

def isCount : Step ν ι → Bool
  | .count => true
  | _ => false

/-- What a step stores; that may be the lack of a result. -/
def stored? : Step ν ι → Option (Option ν)
  | .store result => some result
  | _ => none

/-- The type that a step asks for. -/
def asked? : Step ν ι → Option ι
  | .look k => some k
  | _ => none

end Step

/-- How many of the steps count. -/
def counts (steps : List (Step ν ι)) : Nat := steps.countP Step.isCount

def stores (steps : List (Step ν ι)) : List (Option ν) := steps.filterMap Step.stored?

def asks (steps : List (Step ν ι)) : List ι := steps.filterMap Step.asked?

theorem counts_append (past rest : List (Step ν ι)) :
    counts (past ++ rest) = counts past + counts rest := List.countP_append

theorem stores_append (past rest : List (Step ν ι)) :
    stores (past ++ rest) = stores past ++ stores rest := List.filterMap_append

theorem counts_concat (past : List (Step ν ι)) (e : Step ν ι) :
    counts (past ++ [e]) = counts past + if e.isCount then 1 else 0 := by
  rw [counts_append, counts, counts, List.countP_singleton]

theorem stores_concat (past : List (Step ν ι)) (e : Step ν ι) :
    stores (past ++ [e]) = stores past ++ e.stored?.toList := by
  rw [stores_append]
  cases e <;> rfl

theorem stores_concat_of_none (h : e.stored? = none) : stores (past ++ [e]) = stores past := by
  rw [stores_concat, h]
  exact List.append_nil _

/-! ## Schedules with one result -/

theorem flatten_threads (completions : List (Completion ν)) (k : ι) (looks : Nat) :
    (threads completions k looks).flatten =
      completions.flatMap Completion.steps ++ List.replicate looks (.look k) := by
  rw [threads, List.flatten_append, List.flatten_singleton]
  rfl

theorem counts_threads (completions : List (Completion ν)) (k : ι) (looks : Nat) :
    counts (threads completions k looks).flatten = completions.length := by
  have hlooks : counts (List.replicate looks (Step.look k : Step ν ι)) = 0 := by
    simp [counts, List.countP_replicate, Step.isCount]
  rw [flatten_threads, counts_append, hlooks, Nat.add_zero]
  induction completions with
  | nil => rfl
  | cons c completions ih =>
    have hone : counts (c.steps : List (Step ν ι)) = 1 := by cases c <;> rfl
    rw [List.flatMap_cons, counts_append, hone, ih, List.length_cons, Nat.add_comm]

/-- What a completion leaves. -/
def Completion.left? : Completion ν → Option (Option ν)
  | .count => none
  | .wrap result => some result

theorem stores_threads (completions : List (Completion ν)) (k : ι) (looks : Nat) :
    stores (threads completions k looks).flatten = completions.filterMap Completion.left? := by
  have hlooks : stores (List.replicate looks (Step.look k : Step ν ι)) = [] := by
    simp [stores, Step.stored?]
  rw [flatten_threads, stores_append, hlooks, List.append_nil]
  induction completions with
  | nil => rfl
  | cons c completions ih =>
    rw [List.flatMap_cons, stores_append, ih]
    cases c <;> rfl

theorem eq_of_look_mem_threads {l : ι} (h : .look l ∈ (threads completions k looks).flatten) :
    l = k := by
  rw [flatten_threads] at h
  rcases List.mem_append.mp h with h | h
  · obtain ⟨c, -, hc⟩ := List.mem_flatMap.mp h
    cases c <;> simp [Completion.steps] at hc
  · exact (Step.look.inj (List.eq_of_mem_replicate h))

/-- What matters of a schedule of completions that leave one result and of a waiter. -/
structure Leaves (expected : Nat) (u : ν) (k : ι) (order : List (Step ν ι)) : Prop where
  complete : counts order = expected
  once : stores order = [some u]
  /-- The result is stored before one of the counts. -/
  before : [.store (some u), .count].Sublist order
  asked : ∀ l, .look l ∈ order → l = k

theorem leaves_of_interleaving (hexpected : 1 ≤ expected)
    (hcompletions : completions.Perm (.wrap (some u) :: List.replicate (expected - 1) .count))
    (h : Interleaving (threads completions k looks) order) : Leaves expected u k order where
  complete := by
    have hlength := hcompletions.length_eq
    rw [List.length_cons, List.length_replicate] at hlength
    rw [counts, h.perm.countP_eq, ← counts, counts_threads]
    omega
  once := by
    have hperm := h.perm.filterMap Step.stored?
    rw [← stores, ← stores, stores_threads] at hperm
    have hleft := hcompletions.filterMap Completion.left?
    simp only [List.filterMap_cons, Completion.left?, List.filterMap_replicate] at hleft
    exact List.perm_singleton.mp (hperm.trans hleft)
  before := by
    have hmem : .wrap (some u) ∈ completions := hcompletions.mem_iff.mpr (List.mem_cons_self ..)
    have hthread : (Completion.wrap (some u)).steps ∈ threads completions k looks :=
      List.mem_append_left _ (List.mem_map_of_mem hmem)
    exact h.sublist hthread
  asked l hl := eq_of_look_mem_threads (h.perm.mem_iff.mp hl)

namespace Leaves

theorem counts_le (h : Leaves expected u k order) (hpast : past <+: order) :
    counts past ≤ expected := by
  rw [← h.complete]
  exact hpast.sublist.countP_le

/-- Once all completions have counted, the result was stored and nothing else. -/
theorem stores_of_complete (h : Leaves expected u k order) (hpast : past <+: order)
    (hall : counts past = expected) : stores past = [some u] := by
  obtain ⟨rest, rfl⟩ := hpast
  have hcounts := h.complete
  have hstores := h.once
  rw [counts_append] at hcounts
  rw [stores_append] at hstores
  have hrest : Step.count ∉ rest := by
    intro hmem
    have : 0 < counts rest := List.countP_pos_iff.mpr ⟨_, hmem, rfl⟩
    omega
  -- No count is left to `rest`, so the store before one of them lies in `past`.
  have hmem : .store (some u) ∈ past := by
    obtain ⟨first, second, heq, hfirst, hsecond⟩ := List.sublist_append_iff.mp h.before
    cases first with
    | nil =>
      rw [List.nil_append] at heq
      rw [← heq] at hsecond
      exact absurd (hsecond.subset (by simp)) hrest
    | cons e first =>
      rw [(List.cons.inj heq).1]
      exact hfirst.subset (List.mem_cons_self ..)
  have hstored : some u ∈ stores past := List.mem_filterMap.mpr ⟨_, hmem, rfl⟩
  rcases List.append_eq_singleton_iff.mp hstores with ⟨hnil, -⟩ | ⟨hone, -⟩
  · rw [hnil] at hstored
    exact absurd hstored List.not_mem_nil
  · exact hone

end Leaves

variable [Tagged ν type] {s : Handover ν type} {v : type k}

theorem run_concat (s : Handover ν type) (past : List (Step ν ι)) (e : Step ν ι) :
    s.run (past ++ [e]) = (s.run past).step e := by
  rw [run, List.foldl_append]
  rfl

/-! ## Before the last count -/

/-- Not all completions have counted after the steps of `past`.  The gate holds what
was stored last, and nobody has passed. -/
structure Pending (expected : Nat) (past : List (Step ν ι)) (s : Handover ν type) : Prop where
  remaining : s.gate.remaining + counts past = expected
  result : s.gate.result = (stores past).getLast?.join
  returned : s.returned = []

namespace Pending

theorem step (h : Pending expected past s) (hleft : counts (past ++ [e]) < expected) :
    Pending expected (past ++ [e]) (s.step e) := by
  have hremaining := h.remaining
  have hresult := h.result
  rw [counts_concat] at hleft
  cases e with
  | store result =>
    refine ⟨?_, ?_, h.returned⟩
    · rw [counts_concat]
      exact hremaining
    · rw [stores_concat]
      show result = (stores past ++ [result]).getLast?.join
      rw [List.getLast?_concat]
      rfl
  | count =>
    refine ⟨?_, ?_, h.returned⟩
    · rw [counts_concat]
      show s.gate.remaining - 1 + (counts past + 1) = expected
      have : counts past + 1 < expected := hleft
      omega
    · rw [stores_concat_of_none rfl]
      exact hresult
  | look l =>
    have hclosed : ¬s.gate.isOpen := by
      have : counts past < expected := hleft
      rw [Gate.isOpen_iff]
      omega
    have hstep : s.step (.look l) = { s with asleep := true } := if_neg hclosed
    rw [hstep]
    refine ⟨?_, ?_, h.returned⟩
    · rw [counts_concat]
      exact hremaining
    · rw [stores_concat_of_none rfl]
      exact hresult

end Pending

theorem pending_run (hleft : counts past < expected) :
    Pending expected past ((start expected : Handover ν type).run past) := by
  induction past using List.reverseRecOn with
  | nil => exact ⟨rfl, rfl, rfl⟩
  | append_singleton past e ih =>
    have hbefore : counts past < expected := by
      rw [counts_append] at hleft
      omega
    rw [run_concat]
    exact (ih hbefore).step hleft

/-! ## After the last count -/

/-- The gate is open for a result that nobody has taken. -/
structure Offers (u : ν) (s : Handover ν type) : Prop where
  gate : s.gate = ⟨0, some u⟩
  awake : s.asleep = false
  returned : s.returned = []

/-- The gate is open, and has no result. -/
structure Drained (s : Handover ν type) : Prop where
  gate : s.gate = ⟨0, none⟩
  awake : s.asleep = false

/-- The waiter has passed with a value, and then any number of times with none. -/
structure Passed (k : ι) (v : type k) (s : Handover ν type) : Prop extends Drained s where
  returned : ∃ n, s.returned = ⟨k, some v⟩ :: List.replicate n ⟨k, none⟩

/-- The last count wakes the waiter up. -/
theorem Pending.offers (h : Pending expected past s) (hlast : counts past + 1 = expected)
    (hstores : stores past = [some u]) : Offers u (s.step .count) := by
  have hremaining : s.gate.remaining = 1 := by
    have := h.remaining
    omega
  have hresult : s.gate.result = some u := by
    rw [h.result, hstores]
    rfl
  have hgate : s.gate.count = ⟨0, some u⟩ := by
    rw [Gate.count, hremaining, hresult]
  refine ⟨hgate, ?_, h.returned⟩
  show (s.asleep && !s.gate.count.isOpen) = false
  rw [hgate]
  exact Bool.and_false _

theorem Drained.look (h : Drained s) (l : ι) :
    s.step (.look l) = { s with returned := s.returned ++ [⟨l, none⟩] } := by
  obtain ⟨gate, asleep, returned⟩ := s
  obtain ⟨rfl, rfl⟩ : gate = ⟨0, none⟩ ∧ asleep = false := ⟨h.gate, h.awake⟩
  rfl

theorem Drained.count (h : Drained s) : s.step .count = s := by
  obtain ⟨gate, asleep, returned⟩ := s
  obtain ⟨rfl, rfl⟩ : gate = ⟨0, none⟩ ∧ asleep = false := ⟨h.gate, h.awake⟩
  rfl

/-- As long as nothing is stored, every call returns at once, with nothing. -/
theorem Drained.run (h : Drained s) (hlater : stores later = []) :
    s.run later = { s with returned := s.returned ++ (asks later).map fun l => ⟨l, none⟩ } := by
  induction later generalizing s with
  | nil =>
    show s = { s with returned := s.returned ++ [] }
    rw [List.append_nil]
  | cons e later ih =>
    cases e with
    | store result => exact nomatch hlater
    | count =>
      show (s.step .count).run later = _
      rw [h.count]
      exact ih h hlater
    | look l =>
      show (s.step (.look l)).run later = _
      have hnext : Drained (s.step (.look l)) := by
        rw [h.look]
        exact ⟨h.gate, h.awake⟩
      rw [ih hnext hlater, h.look]
      simp only [List.append_assoc]
      rfl

theorem Offers.look (h : Offers (Tagged.of k v) s) :
    s.step (.look k) = { gate := ⟨0, none⟩, returned := [⟨k, some v⟩] } := by
  obtain ⟨gate, asleep, returned⟩ := s
  obtain ⟨rfl, rfl⟩ : gate = ⟨0, some (Tagged.of k v)⟩ ∧ returned = [] := ⟨h.gate, h.returned⟩
  show (⟨⟨0, none⟩, false, [⟨k, Tagged.as? k (Tagged.of k v)⟩]⟩ : Handover ν type) = _
  rw [Tagged.as?_eq_some_iff.mpr rfl]

theorem Passed.look (h : Passed k v s) : Passed k v (s.step (.look k)) := by
  obtain ⟨n, hreturned⟩ := h.returned
  rw [h.toDrained.look]
  refine ⟨⟨h.gate, h.awake⟩, n + 1, ?_⟩
  show s.returned ++ [⟨k, none⟩] = _
  rw [hreturned, List.cons_append, ← List.replicate_succ']

/-- Once all completions have counted, the result is there to take, or was taken by
the first call that returned. -/
theorem Leaves.opened (h : Leaves expected (Tagged.of k v) k order) (hexpected : 1 ≤ expected)
    (hpast : past <+: order) (hall : counts past = expected) :
    Offers (Tagged.of k v) ((start expected : Handover ν type).run past) ∨
      Passed k v ((start expected : Handover ν type).run past) := by
  induction past using List.reverseRecOn with
  | nil =>
    rw [← hall] at hexpected
    exact absurd hexpected (Nat.not_succ_le_zero 0)
  | append_singleton past e ih =>
    have hbefore : past <+: order := (List.prefix_append past [e]).trans hpast
    have hstores := h.stores_of_complete hpast hall
    rw [counts_concat] at hall
    rw [run_concat]
    cases e with
    | store result =>
      -- The result was stored already, since all completions had counted before.
      rw [stores_concat, h.stores_of_complete hbefore hall] at hstores
      exact nomatch hstores
    | count =>
      have hlast : counts past + 1 = expected := hall
      have hstored : stores past = [some (Tagged.of k v)] := by
        rw [← hstores, stores_concat_of_none rfl]
      exact .inl ((pending_run (by omega)).offers hlast hstored)
    | look l =>
      obtain rfl : l = k := h.asked l (hpast.subset (by simp))
      rcases ih hbefore hall with hoffers | hpassed
      · rw [hoffers.look]
        exact .inr ⟨⟨rfl, rfl⟩, 0, rfl⟩
      · exact .inr hpassed.look

/-! ## Any schedule -/

/-- What a waiter for a value has after the steps of `past`. -/
structure HandsOver (expected : Nat) (k : ι) (v : type k) (past : List (Step ν ι))
    (s : Handover ν type) : Prop where
  /-- It does not pass before all completions have counted. -/
  waits : counts past < expected → s.returned = []
  /-- When they have, it is not left asleep, -/
  wakes : counts past = expected → s.asleep = false
  /-- and passes with the value when it looks next. -/
  passes : counts past = expected → s.returned = [] →
    (s.step (.look k)).returned = [⟨k, some v⟩]
  /-- The first call that returned has the value, and the others have nothing. -/
  returns : s.returned = [] ∨ ∃ n, s.returned = ⟨k, some v⟩ :: List.replicate n ⟨k, none⟩
  /-- From there on every call returns at once and with nothing, whoever makes it and
  whatever type it asks for, until something is stored again. -/
  afterwards : s.returned ≠ [] → ∀ later, (∀ result, .store result ∉ later) →
    (s.run later).returned = s.returned ++ (asks later).map fun l => ⟨l, none⟩

theorem stores_eq_nil (h : ∀ result, .store result ∉ later) : stores later = [] := by
  rw [stores, List.filterMap_eq_nil_iff]
  intro e he
  cases e with
  | store result => exact absurd he (h result)
  | count => rfl
  | look l => rfl

theorem Leaves.handsOver (h : Leaves expected (Tagged.of k v) k order) (hexpected : 1 ≤ expected)
    (hpast : past <+: order) :
    HandsOver expected k v past ((start expected : Handover ν type).run past) := by
  rcases Nat.lt_or_eq_of_le (h.counts_le hpast) with hleft | hall
  · have hpending : Pending expected past ((start expected : Handover ν type).run past) :=
      pending_run hleft
    have hincomplete := Nat.ne_of_lt hleft
    exact ⟨fun _ => hpending.returned, fun hall => absurd hall hincomplete,
      fun hall => absurd hall hincomplete, .inl hpending.returned,
      fun hreturned => absurd hpending.returned hreturned⟩
  · have hcomplete : ¬counts past < expected := Nat.not_lt_of_le (Nat.le_of_eq hall.symm)
    rcases h.opened hexpected hpast hall with hoffers | hpassed
    · exact ⟨fun hleft => absurd hleft hcomplete, fun _ => hoffers.awake,
        fun _ _ => by rw [hoffers.look], .inl hoffers.returned,
        fun hreturned => absurd hoffers.returned hreturned⟩
    · obtain ⟨n, hreturned⟩ := hpassed.returned
      refine ⟨fun hleft => absurd hleft hcomplete, fun _ => hpassed.awake, fun _ hnone => ?_,
        .inr hpassed.returned, fun _ later hlater => ?_⟩
      · rw [hreturned] at hnone
        exact nomatch hnone
      · rw [hpassed.toDrained.run (stores_eq_nil hlater)]

/-- One of some completions wraps a value, and a waiter asks for its type.  In
whatever order they make their steps, all completions count, and the waiter gets the
value when they have and not before. -/
theorem waiter_gets_wrapped_value (expected : Nat) (hexpected : 1 ≤ expected) (k : ι) (v : type k)
    (completions : List (Completion ν))
    (hcompletions : completions.Perm
      (.wrap (some (Tagged.of k v)) :: List.replicate (expected - 1) .count))
    (looks : Nat) (order : List (Step ν ι))
    (h : Interleaving (threads completions k looks) order) :
    counts order = expected ∧ ∀ past, past <+: order →
      HandsOver expected k v past ((start expected : Handover ν type).run past) := by
  have hleaves := leaves_of_interleaving hexpected hcompletions h
  exact ⟨hleaves.complete, fun past hpast => hleaves.handsOver hexpected hpast⟩

/-- The waiter sleeps until the last count, which is not that of the wrap. -/
theorem woken_waiter_gets_seven :
    let completions : List (Completion Value) := [.count, .wrap (some (.long 7))]
    let order : List (Step Value ValueKind) := [.look .long, .store (some (.long 7)), .count,
      .look .long, .count, .look .long, .look .long]
    let s : Handover Value ValueKind.type := (start 2).run order
    Interleaving (threads completions .long 4) order ∧ HandsOver 2 .long (7 : Int64) order s ∧
      s.returned = [⟨.long, some 7⟩, ⟨.long, none⟩] := by
  intro completions order s
  have h : Interleaving (threads completions .long 4) order := by
    let count : List (Step Value ValueKind) := [.count]
    let wrap : List (Step Value ValueKind) := [.store (some (.long 7)), .count]
    let looks (n : Nat) : List (Step Value ValueKind) := List.replicate n (.look .long)
    refine .step [count, wrap] (.look .long) (looks 3) [] ?_
    refine .step [count] (.store (some (.long 7))) [.count] [looks 3] ?_
    refine .step [count] .count [] [looks 3] ?_
    refine .step [count, []] (.look .long) (looks 2) [] ?_
    refine .step [] .count [] [[], looks 2] ?_
    refine .step [[], []] (.look .long) (looks 1) [] ?_
    refine .step [[], []] (.look .long) (looks 0) [] ?_
    exact .done (by simp [looks])
  have hall := waiter_gets_wrapped_value 2 (by decide) ValueKind.long (7 : Int64) completions
    (List.Perm.swap ..) 4 order h
  exact ⟨h, hall.2 order (List.prefix_refl order), rfl⟩

end Handover
end Nodes
end TypedGraph
