/-
Resolutions on any schedule.

However the callbacks of the lookups and the registration of the continuation
are interleaved, the continuation runs once, and at the last step.  `Waits` is
what holds as long as one of the counts or the registration is still to come.
The last step of a schedule is one of these, since every callback fills its slot
before it counts, so by then all slots are filled.
-/
import Mathlib.Data.List.Induction
import TypedGraph.Sample.Tasks

namespace TypedGraph
namespace Nodes
namespace Resolution

variable {find : Int → Option Node} {ids : List Int} {past order : List Step} {e : Step}
  {r : Resolution}

theorem mem_threads {t : List Step} : t ∈ threads find ids ↔
    (∃ slot id, ids[slot]? = some id ∧ t = [.fill slot (find id), .count]) ∨ t = [.register] := by
  rw [threads, List.mem_append, List.mem_mapIdx, List.mem_singleton]
  refine or_congr_left ⟨?_, ?_⟩
  · rintro ⟨slot, h, rfl⟩
    exact ⟨slot, ids[slot], List.getElem?_eq_getElem h, rfl⟩
  · rintro ⟨slot, id, h, rfl⟩
    obtain ⟨hlt, rfl⟩ := List.getElem?_eq_some_iff.mp h
    exact ⟨slot, hlt, rfl⟩

theorem fill_mem_threads {slot : Nat} {found : Option Node} :
    Step.fill slot found ∈ (threads find ids).flatten ↔
      ∃ id, ids[slot]? = some id ∧ found = find id := by
  rw [List.mem_flatten]
  constructor
  · rintro ⟨t, ht, hmem⟩
    rcases mem_threads.mp ht with ⟨slot', id, hid, rfl⟩ | rfl
    · simp only [List.mem_cons, Step.fill.injEq, List.not_mem_nil, or_false, reduceCtorEq] at hmem
      obtain ⟨rfl, rfl⟩ := hmem
      exact ⟨id, hid, rfl⟩
    · simp at hmem
  · rintro ⟨id, hid, rfl⟩
    exact ⟨_, mem_threads.mpr (.inl ⟨slot, id, hid, rfl⟩), by simp⟩

theorem count_threads {k : Nat}
    (hk : ∀ slot id, [Step.fill slot (find id), .count].count e = k) :
    (threads find ids).flatten.count e = ids.length * k + [Step.register].count e := by
  have heach : (ids.mapIdx fun slot id => [Step.fill slot (find id), .count]).map (·.count e) =
      List.replicate ids.length k := by
    rw [List.eq_replicate_iff]
    refine ⟨by simp, fun n hn => ?_⟩
    obtain ⟨t, ht, rfl⟩ := List.mem_map.mp hn
    obtain ⟨slot, _, rfl⟩ := List.mem_mapIdx.mp ht
    exact hk slot _
  rw [threads, List.flatten_append, List.count_append, List.count_flatten, heach,
    List.sum_replicate_nat, List.flatten_singleton]

/-! ## Before the last step -/

/-- After the steps of `past` the continuation has not run, and is registered if
that was among them. -/
structure Waits (find : Int → Option Node) (ids : List Int) (past : List Step)
    (r : Resolution) : Prop where
  length : r.slots.length = ids.length
  slots : ∀ slot found, .fill slot found ∈ past → r.slots[slot]? = some found
  remaining : r.counter.remaining + past.count .count = ids.length
  waiting : r.counter.waiting = if .register ∈ past then some () else none
  handedOn : r.handedOn = []

theorem waits_start : Waits find ids [] (start ids.length) where
  length := List.length_replicate
  slots := fun _ _ h => absurd h List.not_mem_nil
  remaining := rfl
  waiting := rfl
  handedOn := rfl

namespace Waits

theorem fill (h : Waits find ids past r) {slot : Nat} {found : Option Node}
    (hpast : ∀ slot found, .fill slot found ∈ past → ∃ id, ids[slot]? = some id ∧ found = find id)
    (hfill : ∃ id, ids[slot]? = some id ∧ found = find id) :
    Waits find ids (past ++ [.fill slot found]) (r.step (.fill slot found)) where
  length := (List.length_set ..).trans h.length
  slots := by
    intro other found' hmem
    show (r.slots.set slot found)[other]? = some found'
    obtain ⟨id, hid, rfl⟩ := hfill
    have hlt : slot < r.slots.length := by
      rw [h.length]
      exact (List.getElem?_eq_some_iff.mp hid).1
    rcases List.mem_append.mp hmem with hmem | hmem
    · by_cases hslot : slot = other
      · -- Both fills are of one slot, and so of what one lookup found.
        subst hslot
        obtain ⟨id', hid', rfl⟩ := hpast slot found' hmem
        rw [hid] at hid'
        rw [List.getElem?_set_self hlt, Option.some.inj hid']
      · rw [List.getElem?_set_ne hslot]
        exact h.slots other found' hmem
    · rw [List.mem_singleton, Step.fill.injEq] at hmem
      rw [hmem.1, hmem.2, List.getElem?_set_self hlt]
  remaining := by simpa [step] using h.remaining
  waiting := by simpa [step] using h.waiting
  handedOn := h.handedOn

/-- The count before the last finds no continuation, or leaves a count to come. -/
theorem count (h : Waits find ids past r)
    (hleft : past.count .count + 1 + past.count .register ≤ ids.length) :
    Waits find ids (past ++ [.count]) (r.step .count) := by
  have hremaining := h.remaining
  have hstep : r.step .count =
      { r with counter := ⟨r.counter.remaining - 1, r.counter.waiting⟩ } := by
    by_cases hone : 1 < r.counter.remaining
    · rw [step, Counter.count_of_lt hone]
      rfl
    · have hnot : .register ∉ past := by
        intro hmem
        have := List.count_pos_iff.mpr hmem
        omega
      have hwaiting : r.counter.waiting = none := by rw [h.waiting, if_neg hnot]
      have hzero : r.counter.remaining - 1 = 0 := by omega
      rw [step, Counter.count_of_le (by omega), hwaiting, hzero]
      rfl
  rw [hstep]
  refine ⟨h.length, fun slot found hmem => h.slots slot found (by simpa using hmem), ?_, ?_,
    h.handedOn⟩
  · show r.counter.remaining - 1 + (past ++ [Step.count]).count .count = ids.length
    rw [List.count_append, List.count_singleton_self]
    omega
  · simpa using h.waiting

theorem register (h : Waits find ids past r) (hleft : past.count .count + 1 ≤ ids.length) :
    Waits find ids (past ++ [.register]) (r.step .register) := by
  have hremaining := h.remaining
  rw [step, Counter.andThen_of_pos (by omega)]
  refine ⟨h.length, fun slot found hmem => h.slots slot found (by simpa using hmem), ?_, ?_,
    h.handedOn⟩
  · simpa [resume] using h.remaining
  · simp [resume]

/-- Once every slot was filled, it holds what its lookup found. -/
theorem slots_eq (h : Waits find ids past r)
    (hfilled : ∀ slot id, ids[slot]? = some id → .fill slot (find id) ∈ past) :
    r.slots = ids.map find := by
  refine List.ext_getElem? fun slot => ?_
  rw [List.getElem?_map]
  cases hid : ids[slot]? with
  | none =>
    rw [List.getElem?_eq_none_iff, ← h.length] at hid
    exact List.getElem?_eq_none_iff.mpr hid
  | some id => exact h.slots slot (find id) (hfilled slot id hid)

/-- What every last step comes to. -/
theorem last (h : Waits find ids past r) (hall : past.count .count + past.count .register =
      ids.length) (he : e = .count ∧ past.count .register = 1 ∨
        e = .register ∧ past.count .register = 0) :
    (r.step e).handedOn = [r.slots.filterMap id] := by
  have hremaining := h.remaining
  rcases he with ⟨rfl, hregister⟩ | ⟨rfl, hregister⟩
  · have hmem : .register ∈ past := List.count_pos_iff.mp (by omega)
    have hwaiting : r.counter.waiting = some () := by rw [h.waiting, if_pos hmem]
    rw [step, Counter.count_of_le (by omega), hwaiting]
    simp [resume, h.handedOn]
  · rw [step, Counter.andThen_of_zero (by omega)]
    simp [resume, h.handedOn]

end Waits

theorem waits_run (past : List Step)
    (hfill : ∀ slot found, .fill slot found ∈ past → ∃ id, ids[slot]? = some id ∧ found = find id)
    (hleft : past.count .count + past.count .register ≤ ids.length)
    (hregister : past.count .register ≤ 1) :
    Waits find ids past ((start ids.length).run past) := by
  induction past using List.reverseRecOn with
  | nil => exact waits_start
  | append_singleton past e ih =>
    rw [List.count_append, List.count_append] at hleft
    rw [List.count_append] at hregister
    have hfill' := fun slot found hmem => hfill slot found (List.mem_append_left [e] hmem)
    have h := ih hfill' (by omega) (by omega)
    rw [run, List.foldl_append]
    cases e with
    | fill slot found => exact h.fill hfill' (hfill slot found (by simp))
    | count => exact h.count (by simpa [Nat.add_right_comm] using hleft)
    | register => exact h.register (by simp at hleft; omega)

/-! ## Whole schedules -/

/-- The last step is the last count, or the registration after all counts. -/
theorem last_step_of_threads (h : Interleaving (threads find ids) (past ++ [e])) :
    past.count .count + past.count .register = ids.length ∧
      (e = .count ∧ past.count .register = 1 ∨ e = .register ∧ past.count .register = 0) := by
  have hcounts : (past ++ [e]).count .count = ids.length := by
    rw [h.perm.count_eq, count_threads fun _ _ => rfl, Nat.mul_one]
    rfl
  have hregisters : (past ++ [e]).count .register = 1 := by
    rw [h.perm.count_eq, count_threads fun _ _ => rfl, Nat.mul_zero]
    rfl
  rw [List.count_append] at hcounts hregisters
  obtain ⟨t, ht, hlast⟩ := h.last_step
  rcases mem_threads.mp ht with ⟨slot, id, _, rfl⟩ | rfl
  · obtain rfl : Step.count = e := Option.some.inj hlast
    have hself : [Step.count].count .count = 1 := rfl
    have hother : [Step.count].count .register = 0 := rfl
    exact ⟨by omega, .inl ⟨rfl, by omega⟩⟩
  · obtain rfl : Step.register = e := Option.some.inj hlast
    have hself : [Step.register].count .register = 1 := rfl
    have hother : [Step.register].count .count = 0 := rfl
    exact ⟨by omega, .inr ⟨rfl, by omega⟩⟩

/-- On every schedule the found nodes are handed on once, in the order of the
ids. -/
theorem handedOn_run (h : Interleaving (threads find ids) order) :
    ((start ids.length).run order).handedOn = [ids.filterMap find] := by
  have hfills : ∀ slot found, .fill slot found ∈ order ↔
      ∃ id, ids[slot]? = some id ∧ found = find id := by
    intro slot found
    rw [h.perm.mem_iff, fill_mem_threads]
  rcases List.eq_nil_or_concat order with rfl | ⟨past, e, rfl⟩
  · cases h.nil_of_nil [.register] (mem_threads.mpr (.inr rfl))
  rw [List.concat_eq_append] at *
  obtain ⟨hall, he⟩ := last_step_of_threads h
  have hwaits : Waits find ids past ((start ids.length).run past) := by
    refine waits_run past (fun slot found hmem => (hfills slot found).mp ?_) (by omega) (by omega)
    exact List.mem_append_left _ hmem
  -- The last step is no fill, so all fills lie before it.
  have hslots : ((start ids.length).run past).slots = ids.map find := by
    refine hwaits.slots_eq fun slot id hid => ?_
    rcases List.mem_append.mp ((hfills slot (find id)).mpr ⟨id, hid, rfl⟩) with hmem | hmem
    · exact hmem
    · rw [← List.mem_singleton.mp hmem] at he
      simp at he
  rw [run, List.foldl_append]
  show ((((start ids.length).run past)).step e).handedOn = _
  rw [hwaits.last hall he, hslots, List.filterMap_map]
  rfl

end Resolution

theorem resolveOn_eq {find : Int → Option Node} {ctx : TaskContext} {order : List Resolution.Step}
    (h : Interleaving (Resolution.threads find (ctx.nodes.map (·.id))) order) :
    resolveOn order ctx = ctx.continueWith ((ctx.nodes.map (·.id)).filterMap find) := by
  have hrun := Resolution.handedOn_run h
  rw [List.length_map] at hrun
  rw [resolveOn, hrun]
  rfl

end Nodes

namespace Sample
namespace Action

open Nodes (Interleaving Node Resolution TaskContext)

/-- What the nodes of a context are in the planned world, if that is asked for
and there is one, and otherwise in the real world.  Those that are not stored
are left out. -/
def versions (plannedWorld : PlannedWorld) (planned : Bool) (g : Nodes.Graph) (ctx : TaskContext) :
    List Node :=
  let world := match plannedWorld, planned with
    | some world, true => world
    | _, _ => realWorld
  (ctx.nodes.map (·.id)).filterMap (g.lookup world ctx.time)

theorem versions_eq (plannedWorld : PlannedWorld) (planned : Bool) (g : Nodes.Graph)
    (ctx : TaskContext) : versions plannedWorld planned g ctx =
      (ctx.nodes.map (·.id)).filterMap (g.lookup (world plannedWorld planned) ctx.time) := by
  cases plannedWorld <;> cases planned <;> rfl

/-- On every schedule of its lookups and of the registration, the action hands
on once, and that is the versions of the nodes of its context in their order.
So it does on the schedule of a graph that answers at once. -/
theorem continues_once_with_versions (plannedWorld : PlannedWorld) (planned : Bool)
    (g : Nodes.Graph) (ctx : TaskContext) (order : List Resolution.Step)
    (h : Interleaving (Resolution.threads (g.lookup (world plannedWorld planned) ctx.time)
      (ctx.nodes.map (·.id))) order) :
    ((Resolution.start ctx.nodes.length).run order).handedOn =
        [versions plannedWorld planned g ctx] ∧
      Nodes.resolveOn order ctx = ctx.continueWith (versions plannedWorld planned g ctx) ∧
      eval plannedWorld g ctx (.inOtherWorld planned) =
        ctx.continueWith (versions plannedWorld planned g ctx) := by
  rw [versions_eq]
  refine ⟨?_, Nodes.resolveOn_eq h, Nodes.resolveOn_eq (Interleaving.flatten _)⟩
  have hrun := Resolution.handedOn_run h
  rw [List.length_map] at hrun
  exact hrun

/-- A graph with one person, and a context that has it twice and, between, a node
that is not stored.  The continuation is registered after the last slot was
filled, and before anything else. -/
theorem continues_once_with_person :
    let g := (newNode (newGraph []) .person 0 0).2
    let ctx : TaskContext :=
      { time := 5, nodes := [⟨0, 0, 1, .base⟩, ⟨0, 0, 9, .base⟩, ⟨0, 0, 1, .base⟩] }
    let find := g.lookup 3 5
    let order := [.fill 2 (find 1), .register, .fill 1 (find 9), .fill 0 (find 1), .count, .count,
      .count]
    Interleaving (Resolution.threads (g.lookup (world (some 3) true) ctx.time)
      (ctx.nodes.map (·.id))) order ∧
    ((Resolution.start 3).run order).handedOn =
      [[⟨3, 5, 1, .ofClass "sample.Person"⟩, ⟨3, 5, 1, .ofClass "sample.Person"⟩]] := by
  intro g ctx find order
  have h : Interleaving (Resolution.threads (g.lookup (world (some 3) true) ctx.time)
      (ctx.nodes.map (·.id))) order := by
    let first : List Resolution.Step := [.fill 0 (find 1), .count]
    let second : List Resolution.Step := [.fill 1 (find 9), .count]
    refine .step [first, second] (.fill 2 (find 1)) [.count] [[.register]] ?_
    refine .step [first, second, [.count]] .register [] [] ?_
    refine .step [first] (.fill 1 (find 9)) [.count] [[.count], []] ?_
    refine .step [] (Resolution.Step.fill 0 (find 1)) [.count] [[.count], [.count], []] ?_
    refine .step [] Resolution.Step.count [] [[.count], [.count], []] ?_
    refine .step [[]] Resolution.Step.count [] [[.count], []] ?_
    refine .step [[], []] Resolution.Step.count [] [[]] ?_
    exact .done (by simp)
  have hversions : versions (some 3) true g ctx =
      [⟨3, 5, 1, .ofClass "sample.Person"⟩, ⟨3, 5, 1, .ofClass "sample.Person"⟩] := by
    decide +kernel
  refine ⟨h, ?_⟩
  rw [← hversions]
  exact (continues_once_with_versions (some 3) true g ctx order h).1

end Action
end Sample
end TypedGraph
