/-
The planned world of a process.

The first facade that is connected forks it from its own graph, and nothing that is
called later changes it or forks a world for it.  A step lemma says which calls fork
a world from which graph; along a run the forked worlds of each graph are numbered
from one.
-/
import TypedGraph.Proofs.Calls
import TypedGraph.Sample.Process
import TypedGraph.Sample.Tasks

namespace TypedGraph
namespace Sample
namespace Process

variable {p q : Process} {past : List Event} {c : Call} {answer : Answer} {i : Nat}
  {world : Int}

/-! ## Steps -/

/-- A call that concerns a graph changes the planned world and this graph, at most. -/
theorem step_cases (h : p.step c = some (answer, q)) :
    (∃ plugins, c = .build plugins ∧ answer = .built ∧
      q = { p with graphs := p.graphs ++ [.build plugins] }) ∨
    ∃ i call g, c = .on i call ∧ p.graphs[i]? = some g ∧
      answer = (call.perform p.planned g).1 ∧
      q = ⟨(call.perform p.planned g).2.1, p.graphs.set i (call.perform p.planned g).2.2⟩ := by
  cases c with
  | build plugins =>
    obtain ⟨rfl, rfl⟩ := Prod.mk.inj (Option.some.inj h)
    exact .inl ⟨plugins, rfl, rfl, rfl⟩
  | on i call =>
    obtain ⟨g, hg, heq⟩ := Option.map_eq_some_iff.mp h
    obtain ⟨rfl, rfl⟩ := Prod.mk.inj heq
    exact .inr ⟨i, call, g, rfl, hg, rfl, rfl⟩

/-- Once there is a planned world it stays. -/
theorem planned_step (h : p.step c = some (answer, q)) (hp : p.planned = some world) :
    q.planned = some world := by
  rcases step_cases h with ⟨plugins, -, -, rfl⟩ | ⟨i, call, g, -, -, -, rfl⟩
  · exact hp
  · rw [hp]
    cases call <;> rfl

/-- Only a facade that is connected makes a planned world. -/
theorem planned_step_of_not_connected (h : p.step c = some (answer, q))
    (hc : Event.connected? ⟨c, answer, q.planned⟩ = none) : q.planned = p.planned := by
  rcases step_cases h with ⟨plugins, -, -, rfl⟩ | ⟨i, call, g, rfl, -, rfl, rfl⟩
  · rfl
  · cases call with
    | connect => cases hp : p.planned <;> rw [hp] at hc <;> cases hc
    | connectGraph | disconnect | save | fork => rfl

/-- A facade that is connected forks the planned world from its graph, if there is none. -/
theorem step_of_connected (h : p.step c = some (answer, q))
    (hc : Event.connected? ⟨c, answer, q.planned⟩ = some i) :
    c = .on i .connect ∧ ∃ g, p.graphs[i]? = some g ∧ answer = .done true ∧
      q = match p.planned with
        | none => ⟨some g.connect.2.fork.1, p.graphs.set i g.connect.2.fork.2⟩
        | some world => ⟨some world, p.graphs.set i g.connect.2⟩ := by
  rcases step_cases h with ⟨plugins, rfl, rfl, rfl⟩ | ⟨j, call, g, rfl, hg, rfl, rfl⟩
  · cases hc
  · cases call with
    | connect =>
      cases hp : p.planned <;> rw [hp] at hc <;> cases hc
      · exact ⟨rfl, g, hg, rfl, rfl⟩
      · exact ⟨rfl, g, hg, rfl, rfl⟩
    | connectGraph | disconnect | save | fork => cases hc

/-! ## The last worlds of graphs -/

theorem lastWorld_eq {g : Nodes.Graph} (hg : p.graphs[i]? = some g) :
    p.lastWorld i = g.store.lastWorld := by
  rw [lastWorld, hg]
  rfl

theorem lastWorld_set {j : Nat} {g : Nodes.Graph} (hg : p.graphs[j]? = some g)
    (planned : PlannedWorld) (after : Nodes.Graph) (i : Nat) :
    lastWorld ⟨planned, p.graphs.set j after⟩ i =
      if j = i then after.store.lastWorld else p.lastWorld i := by
  rw [lastWorld, List.getElem?_set, lastWorld]
  split
  · rw [if_pos (List.getElem?_eq_some_iff.mp hg).1]
    rfl
  · rfl

/-- No world is forked from a graph that was just built. -/
theorem lastWorld_build (plugins : List Nodes.Plugin) (i : Nat) :
    lastWorld { p with graphs := p.graphs ++ [.build plugins] } i = p.lastWorld i := by
  have hbuilt : (Nodes.Graph.build plugins).store.lastWorld = realWorld :=
    congrArg Nodes.Store.lastWorld (store_foldl_start _ _)
  rw [lastWorld, lastWorld]
  rcases Nat.lt_trichotomy i p.graphs.length with hlt | heq | hgt
  · rw [List.getElem?_append_left hlt]
  · rw [heq, List.getElem?_concat_length, List.getElem?_eq_none (Nat.le_refl _)]
    exact hbuilt
  · rw [List.getElem?_eq_none (by rw [List.length_append, List.length_singleton]; exact hgt),
      List.getElem?_eq_none (Nat.le_of_lt hgt)]

/-- A call forks the next world from a graph, or none.  The history decides whether a
facade that is connected forks one. -/
theorem lastWorld_step (h : p.step c = some (answer, q))
    (hplanned : p.planned = none ↔ Unconnected past) (i : Nat) :
    (Event.forked? ⟨c, answer, q.planned⟩ past i = none ∧ q.lastWorld i = p.lastWorld i) ∨
    (Event.forked? ⟨c, answer, q.planned⟩ past i = some (p.lastWorld i + 1) ∧
      q.lastWorld i = p.lastWorld i + 1) := by
  rcases step_cases h with ⟨plugins, rfl, rfl, rfl⟩ | ⟨j, call, g, rfl, hg, rfl, rfl⟩
  · exact .inl ⟨rfl, lastWorld_build plugins i⟩
  · rw [lastWorld_set hg]
    by_cases hji : j = i
    · subst hji
      rw [if_pos rfl, lastWorld_eq hg]
      cases call with
      | connect =>
        cases hp : p.planned with
        | none => exact .inr ⟨if_pos ⟨rfl, hplanned.mp hp⟩, rfl⟩
        | some world =>
          have hpast : ¬Unconnected past := fun hun => by
            rw [hplanned.mpr hun] at hp
            cases hp
          exact .inl ⟨if_neg fun hfirst => hpast hfirst.2, rfl⟩
      | connectGraph | disconnect | save => exact .inl ⟨rfl, rfl⟩
      | fork parent => exact .inr ⟨if_pos rfl, rfl⟩
    · rw [if_neg hji]
      refine .inl ⟨?_, rfl⟩
      cases call with
      | connect =>
        cases p.planned <;> exact if_neg fun hfirst => hji hfirst.1
      | connectGraph | disconnect | save => rfl
      | fork parent => exact if_neg hji

/-! ## Runs -/

/-- There is a planned world exactly after a facade was connected. -/
theorem Run.planned_eq_none_iff (run : Run past p) : p.planned = none ↔ Unconnected past := by
  induction run with
  | start => exact iff_of_true rfl (List.forall_mem_nil _)
  | @call past p q c answer run h ih =>
    rw [Unconnected, List.forall_mem_cons]
    cases hc : Event.connected? ⟨c, answer, q.planned⟩ with
    | none =>
      rw [planned_step_of_not_connected h hc, ih]
      exact (and_iff_right rfl).symm
    | some i =>
      obtain ⟨-, g, -, -, rfl⟩ := step_of_connected h hc
      refine iff_of_false ?_ fun hnone => absurd hnone.1 (by simp)
      cases p.planned <;> simp

/-- The worlds that were forked from a graph are numbered from one. -/
theorem Run.forkedFrom_eq (run : Run past p) (i : Nat) : ∃ n : Nat, p.lastWorld i = n ∧
    forkedFrom i past = (List.range n).map fun k : Nat => (k : Int) + 1 := by
  induction run with
  | start => exact ⟨0, rfl, rfl⟩
  | @call past p q c answer run h ih =>
    obtain ⟨n, hlast, hforked⟩ := ih
    rw [forkedFrom, hforked]
    rcases lastWorld_step h run.planned_eq_none_iff i with ⟨hnone, hsame⟩ | ⟨hnext, hmore⟩
    · refine ⟨n, hsame.trans hlast, ?_⟩
      rw [hnone]
      exact List.append_nil _
    · refine ⟨n + 1, by rw [hmore, hlast]; rfl, ?_⟩
      rw [hnext, hlast, List.range_succ, List.map_append]
      rfl

theorem Run.event {e : Event} (run : Run past p) (h : p.step e.call = some (e.answer, q))
    (hplanned : e.planned = q.planned) : Run (e :: past) q := by
  cases e
  subst hplanned
  exact run.call h

theorem Run.pairwise_forkedFrom (run : Run past p) (i : Nat) :
    (forkedFrom i past).Pairwise (· < ·) := by
  obtain ⟨n, -, hforked⟩ := run.forkedFrom_eq i
  rw [hforked, List.pairwise_map]
  exact List.pairwise_lt_range.imp fun hlt => by omega

/-- Every part of a run is a run, and later calls keep its planned world. -/
theorem Run.of_append {later : List Event} (run : Run (later ++ past) q) :
    ∃ p, Run past p ∧ ∀ world, p.planned = some world →
      q.planned = some world ∧ ∀ e ∈ later, e.planned = some world := by
  induction later generalizing q with
  | nil => exact ⟨q, run, fun world hworld => ⟨hworld, List.forall_mem_nil _⟩⟩
  | cons e later ih =>
    cases run with
    | @call _ p q c answer run h =>
      obtain ⟨r, hrun, hkept⟩ := ih run
      refine ⟨r, hrun, fun world hworld => ?_⟩
      obtain ⟨hp, hlater⟩ := hkept world hworld
      have hq := planned_step h hp
      exact ⟨hq, List.forall_mem_cons.mpr ⟨hq, hlater⟩⟩

/-! ## The planned world -/

/-- The tasks that ask for the planned world work in this one. -/
def PlansIn (planned : PlannedWorld) (world : Int) : Prop :=
  (∀ value, TaskFunction.travelInPlannedWorld.action planned value =
    .named (.travelInWorld (toString world))) ∧
  ∀ g ctx, Action.eval planned g ctx (.inOtherWorld true) = Nodes.resolveIn g world ctx

theorem plansIn_none : PlansIn none realWorld := ⟨fun _ => rfl, fun _ _ => rfl⟩

theorem plansIn_some (world : Int) : PlansIn (some world) world := ⟨fun _ => rfl, fun _ _ => rfl⟩

/-- An event connects the facade of a graph and forks a world from this graph, which
is the planned one from then on. -/
def Forks (earlier : List Event) (e : Event) (i : Nat) (world : Int) : Prop :=
  ∃ p g, Run earlier p ∧ p.graphs[i]? = some g ∧ g.connect.2.fork.1 = world ∧
    p.step e.call = some (.done true, ⟨some world, p.graphs.set i g.connect.2.fork.2⟩)

theorem Run.forks {e : Event} (run : Run (e :: past) q) (hpast : Unconnected past)
    (he : e.connected? = some i) : ∃ world, Forks past e i world ∧ world ≠ realWorld ∧
      q.planned = some world ∧ e.planned = some world := by
  cases run with
  | @call _ p q c answer run h =>
    obtain ⟨hcall, g, hg, hanswer, hq⟩ := step_of_connected h he
    rw [run.planned_eq_none_iff.mpr hpast] at hq
    subst hq hanswer
    obtain ⟨n, hn, -⟩ := run.forkedFrom_eq i
    rw [lastWorld_eq hg] at hn
    refine ⟨_, ⟨p, g, run, hg, rfl, h⟩, ?_, rfl, rfl⟩
    show g.store.lastWorld + 1 ≠ 0
    omega

/-- Facades that are connected later fork nothing. -/
theorem Run.lastWorld_connect {e : Event} (run : Run (e :: past) q) (hpast : ¬Unconnected past)
    (he : e.call = .on i .connect) : ∃ p, Run past p ∧ p.step e.call = some (e.answer, q) ∧
      ∀ j, q.lastWorld j = p.lastWorld j := by
  cases run with
  | @call _ p q c answer run h =>
    refine ⟨p, run, h, fun j => ?_⟩
    rcases lastWorld_step h run.planned_eq_none_iff j with ⟨-, hsame⟩ | ⟨hforked, -⟩
    · exact hsame
    · obtain rfl : c = .on i .connect := he
      cases answer with
      | built | world => cases hforked
      | done success =>
        cases success with
        | false => cases hforked
        | true => exact absurd hforked (by simp [Event.forked?, hpast])

/-- A process has no planned world until a facade is connected.  The first that is
connected forks it from its graph, later ones fork nothing, and nothing changes it.
What is forked from one graph has ascending ids. -/
theorem planned_world_forked_once (run : Run past q) :
    (q.planned = none ↔ Unconnected past) ∧
    (Unconnected past → PlansIn q.planned realWorld) ∧
    (∀ later e earlier i, past = later ++ e :: earlier → Unconnected earlier →
      e.connected? = some i → ∃ world, Forks earlier e i world ∧ world ≠ realWorld ∧
        q.planned = some world ∧ (∀ x ∈ later ++ [e], x.planned = some world) ∧
        PlansIn q.planned world) ∧
    (∀ later e earlier i, past = later ++ e :: earlier → ¬Unconnected earlier →
      e.call = .on i .connect → ∃ before after, Run earlier before ∧
        before.step e.call = some (e.answer, after) ∧
        ∀ j, after.lastWorld j = before.lastWorld j) ∧
    ∀ i, (forkedFrom i past).Pairwise (· < ·) ∧ (forkedFrom i past).length = q.lastWorld i := by
  refine ⟨run.planned_eq_none_iff, fun hpast => ?_, ?_, ?_, fun i => ?_⟩
  · rw [run.planned_eq_none_iff.mpr hpast]
    exact plansIn_none
  · rintro later e earlier i rfl hearlier he
    obtain ⟨p, hrun, hkept⟩ := run.of_append
    obtain ⟨world, hforks, hreal, hp, hworld⟩ := hrun.forks hearlier he
    obtain ⟨hq, hlater⟩ := hkept world hp
    refine ⟨world, hforks, hreal, hq, ?_, ?_⟩
    · exact List.forall_mem_append.mpr ⟨hlater, List.forall_mem_singleton.mpr hworld⟩
    · rw [hq]
      exact plansIn_some world
  · rintro later e earlier i rfl hearlier he
    obtain ⟨after, hrun, -⟩ := run.of_append
    obtain ⟨before, hbefore, hstep, hsame⟩ := hrun.lastWorld_connect hearlier he
    exact ⟨before, after, hbefore, hstep, hsame⟩
  · obtain ⟨n, hlast, hforked⟩ := run.forkedFrom_eq i
    refine ⟨run.pairwise_forkedFrom i, ?_⟩
    rw [hforked, List.length_map, List.length_range, hlast]

/-- Two worlds are forked before a facade is connected, so the planned one is the third;
another facade and a second connection leave it. -/
theorem planned_world_is_third :
    let earlier : List Event := [⟨.on 0 (.fork 0), .world 2, none⟩,
      ⟨.on 0 .save, .done false, none⟩, ⟨.on 0 (.fork 0), .world 1, none⟩,
      ⟨.build [plugin], .built, none⟩, ⟨.build [plugin], .built, none⟩]
    let first : Event := ⟨.on 0 .connect, .done true, some 3⟩
    let later : List Event := [⟨.on 1 (.fork 0), .world 1, some 3⟩,
      ⟨.on 0 .connect, .done true, some 3⟩, ⟨.on 0 .disconnect, .done true, some 3⟩,
      ⟨.on 1 .connect, .done true, some 3⟩]
    ∃ q, Run (later ++ first :: earlier) q ∧ Forks earlier first 0 3 ∧ PlansIn q.planned 3 ∧
      q.lastWorld 0 = 3 ∧ q.lastWorld 1 = 1 := by
  intro earlier first later
  obtain ⟨q, run⟩ : ∃ q, Run (later ++ first :: earlier) q :=
    ⟨_, .event (.event (.event (.event (.event (.event (.event (.event (.event (.event .start
      rfl rfl) rfl rfl) rfl rfl) rfl rfl) rfl rfl) rfl rfl) rfl rfl) rfl rfl) rfl rfl) rfl rfl⟩
  obtain ⟨-, -, hfirst, -, hforked⟩ := planned_world_forked_once run
  obtain ⟨world, hforks, -, -, hkept, hplans⟩ := hfirst later first earlier 0 rfl (by decide) rfl
  obtain rfl : 3 = world := Option.some.inj (hkept first (by simp))
  refine ⟨q, run, hforks, hplans, ?_, ?_⟩
  · exact (hforked 0).2.symm
  · exact (hforked 1).2.symm

end Process
end Sample
end TypedGraph
