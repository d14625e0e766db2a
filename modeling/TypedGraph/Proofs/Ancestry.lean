/-
Declared parents as a relation between classes.

A class has at most one parent step, so following them from a class runs down one
path, which ends or enters a cycle.  `mem_parentChain` says that `parentChain`,
which counts its steps and stops at a repetition, still gives every class of the
path, and `loops_iff` that the last class of a chain tells whether the path ends.
`not_onCycle_of_clean` says that a model without diagnostics has no cycle.
-/
import Mathlib.Data.List.Chain
import Mathlib.Logic.Relation
import TypedGraph.Schema.Diagnostic

namespace TypedGraph
namespace Schema
namespace Model

variable {m : Model}

/-- The second class is the registered parent that the first one declares. -/
def ParentStep (m : Model) (c d : Class) : Prop := m.parentOf c = some d

/-- Following declared parents from the class leads back to it. -/
def OnCycle (m : Model) (c : Class) : Prop := Relation.TransGen m.ParentStep c c

theorem parentStep_iff {c d : Class} :
    m.ParentStep c d ↔ ∃ declared, c.parent = some declared ∧ m.class? declared = some d :=
  Option.bind_eq_some_iff

theorem ParentStep.unique {c d e : Class} (hd : m.ParentStep c d) (he : m.ParentStep c e) :
    d = e := Option.some.inj (hd.symm.trans he)

theorem ParentStep.registered {c d : Class} (h : m.ParentStep c d) : m.class? d.fqn = some d := by
  obtain ⟨declared, -, hd⟩ := parentStep_iff.mp h
  rw [fqn_of_class? hd]
  exact hd

theorem registered_of_steps {c d : Class} (hc : m.class? c.fqn = some c)
    (h : Relation.ReflTransGen m.ParentStep c d) : m.class? d.fqn = some d := by
  cases h.cases_tail with
  | inl he =>
    subst he
    exact hc
  | inr hstep =>
    obtain ⟨_, _, hd⟩ := hstep
    exact hd.registered

/-- Registered classes of one name are one class. -/
theorem class_unique {c d : Class} (hc : m.class? c.fqn = some c) (hd : m.class? d.fqn = some d)
    (h : c.fqn = d.fqn) : c = d := by
  rw [h, hd] at hc
  exact (Option.some.inj hc).symm

/-! ## Chains -/

/-- There are no more distinct names in use than classifiers. -/
theorem length_le_size {names : List String} (hn : names.Nodup)
    (hr : ∀ fqn ∈ names, (m.get? fqn).isSome) : names.length ≤ m.size := by
  have hsub : names ⊆ m.classifierMap.keys := by
    intro fqn hf
    rw [Std.TreeMap.mem_keys, Std.TreeMap.mem_iff_isSome_getElem?]
    exact hr fqn hf
  rw [size, ← Std.TreeMap.length_keys]
  exact hn.length_le_of_subset hsub

theorem chainFrom_sound {steps : Nat} {seen : List String} {next : Option Class} {d : Class}
    (h : d ∈ m.chainFrom steps seen next) :
    ∃ c, next = some c ∧ Relation.ReflTransGen m.ParentStep c d := by
  induction steps generalizing seen next with
  | zero => exact absurd h List.not_mem_nil
  | succ steps ih =>
    cases next with
    | none => exact absurd h List.not_mem_nil
    | some c =>
      refine ⟨c, rfl, ?_⟩
      rw [chainFrom] at h
      split at h
      · exact absurd h List.not_mem_nil
      · rcases List.mem_cons.mp h with rfl | h
        · exact .refl
        · obtain ⟨e, he, hd⟩ := ih h
          exact .head he hd

/-- A chain with enough steps left leaves out only names that were seen before:
neither its start nor the parent of one of its classes is missing otherwise. -/
theorem chainFrom_closed {steps : Nat} {seen : List String} {next : Option Class}
    (hn : seen.Nodup) (hs : ∀ fqn ∈ seen, (m.get? fqn).isSome)
    (hnext : ∀ c, next = some c → m.class? c.fqn = some c)
    (hsteps : m.size ≤ seen.length + steps) :
    (∀ c, next = some c → c.fqn ∈ seen ∨ c ∈ m.chainFrom steps seen next) ∧
    (∀ c ∈ m.chainFrom steps seen next, ∀ d, m.ParentStep c d →
      d.fqn ∈ seen ∨ d ∈ m.chainFrom steps seen next) := by
  induction steps generalizing seen next with
  | zero =>
    refine ⟨fun c hc => .inl ?_, fun c hc => absurd hc List.not_mem_nil⟩
    refine Decidable.byContradiction fun hmem => ?_
    have hlen := length_le_size (m := m) (List.nodup_cons.mpr ⟨hmem, hn⟩) (by
      intro fqn hf
      rcases List.mem_cons.mp hf with rfl | hf
      · rw [class?_eq_some.mp (hnext c hc)]
        rfl
      · exact hs fqn hf)
    rw [List.length_cons] at hlen
    omega
  | succ steps ih =>
    cases next with
    | none => exact ⟨fun c hc => (nomatch hc), fun c hc => absurd hc List.not_mem_nil⟩
    | some c =>
      have hc := hnext c rfl
      rw [chainFrom]
      by_cases hseen : c.fqn ∈ seen
      · rw [if_pos (List.contains_iff_mem.mpr hseen)]
        refine ⟨fun d hd => .inl ?_, fun d hd => absurd hd List.not_mem_nil⟩
        rw [← Option.some.inj hd]
        exact hseen
      · rw [if_neg (fun h => hseen (List.contains_iff_mem.mp h))]
        have hseen' : ∀ fqn ∈ c.fqn :: seen, (m.get? fqn).isSome := by
          intro fqn hf
          rcases List.mem_cons.mp hf with rfl | hf
          · rw [class?_eq_some.mp hc]
            rfl
          · exact hs fqn hf
        obtain ⟨hstart, hrest⟩ := @ih (c.fqn :: seen) (m.parentOf c)
          (List.nodup_cons.mpr ⟨hseen, hn⟩) hseen' (fun d hd => ParentStep.registered hd)
          (by rw [List.length_cons]; omega)
        -- A name seen here and not before is that of `c` itself.
        have hback : ∀ d, m.class? d.fqn = some d →
            d.fqn ∈ c.fqn :: seen ∨ d ∈ m.chainFrom steps (c.fqn :: seen) (m.parentOf c) →
            d.fqn ∈ seen ∨ d ∈ c :: m.chainFrom steps (c.fqn :: seen) (m.parentOf c) := by
          intro d hd h
          rcases h with h | h
          · rcases List.mem_cons.mp h with h | h
            · rw [class_unique hd hc h]
              exact .inr List.mem_cons_self
            · exact .inl h
          · exact .inr (List.mem_cons_of_mem c h)
        constructor
        · intro d hd
          rw [← Option.some.inj hd]
          exact .inr List.mem_cons_self
        · intro d hd e he
          rcases List.mem_cons.mp hd with rfl | hd
          · exact hback e he.registered (hstart e he)
          · exact hback e he.registered (hrest d hd e he)

/-- The chain of a class holds what following declared parents from it reaches. -/
theorem mem_parentChain {fqn : String} {d : Class} :
    d ∈ m.parentChain fqn ↔
      ∃ c, m.class? fqn = some c ∧ Relation.ReflTransGen m.ParentStep c d := by
  constructor
  · exact chainFrom_sound
  · rintro ⟨c, hc, hd⟩
    obtain ⟨hstart, hclosed⟩ := @chainFrom_closed m m.size [] (m.class? fqn)
      List.nodup_nil (fun f hf => absurd hf List.not_mem_nil)
      (fun c hc => by rw [fqn_of_class? hc]; exact hc) (by simp)
    induction hd with
    | refl => exact (hstart c hc).resolve_left List.not_mem_nil
    | tail _ hstep ih => exact (hclosed _ ih _ hstep).resolve_left List.not_mem_nil

theorem head?_chainFrom {steps : Nat} {seen : List String} {next : Option Class} {c : Class}
    (h : c ∈ (m.chainFrom steps seen next).head?) : next = some c := by
  cases steps with
  | zero => exact nomatch h
  | succ steps =>
    cases next with
    | none => exact nomatch h
    | some d =>
      rw [chainFrom] at h
      split at h
      · exact nomatch h
      · exact h

theorem isChain_chainFrom (steps : Nat) (seen : List String) (next : Option Class) :
    (m.chainFrom steps seen next).IsChain m.ParentStep := by
  induction steps generalizing seen next with
  | zero => exact List.isChain_nil
  | succ steps ih =>
    cases next with
    | none => exact List.isChain_nil
    | some c =>
      rw [chainFrom]
      split
      · exact List.isChain_nil
      · exact List.isChain_cons.mpr ⟨fun d hd => head?_chainFrom hd, ih (c.fqn :: seen) _⟩

/-- Each class of a chain is the parent of the one before. -/
theorem isChain_parentChain (m : Model) (fqn : String) : (m.parentChain fqn).IsChain m.ParentStep :=
  isChain_chainFrom _ _ _

/-- A chain loops when following declared parents never comes to an end. -/
theorem loops_iff {c : Class} (hr : m.class? c.fqn = some c) :
    m.loops c = true ↔
      ∀ d, Relation.ReflTransGen m.ParentStep c d → ∃ e, m.ParentStep d e := by
  unfold loops
  have hself : c ∈ m.parentChain c.fqn := mem_parentChain.mpr ⟨c, hr, .refl⟩
  cases hlast : (m.parentChain c.fqn).getLast? with
  | none =>
    rw [List.getLast?_eq_none_iff] at hlast
    rw [hlast] at hself
    exact absurd hself List.not_mem_nil
  | some last =>
    constructor
    · intro hparent d hd
      have hmem : d ∈ m.parentChain c.fqn := mem_parentChain.mpr ⟨c, hr, hd⟩
      obtain ⟨before, after, hcut⟩ := List.mem_iff_append.mp hmem
      cases after with
      | nil =>
        -- Only the last class can have a parent outside the chain.
        rw [hcut, List.getLast?_concat] at hlast
        rw [Option.some.inj hlast]
        exact Option.isSome_iff_exists.mp hparent
      | cons e after =>
        have hsteps := m.isChain_parentChain c.fqn
        rw [hcut, List.isChain_append] at hsteps
        exact ⟨e, (List.isChain_cons_cons.mp hsteps.2.1).1⟩
    · intro hendless
      obtain ⟨c', hc', hsteps⟩ := mem_parentChain.mp (List.mem_of_getLast? hlast)
      rw [hr] at hc'
      rw [← Option.some.inj hc'] at hsteps
      exact Option.isSome_iff_exists.mpr (hendless last hsteps)

/-! ## Cycles -/

/-- A class is on a cycle when its parent leads back to it. -/
theorem onCycle_iff {c d : Class} (h : m.ParentStep c d) :
    m.OnCycle c ↔ Relation.ReflTransGen m.ParentStep d c := by
  constructor
  · intro hc
    obtain ⟨e, he, hec⟩ := Relation.TransGen.head'_iff.mp hc
    rw [h.unique he]
    exact hec
  · exact Relation.TransGen.head' h

/-- What a class on a cycle leads to is on the cycle, and so has a parent. -/
theorem OnCycle.of_steps {c d : Class} (hc : m.OnCycle c)
    (h : Relation.ReflTransGen m.ParentStep c d) : m.OnCycle d := by
  induction h with
  | refl => exact hc
  | tail _ hstep ih => exact Relation.TransGen.tail' ((onCycle_iff hstep).mp ih) hstep

theorem OnCycle.parent {c : Class} (hc : m.OnCycle c) : ∃ d, m.ParentStep c d := by
  obtain ⟨d, hd, -⟩ := Relation.TransGen.head'_iff.mp hc
  exact ⟨d, hd⟩

theorem OnCycle.loops {c : Class} (hc : m.OnCycle c) (hr : m.class? c.fqn = some c) :
    m.loops c = true :=
  (loops_iff hr).mpr fun _ hd => (hc.of_steps hd).parent

/-! ## Models without diagnostics -/

theorem findings_of_clean (h : m.diagnostics = []) {c : Class} (hc : c ∈ m.classes) :
    m.parentFinding? c = none ∧
      ∀ p ∈ c.properties, p.isRelation = true → m.relationFinding? p = none := by
  rw [diagnostics, List.append_eq_nil_iff, parentDiagnostics, relationDiagnostics,
    List.filterMap_eq_nil_iff, List.flatMap_eq_nil_iff] at h
  refine ⟨Option.map_eq_none_iff.mp (h.1 c hc), fun p hp hr => ?_⟩
  have hrelations := List.filterMap_eq_nil_iff.mp (h.2 c hc)
  exact Option.map_eq_none_iff.mp (hrelations p (List.mem_filter.mpr ⟨hp, hr⟩))

theorem not_onCycle_of_clean (h : m.diagnostics = []) {c : Class}
    (hc : m.class? c.fqn = some c) : ¬ m.OnCycle c := by
  intro hcycle
  obtain ⟨d, hd⟩ := hcycle.parent
  obtain ⟨declared, hp, hdeclared⟩ := parentStep_iff.mp hd
  have hfinding : m.parentFinding? c = some .inheritanceCycle := by
    simp [parentFinding?, hp, hdeclared, hcycle.loops hc]
  rw [(findings_of_clean h (mem_classes.mpr hc)).1] at hfinding
  exact nomatch hfinding

end Model

end Schema
end TypedGraph
