/-
The bases of accessors.

An accessor is built over that of the class's resolved parent.  Declared parents
may run in cycles, and a class is asked only whether its own parent leads back to
it.  That cuts every class on a cycle from its parent and no other
(`resolvedParent_eq_some`), so following resolved parents never returns to a
class, and ends before it runs out of classes (`bases_form_forest`).
-/
import TypedGraph.Proofs.AccessorPlan
import TypedGraph.Proofs.Ancestry

namespace TypedGraph
namespace Generate
namespace Scope

open Schema (Model)

variable {s : Scope} {c d : Schema.Class}

/-- The accessor of the first class is built over that of the second. -/
def BaseStep (s : Scope) (c d : Schema.Class) : Prop := s.resolvedParent c = some d

/-- The class so many steps along the resolved parents of a class. -/
def baseAfter (s : Scope) : Nat → Schema.Class → Option Schema.Class
  | 0, c => some c
  | n + 1, c => (s.baseAfter n c).bind s.resolvedParent

/-- A chain comes back to a class exactly when its start leads to it. -/
theorem any_fqn_parentChain {declared : String} (hc : s.model.class? c.fqn = some c)
    (hd : s.model.class? declared = some d) :
    (s.model.parentChain declared).any (·.fqn == c.fqn) = true ↔
      Relation.ReflTransGen s.model.ParentStep d c := by
  have hd' : s.model.class? d.fqn = some d := by
    rw [Model.fqn_of_class? hd]
    exact hd
  rw [List.any_eq_true]
  constructor
  · rintro ⟨e, he, hfqn⟩
    obtain ⟨d', hdd', hsteps⟩ := Model.mem_parentChain.mp he
    rw [hd] at hdd'
    rw [← Option.some.inj hdd'] at hsteps
    have he' := Model.registered_of_steps hd' hsteps
    rw [Model.class_unique he' hc (beq_iff_eq.mp hfqn)] at hsteps
    exact hsteps
  · intro hsteps
    exact ⟨c, Model.mem_parentChain.mpr ⟨d, hd, hsteps⟩, beq_self_eq_true _⟩

/-- A class keeps the registered parent that it declares unless it is on a
cycle itself. -/
theorem resolvedParent_eq_some (hc : s.model.class? c.fqn = some c) :
    s.resolvedParent c = some d ↔ s.model.ParentStep c d ∧ ¬ s.model.OnCycle c := by
  rw [Model.parentStep_iff]
  unfold resolvedParent
  cases hp : c.parent with
  | none => simp
  | some declared =>
    cases hd : s.model.class? declared with
    | none => simp [hd]
    | some parent =>
      have hstep : s.model.ParentStep c parent := Model.parentStep_iff.mpr ⟨declared, hp, hd⟩
      rw [Model.onCycle_iff hstep, ← any_fqn_parentChain hc hd]
      by_cases hany : (s.model.parentChain declared).any (·.fqn == c.fqn) = true
      · simp [hd, hany]
      · simp only [hd, hany, if_false, Bool.false_eq_true, not_false_eq_true, and_true]
        constructor
        · intro h
          exact ⟨declared, rfl, hd.trans h⟩
        · rintro ⟨declared', hdd, h⟩
          rw [← Option.some.inj hdd, hd] at h
          exact h

theorem resolvedParent_eq_none (hc : s.model.class? c.fqn = some c) :
    s.resolvedParent c = none ↔
      c.parent = none ∨
      (∃ declared, c.parent = some declared ∧ s.model.class? declared = none) ∨
      s.model.OnCycle c := by
  constructor
  · intro h
    cases hp : c.parent with
    | none => exact .inl rfl
    | some declared =>
      cases hd : s.model.class? declared with
      | none => exact .inr (.inl ⟨declared, rfl, hd⟩)
      | some parent =>
        refine .inr (.inr (Classical.byContradiction fun hcycle => ?_))
        have hstep : s.model.ParentStep c parent := Model.parentStep_iff.mpr ⟨declared, hp, hd⟩
        rw [(resolvedParent_eq_some hc).mpr ⟨hstep, hcycle⟩] at h
        exact nomatch h
  · intro h
    cases hr : s.resolvedParent c with
    | none => rfl
    | some d =>
      obtain ⟨hstep, hcycle⟩ := (resolvedParent_eq_some hc).mp hr
      obtain ⟨declared, hp, hd⟩ := Model.parentStep_iff.mp hstep
      rcases h with h | ⟨declared', hp', hd'⟩ | h
      · rw [hp] at h
        exact nomatch h
      · rw [hp] at hp'
        rw [← Option.some.inj hp', hd] at hd'
        exact nomatch hd'
      · exact absurd h hcycle

theorem BaseStep.parentStep (hc : s.model.class? c.fqn = some c) (h : s.BaseStep c d) :
    s.model.ParentStep c d := ((resolvedParent_eq_some hc).mp h).1

/-- No class is reached again by following resolved parents from it: it would be
on a cycle of declared parents, and those have none. -/
theorem not_transGen_baseStep (hc : s.model.class? c.fqn = some c) :
    ¬ Relation.TransGen s.BaseStep c c := by
  intro hcycle
  have hsteps : ∀ d, Relation.TransGen s.BaseStep c d →
      Relation.TransGen s.model.ParentStep c d := by
    intro d h
    induction h with
    | single h => exact .single (BaseStep.parentStep hc h)
    | tail _ h ih =>
      exact ih.tail (BaseStep.parentStep (Model.registered_of_steps hc ih.to_reflTransGen) h)
  obtain ⟨d, hd, -⟩ := Relation.TransGen.head'_iff.mp hcycle
  exact ((resolvedParent_eq_some hc).mp hd).2 (hsteps c hcycle)

/-- Following resolved parents either ends within so many steps, or has gone
through as many classes and one more, all different. -/
theorem base_ends_or_path (hc : s.model.class? c.fqn = some c) (n : Nat) :
    (∃ k < n, ∃ root, s.baseAfter k c = some root ∧ s.resolvedParent root = none) ∨
    (∃ last path, s.baseAfter n c = some last ∧ path.length = n ∧ (last :: path).Nodup ∧
      (∀ e ∈ last :: path, s.model.class? e.fqn = some e) ∧
      ∀ e ∈ path, Relation.TransGen s.BaseStep e last) := by
  induction n with
  | zero =>
    refine .inr ⟨c, [], rfl, rfl, List.nodup_cons.mpr ⟨List.not_mem_nil, List.nodup_nil⟩, ?_,
      fun e he => absurd he List.not_mem_nil⟩
    intro e he
    rw [List.mem_singleton.mp he]
    exact hc
  | succ n ih =>
    rcases ih with ⟨k, hk, hroot⟩ | ⟨last, path, hlast, hlen, hnodup, hreg, hsteps⟩
    · exact .inl ⟨k, Nat.lt_succ_of_lt hk, hroot⟩
    · cases hnext : s.resolvedParent last with
      | none => exact .inl ⟨n, Nat.lt_succ_self n, last, hlast, hnext⟩
      | some next =>
        have hstep : s.BaseStep last next := hnext
        have hnextreg := (BaseStep.parentStep (hreg last List.mem_cons_self) hstep).registered
        -- All classes passed lead to the next one, so it cannot be one of them.
        have hsteps' : ∀ e ∈ last :: path, Relation.TransGen s.BaseStep e next := by
          intro e he
          rcases List.mem_cons.mp he with rfl | he
          · exact .single hstep
          · exact (hsteps e he).tail hstep
        refine .inr ⟨next, last :: path, ?_, by rw [List.length_cons, hlen], ?_, ?_, hsteps'⟩
        · rw [baseAfter, hlast]
          exact hnext
        · refine List.nodup_cons.mpr ⟨fun hmem => ?_, hnodup⟩
          exact not_transGen_baseStep hnextreg (hsteps' next hmem)
        · intro e he
          rcases List.mem_cons.mp he with rfl | he
          · exact hnextreg
          · exact hreg e he

/-- Whatever parents classes declare, the bases of their accessors form a
forest.  A class has no base of its own exactly when it declares no parent, or
one that is no registered class, or lies on a cycle of declared parents; any
other has the accessor of the parent it declares as its base. -/
theorem bases_form_forest (s : Scope) {c : Schema.Class} (hc : c ∈ s.model.classes) :
    (∃ n < s.model.classes.length, ∃ root,
      s.baseAfter n c = some root ∧ s.resolvedParent root = none) ∧
    (s.resolvedParent c = none ↔
      c.parent = none ∨
      (∃ declared, c.parent = some declared ∧ s.model.class? declared = none) ∨
      s.model.OnCycle c) ∧
    (∀ parent, s.resolvedParent c = some parent →
      ∃ declared, c.parent = some declared ∧ s.model.class? declared = some parent) ∧
    (∀ a, (s.planAccessor c).outcome = .ok a →
      (s.resolvedParent c).mapM (fun parent => s.classifierPath parent.ident) = .ok a.base) := by
  have hreg := Model.mem_classes.mp hc
  refine ⟨?_, resolvedParent_eq_none hreg, ?_, fun a ha => (planAccessor_ok ha).1⟩
  · rcases base_ends_or_path hreg s.model.classes.length with h | ⟨last, path, -, hlen, hn, hall, -⟩
    · exact h
    · have hle := hn.length_le_of_subset fun e he => Model.mem_classes.mpr (hall e he)
      rw [List.length_cons, hlen] at hle
      exact absurd hle (Nat.not_succ_le_self _)
  · intro parent h
    exact Model.parentStep_iff.mp (BaseStep.parentStep hreg h)

/-- Two classes that declare each other as parents, and one below the first. -/
def loopScope : Scope where
  model :=
    let declare (name parent : String) := Schema.Classifier.ofClass
      { ident := .of none name, parent := some parent }
    ((Model.empty.add (declare "A" "B")).add (declare "B" "A")).add (declare "C" "A")
  config := {}
  target := .of none "App"
  host := .ofNames ["greycat"]
  root := .ofNames ["crate"]

/-- A class of the loop declares a registered parent and has no base. -/
theorem loop_has_no_base :
    ∃ a ∈ loopScope.model.classes, (∃ b, loopScope.model.ParentStep a b) ∧
      loopScope.resolvedParent a = none ∧
      ∃ n < loopScope.model.classes.length, ∃ root,
        loopScope.baseAfter n a = some root ∧ loopScope.resolvedParent root = none := by
  have ha : { ident := .of none "A", parent := some "B" } ∈ loopScope.model.classes :=
    Model.mem_classes.mpr rfl
  have hab : loopScope.model.ParentStep { ident := .of none "A", parent := some "B" }
      { ident := .of none "B", parent := some "A" } := rfl
  have hba : loopScope.model.ParentStep { ident := .of none "B", parent := some "A" }
      { ident := .of none "A", parent := some "B" } := rfl
  obtain ⟨hforest, hnone, -⟩ := bases_form_forest loopScope ha
  exact ⟨_, ha, ⟨_, hab⟩, hnone.mpr (.inr (.inr (.head hab (.single hba)))), hforest⟩

end Scope

end Generate
end TypedGraph
