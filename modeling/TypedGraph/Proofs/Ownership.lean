/-
The two ends of a relation.

A person owns cars and a car is owned by persons, and each mutator writes the
end it was called on and then the other one.  Adding puts one occurrence at
either end and removing takes all of them away at both, so the ends agree on how
often two nodes are related, whatever calls there were before.
-/
import TypedGraph.Proofs.Calls

namespace TypedGraph
namespace Sample

open Nodes (Node Store)

namespace Relation

theorem opposite_key_ne (r : Relation) : r.opposite.key ≠ r.key := by
  cases r <;> decide

theorem key_ne_mood (r : Relation) : r.key ≠ Mood.key := by
  cases r <;> decide

theorem eq_or_eq_opposite (r q : Relation) : r = q ∨ r = q.opposite := by
  cases r <;> cases q <;> simp [opposite]

end Relation

/-- A mutator of a relation `q` between two nodes is about the occurrences of `b`
in the relation `r` of `a`. -/
def Joins (q : Relation) (n other : Node) (r : Relation) (a b : Int) : Prop :=
  (r = q ∧ a = n.id ∧ b = other.id) ∨ (r = q.opposite ∧ a = other.id ∧ b = n.id)

instance (q : Relation) (n other : Node) (r : Relation) (a b : Int) :
    Decidable (Joins q n other r a b) :=
  inferInstanceAs (Decidable ((_ ∧ _) ∨ _))

variable {g : Nodes.Graph} {n other : Node} {q r : Relation} {a b : Int}

/-- It is so at both ends or at neither. -/
theorem joins_opposite : Joins q n other r.opposite b a ↔ Joins q n other r a b := by
  cases r <;> cases q <;> simp [Joins, Relation.opposite, and_comm]

theorem joins_self : Joins q n other q a b ↔ a = n.id ∧ b = other.id := by
  cases q <;> simp [Joins, Relation.opposite]

theorem joins_opposite_self : Joins q n other q.opposite a b ↔ a = other.id ∧ b = n.id := by
  cases q <;> simp [Joins, Relation.opposite]

/-! ## What the mutators do to an end -/

theorem count_addTo (hn : g.store.contains n.id) (hother : g.store.contains other.id)
    (r : Relation) (a b : Int) :
    ((addTo g n q other).store.targets a r.key).count b =
      (g.store.targets a r.key).count b + (if Joins q n other r a b then 1 else 0) := by
  have hlinked : (g.store.link n.id q.key other.id).contains other.id := by
    rw [Store.contains_eq, Store.typeOf?_link, ← Store.contains_eq]
    exact hother
  have hkey := q.opposite_key_ne
  simp only [store_addTo, Store.targets_link, hn, hlinked, and_true]
  rcases r.eq_or_eq_opposite q with rfl | rfl
  · simp only [joins_self, hkey.symm, and_false, if_false, and_true]
    by_cases ha : a = n.id
    · simp [ha, List.count_append, List.count_singleton, eq_comm (a := b)]
    · simp [ha]
  · simp only [joins_opposite_self, hkey, and_false, if_false, and_true]
    by_cases ha : a = other.id
    · simp [ha, List.count_append, List.count_singleton, eq_comm (a := b)]
    · simp [ha]

theorem count_filter_ne (ids : List Int) (target b : Int) :
    (ids.filter (· != target)).count b = if b = target then 0 else ids.count b := by
  by_cases hb : b = target
  · rw [if_pos hb, hb]
    exact List.count_eq_zero.mpr fun hmem => by simpa using (List.mem_filter.mp hmem).2
  · rw [if_neg hb]
    exact List.count_filter (by simpa using hb)

theorem count_removeFrom (r : Relation) (a b : Int) :
    ((removeFrom g n q other).store.targets a r.key).count b =
      if Joins q n other r a b then 0 else (g.store.targets a r.key).count b := by
  have hkey := q.opposite_key_ne
  simp only [store_removeFrom, Store.targets_unlink]
  rcases r.eq_or_eq_opposite q with rfl | rfl
  · simp only [joins_self, hkey.symm, and_false, if_false, and_true]
    by_cases ha : a = n.id
    · simp only [ha, if_true, true_and, count_filter_ne]
    · simp [ha]
  · simp only [joins_opposite_self, hkey, and_false, if_false, and_true]
    by_cases ha : a = other.id
    · simp only [ha, if_true, true_and, count_filter_ne]
    · simp [ha]

namespace Call

/-- Whether a call is of a mutator of a relation. -/
def relates : Call → Bool
  | .addTo .. | .removeFrom .. => true
  | _ => false

theorem key_not_mem_relations {c : Call} (h : c.relates = false) (r : Relation) :
    r.key ∉ c.relations := by
  cases c with
  | set n a value =>
    cases a with
    | mood => exact fun hmem => r.key_ne_mood (List.mem_singleton.mp hmem)
    | _ => exact List.not_mem_nil
  | addTo n q other => cases h
  | removeFrom n q other => cases h
  | _ => exact List.not_mem_nil

end Call

/-! ## Runs -/

/-- The two ends of every relation agree. -/
def Mirrored (g : Nodes.Graph) : Prop :=
  ∀ (r : Relation) (a b : Int),
    (g.store.targets a r.key).count b = (g.store.targets b r.opposite.key).count a

theorem Mirrored.perform (h : Mirrored g) (hg : Regular g) {c : Call} (hc : c.Reaches g) :
    Mirrored (c.perform g) := by
  intro r a b
  cases c with
  | addTo n q other =>
    have hn : g.store.contains n.id := hc n (by simp [Call.handles])
    have hother : g.store.contains other.id := hc other (by simp [Call.handles])
    rw [Call.perform, count_addTo hn hother, count_addTo hn hother, h r a b]
    simp only [joins_opposite]
  | removeFrom n q other =>
    rw [Call.perform, count_removeFrom, count_removeFrom, h r a b]
    simp only [joins_opposite]
  | _ =>
    have hframe := fun q => Call.targets_perform hg hc (Call.key_not_mem_relations rfl q)
    rw [hframe, hframe, h r a b]

/-- After any run, one node owns another as often as that one is owned by it. -/
theorem owns_count_eq_ownedBy_count {plugins : List Nodes.Plugin} {past : List Call}
    (run : Run (newGraph plugins) past g) (a b : Int) :
    (g.store.targets a Relation.owns.key).count b =
      (g.store.targets b Relation.ownedBy.key).count a := by
  suffices h : Mirrored g from h .owns a b
  induction run with
  | start =>
    intro r a b
    rw [store_newGraph]
    simp [Store.targets, Store.record?]
  | call c run hc ih => exact ih.perform (run.regular (regular_newGraph plugins)) hc

/-- A student is given a car twice, once from either end and in another world,
and a person's attempt to part with the car changes nothing of that. -/
theorem student_owns_car_twice :
    let student : Node := ⟨0, 0, 1, .ofClass "sample.Student"⟩
    let person : Node := ⟨0, 0, 2, .ofClass "sample.Person"⟩
    let car : Node := ⟨3, 7, 3, .ofClass "sample.Car"⟩
    let past : List Call := [.removeFrom person .owns car, .addTo car .ownedBy student,
      .addTo student .owns car, .create .car 0 0, .create .person 0 0, .create .student 0 0]
    ∃ g, Run (newGraph []) past g ∧ (g.store.targets 1 Relation.owns.key).count 3 = 2 ∧
      (g.store.targets 3 Relation.ownedBy.key).count 1 = 2 := by
  intro student person car past
  have run : Run (newGraph []) past (past.foldr (fun c g => c.perform g) (newGraph [])) := by
    refine .call _ (.call _ (.call _ (.call _ (.call _ (.call _ .start ?_) ?_) ?_) ?_) ?_) ?_
    all_goals decide +kernel
  refine ⟨_, run, ?_, ?_⟩
  · rw [owns_count_eq_ownedBy_count run]
    decide +kernel
  · decide +kernel

end Sample
end TypedGraph
