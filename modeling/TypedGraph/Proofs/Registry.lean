/-
What a run of registrations leaves in a registry.

The classifiers that a run writes, in order, determine the registry: a name holds
its last write, and the rows are those of the writes that no later one replaced.
`Holds` says so of a registry and a list of writes.  One write keeps it
(`Holds.add`), hence every run does (`holds_run`), and what the registry answers
about indexes is read off from it.
-/
import Mathlib.Data.List.Induction
import Mathlib.Data.List.Nodup
import TypedGraph.Schema.Model

namespace TypedGraph
namespace Schema

/-- A change that a caller asks of a registry. -/
inductive Registration
  | classifier (c : Classifier)
  | index (fqn className : String) (properties : List String)

namespace Model

/-- The registry after a registration.  One that fails changes nothing. -/
def register (m : Model) : Registration → Model
  | .classifier c => m.add c
  | .index fqn className properties =>
    match m.addIndex fqn className properties with
    | .ok after => after
    | .error _ => m

def run (m : Model) (rs : List Registration) : Model := rs.foldl register m

/-- The classifier that a registration writes, unless it fails. -/
def written? (m : Model) : Registration → Option Classifier
  | .classifier c => some c
  | .index fqn className properties =>
    match QualifiedName.parse fqn, m.class? className with
    | .ok ident, some owner => (Index.ofClass ident owner properties).toOption.map .ofIndex
    | _, _ => none

/-- What the registrations of a run write, in order. -/
def writes (m : Model) : List Registration → List Classifier
  | [] => []
  | r :: rest => (m.written? r).toList ++ (m.register r).writes rest

theorem register_eq (m : Model) (r : Registration) :
    m.register r = (m.written? r).elim m m.add := by
  cases r with
  | classifier c => rfl
  | index fqn className properties =>
    simp only [register, written?, addIndex]
    cases QualifiedName.parse fqn with
    | error e => rfl
    | ok ident =>
      cases m.class? className with
      | none => rfl
      | some owner =>
        simp only [bind, Except.bind]
        cases Index.ofClass ident owner properties <;> rfl

/-! ## Last writes -/

/-- The last write of a name. -/
def lastWrite (fqn : String) (ws : List Classifier) : Option Classifier :=
  (ws.filter (·.fqn == fqn)).getLast?

/-- The writes that no later one of the same name replaces, in their order. -/
def current : List Classifier → List Classifier
  | [] => []
  | c :: rest => if rest.any (·.fqn == c.fqn) then current rest else c :: current rest

theorem current_concat (ws : List Classifier) (c : Classifier) :
    current (ws ++ [c]) = (current ws).filter (·.fqn != c.fqn) ++ [c] := by
  induction ws with
  | nil => rfl
  | cons d rest ih =>
    simp only [List.cons_append, current, List.any_append, List.any_cons, List.any_nil,
      Bool.or_false]
    by_cases hr : rest.any (·.fqn == d.fqn) = true
    · simp only [hr, Bool.true_or, if_true]
      exact ih
    · have hr' : rest.any (·.fqn == d.fqn) = false := Bool.eq_false_iff.mpr hr
      by_cases hc : c.fqn = d.fqn
      · simp only [hr', hc, beq_self_eq_true, Bool.or_true, if_true, if_false, Bool.false_eq_true]
        rw [List.filter_cons_of_neg (by simp), ih, hc]
      · have hc' : (c.fqn == d.fqn) = false := beq_eq_false_iff_ne.mpr hc
        simp only [hr', hc', Bool.or_false, if_false, Bool.false_eq_true]
        rw [List.filter_cons_of_pos (by simpa using Ne.symm hc), ih, List.cons_append]

theorem lastWrite_concat (fqn : String) (ws : List Classifier) (c : Classifier) :
    lastWrite fqn (ws ++ [c]) = if c.fqn = fqn then some c else lastWrite fqn ws := by
  unfold lastWrite
  rw [List.filter_append]
  by_cases hc : c.fqn = fqn
  · rw [if_pos hc, List.filter_cons_of_pos (by simpa using hc), List.filter_nil,
      List.getLast?_append_of_ne_nil _ (by simp)]
    rfl
  · rw [if_neg hc, List.filter_cons_of_neg (by simpa using hc), List.filter_nil, List.append_nil]

/-- Of the current writes, a name has its last one. -/
theorem filter_current (fqn : String) (ws : List Classifier) :
    (current ws).filter (·.fqn == fqn) = (lastWrite fqn ws).toList := by
  induction ws using List.reverseRecOn with
  | nil => rfl
  | append_singleton ws c ih =>
    rw [current_concat, lastWrite_concat, List.filter_append, List.filter_filter]
    by_cases hc : c.fqn = fqn
    · subst hc
      have hnone : (current ws).filter (fun d => d.fqn == c.fqn && d.fqn != c.fqn) = [] := by
        rw [List.filter_eq_nil_iff]
        intro d _
        simp
      rw [hnone, if_pos rfl, List.filter_cons_of_pos (by simp)]
      rfl
    · have hsame : (current ws).filter (fun d => d.fqn == fqn && d.fqn != c.fqn) =
          (current ws).filter (·.fqn == fqn) := by
        refine List.filter_congr fun d _ => ?_
        by_cases hd : d.fqn = fqn
        · simp [hd, Ne.symm hc]
        · simp [hd]
      rw [hsame, ih, if_neg hc, List.filter_cons_of_neg (by simpa using hc), List.filter_nil,
        List.append_nil]

theorem mem_current {ws : List Classifier} {c : Classifier} :
    c ∈ current ws ↔ lastWrite c.fqn ws = some c := by
  have h : c ∈ (current ws).filter (·.fqn == c.fqn) ↔ lastWrite c.fqn ws = some c := by
    rw [filter_current, Option.mem_toList]
  rw [← h, List.mem_filter]
  exact ⟨fun hc => ⟨hc, beq_self_eq_true _⟩, fun hc => hc.1⟩

theorem nodup_current (ws : List Classifier) : ((current ws).map Classifier.fqn).Nodup := by
  induction ws using List.reverseRecOn with
  | nil => exact List.nodup_nil
  | append_singleton ws c ih =>
    rw [current_concat, List.map_append, List.nodup_append]
    refine ⟨ih.sublist (List.filter_sublist.map _), List.nodup_singleton _, ?_⟩
    intro a ha b hb hab
    obtain ⟨d, hd, rfl⟩ := List.mem_map.mp ha
    rw [List.map_singleton, List.mem_singleton] at hb
    have hne := (List.mem_filter.mp hd).2
    rw [bne_iff_ne] at hne
    exact hne (hab.trans hb)

/-! ## The registry of a list of writes -/

/-- The registry that a list of writes leaves. -/
structure Holds (m : Model) (ws : List Classifier) : Prop where
  get? : ∀ fqn, m.get? fqn = lastWrite fqn ws
  rows : m.rows = (current ws).flatMap rowsOf

/-- The rows of a classifier name it as their index. -/
theorem filter_rowsOf (p : String → Bool) (c : Classifier) :
    (rowsOf c).filter (fun r => p r.index) = if p c.fqn then rowsOf c else [] := by
  cases c with
  | ofClass c => simp [rowsOf]
  | ofEnum e => simp [rowsOf]
  | ofIndex i =>
    show (i.properties.map _).filter _ = if p i.fqn then i.properties.map _ else []
    rw [List.filter_map]
    by_cases hp : p i.fqn = true
    · rw [if_pos hp, List.filter_eq_self.mpr]
      intro _ _
      exact hp
    · rw [if_neg hp, List.filter_eq_nil_iff.mpr]
      · rfl
      · intro _ _
        exact hp

theorem filter_flatMap_rowsOf (p : String → Bool) (cs : List Classifier) :
    (cs.flatMap rowsOf).filter (fun r => p r.index) =
      (cs.filter fun c => p c.fqn).flatMap rowsOf := by
  induction cs with
  | nil => rfl
  | cons c rest ih =>
    rw [List.flatMap_cons, List.filter_append, ih, filter_rowsOf, List.filter_cons]
    by_cases hp : p c.fqn = true
    · rw [if_pos hp, if_pos hp, List.flatMap_cons]
    · rw [if_neg hp, if_neg hp, List.nil_append]

namespace Holds

variable {m : Model} {ws : List Classifier}

theorem mem_current_iff (h : Holds m ws) {c : Classifier} :
    c ∈ current ws ↔ m.get? c.fqn = some c := by
  rw [mem_current, h.get?]

/-- A name has no rows unless it holds an index. -/
theorem index_of_mem_rows (h : Holds m ws) {r : IndexRow} (hr : r ∈ m.rows) :
    ∃ i, m.index? r.index = some i := by
  rw [h.rows, List.mem_flatMap] at hr
  obtain ⟨c, hc, hr⟩ := hr
  cases c with
  | ofClass c => exact absurd hr List.not_mem_nil
  | ofEnum e => exact absurd hr List.not_mem_nil
  | ofIndex i =>
    obtain ⟨p, _, rfl⟩ := List.mem_map.mp hr
    exact ⟨i, index?_eq_some.mpr (h.mem_current_iff.mp hc)⟩

/-- Whatever a write replaces, the rows of its name go. -/
theorem rows_add (h : Holds m ws) (c : Classifier) :
    (m.add c).rows = m.rows.filter (·.index != c.fqn) ++ rowsOf c := by
  unfold Model.add
  cases hi : m.index? c.fqn with
  | some i => rfl
  | none =>
    -- The name holds no index, hence has no rows to lose.
    have hkept : m.rows.filter (·.index != c.fqn) = m.rows := by
      rw [List.filter_eq_self]
      intro r hr
      obtain ⟨i, hri⟩ := h.index_of_mem_rows hr
      rw [bne_iff_ne]
      intro he
      rw [he, hi] at hri
      exact nomatch hri
    rw [hkept]

theorem add (h : Holds m ws) (c : Classifier) : Holds (m.add c) (ws ++ [c]) where
  get? := fun fqn => by rw [get?_add, lastWrite_concat, h.get?]
  rows := by
    rw [h.rows_add, h.rows, filter_flatMap_rowsOf (· != c.fqn), current_concat,
      List.flatMap_append, List.flatMap_singleton]

end Holds

theorem holds_empty : Holds empty [] where
  get? := fun fqn => by simp [empty, Model.get?, lastWrite]
  rows := rfl

/-- A run takes a registry from the writes so far to those and its own. -/
theorem holds_run {m : Model} {ws : List Classifier} (h : Holds m ws) (rs : List Registration) :
    Holds (m.run rs) (ws ++ m.writes rs) := by
  induction rs generalizing m ws with
  | nil =>
    rw [writes, List.append_nil]
    exact h
  | cons r rest ih =>
    have hstep : Holds (m.register r) (ws ++ (m.written? r).toList) := by
      rw [register_eq]
      cases m.written? r with
      | none =>
        rw [Option.toList_none, List.append_nil]
        exact h
      | some c => exact h.add c
    rw [writes, ← List.append_assoc]
    exact ih hstep

/-! ## What the registry answers about indexes -/

theorem nodup_properties (i : Index) : i.properties.Nodup := nodup_toList i.members

/-- The rows of an index that cover a property lead back to it, once. -/
theorem covering_rows {m : Model} {i : Index} (hi : m.index? i.fqn = some i)
    (className property : String) :
    ((rowsOf (.ofIndex i)).filter fun r =>
        r.className == className && r.property == property).filterMap (fun r => m.index? r.index) =
      [i].filter fun i => i.className == className && i.properties.contains property := by
  have hrows : rowsOf (.ofIndex i) =
      i.properties.map fun p => ⟨i.fqn, i.className, p⟩ := rfl
  rw [hrows, List.filter_map, List.filterMap_map]
  by_cases hc : i.className = className
  · have hmembers : i.properties.filter (fun p => i.className == className && p == property) =
        if property ∈ i.properties then [property] else [] := by
      simp only [hc, beq_self_eq_true, Bool.true_and]
      rw [List.filter_beq, (nodup_properties i).count]
      by_cases hp : property ∈ i.properties
      · rw [if_pos hp, if_pos hp]
        rfl
      · rw [if_neg hp, if_neg hp]
        rfl
    show List.filterMap (fun _ => m.index? i.fqn)
      (i.properties.filter fun p => i.className == className && p == property) = _
    rw [hmembers]
    by_cases hp : property ∈ i.properties
    · rw [if_pos hp, List.filter_cons_of_pos (by simp [hc, hp])]
      simp [hi]
    · rw [if_neg hp, List.filter_cons_of_neg (by simp [hp])]
      rfl
  · rw [List.filter_cons_of_neg (by simp [hc]), List.filter_eq_nil_iff.mpr]
    · rfl
    · intro p _
      simp [hc]

theorem filterMap_index? {m : Model} (className property : String) (cs : List Classifier)
    (hcs : ∀ c ∈ cs, m.get? c.fqn = some c) :
    ((cs.flatMap rowsOf).filter fun r =>
        r.className == className && r.property == property).filterMap (fun r => m.index? r.index) =
      (cs.filterMap Classifier.index?).filter fun i =>
        i.className == className && i.properties.contains property := by
  induction cs with
  | nil => rfl
  | cons c rest ih =>
    have hrest := ih fun d hd => hcs d (List.mem_cons_of_mem c hd)
    have hc := hcs c List.mem_cons_self
    rw [List.flatMap_cons, List.filter_append, List.filterMap_append, hrest]
    cases c with
    | ofClass c => rfl
    | ofEnum e => rfl
    | ofIndex i =>
      have hi : m.index? i.fqn = some i := index?_eq_some.mpr hc
      have hself : Classifier.index? (.ofIndex i) = some i := rfl
      rw [covering_rows hi, List.filterMap_cons_some hself, ← List.filter_append,
        List.singleton_append]

namespace Holds

variable {m : Model} {ws : List Classifier}

theorem rows_of_name (h : Holds m ws) (fqn : String) :
    m.rows.filter (·.index == fqn) = ((m.get? fqn).toList).flatMap rowsOf := by
  rw [h.rows, filter_flatMap_rowsOf (· == fqn), filter_current, h.get?]

theorem indexesOf_eq (h : Holds m ws) (className property : String) :
    m.indexesOf className property = ((current ws).filterMap Classifier.index?).filter fun i =>
      i.className == className && i.properties.contains property := by
  unfold indexesOf
  rw [h.rows]
  exact filterMap_index? className property (current ws) fun c hc => h.mem_current_iff.mp hc

theorem mem_indexesOf (h : Holds m ws) {className property : String} {i : Index} :
    i ∈ m.indexesOf className property ↔
      m.index? i.fqn = some i ∧ i.className = className ∧ property ∈ i.properties := by
  rw [h.indexesOf_eq, List.mem_filter, List.mem_filterMap, Bool.and_eq_true, beq_iff_eq,
    List.contains_iff_mem, index?_eq_some]
  refine and_congr_left fun _ => ?_
  constructor
  · rintro ⟨c, hc, hi⟩
    cases c with
    | ofClass c => exact nomatch hi
    | ofEnum e => exact nomatch hi
    | ofIndex j =>
      rw [← Option.some.inj hi]
      exact h.mem_current_iff.mp hc
  · intro hi
    exact ⟨.ofIndex i, h.mem_current_iff.mpr hi, rfl⟩

/-- No index stands twice among those that cover a property. -/
theorem nodup_indexesOf (h : Holds m ws) (className property : String) :
    ((m.indexesOf className property).map Index.fqn).Nodup := by
  rw [h.indexesOf_eq]
  have hsub : ∀ cs : List Classifier,
      ((cs.filterMap Classifier.index?).map Index.fqn).Sublist (cs.map Classifier.fqn) := by
    intro cs
    induction cs with
    | nil => exact List.Sublist.refl _
    | cons c rest ih =>
      cases c with
      | ofClass c => exact ih.cons _
      | ofEnum e => exact ih.cons _
      | ofIndex i => exact ih.cons_cons _
  exact (nodup_current ws).sublist ((List.filter_sublist.map _).trans (hsub _))

/-- An index is found through each of its members. -/
theorem mem_membersOf (h : Holds m ws) {fqn property : String} :
    property ∈ m.membersOf fqn ↔
      ∃ className, ∃ i ∈ m.indexesOf className property, i.fqn = fqn := by
  unfold membersOf
  constructor
  · intro hp
    cases hi : m.index? fqn with
    | none =>
      rw [hi] at hp
      exact absurd hp List.not_mem_nil
    | some i =>
      rw [hi] at hp
      have hf : i.fqn = fqn := fqn_of_get? (index?_eq_some.mp hi)
      refine ⟨i.className, i, h.mem_indexesOf.mpr ⟨?_, rfl, hp⟩, hf⟩
      rw [hf]
      exact hi
  · rintro ⟨className, i, hi, rfl⟩
    obtain ⟨hi, _, hp⟩ := h.mem_indexesOf.mp hi
    rw [hi]
    exact hp

/-- Each member of the index that a name holds has one row, and other names have
none. -/
theorem rows_of_index (h : Holds m ws) (fqn : String) :
    m.rows.filter (·.index == fqn) =
      (match m.get? fqn with
        | some (.ofIndex i) => i.properties.map fun p => ⟨fqn, i.className, p⟩
        | _ => []) ∧
      (m.rows.filter (·.index == fqn)).Nodup := by
  rw [h.rows_of_name]
  cases hf : m.get? fqn with
  | none => exact ⟨rfl, List.nodup_nil⟩
  | some c =>
    rw [Option.toList_some, List.flatMap_singleton]
    cases c with
    | ofClass c => exact ⟨rfl, List.nodup_nil⟩
    | ofEnum e => exact ⟨rfl, List.nodup_nil⟩
    | ofIndex i =>
      have hi : i.fqn = fqn := fqn_of_get? hf
      subst hi
      exact ⟨rfl, (nodup_properties i).map fun p q hpq => (IndexRow.mk.inj hpq).2.2⟩

end Holds

/-- Any run of registrations, failed ones among them, keeps the two stores of a
registry in step.  A name holds its last write, and has one row for each member
if that is an index, and otherwise none.  So the indexes that cover a property
are those that are registered, over its class, and have it as a member, each
once and in the order in which they were last registered. -/
theorem run_keeps_stores_in_step (rs : List Registration) :
    (∀ fqn c, (empty.run rs).get? fqn = some c → c.fqn = fqn) ∧
    (∀ fqn, (empty.run rs).get? fqn = lastWrite fqn (empty.writes rs)) ∧
    (∀ fqn,
      (empty.run rs).rows.filter (·.index == fqn) =
        (match (empty.run rs).get? fqn with
          | some (.ofIndex i) => i.properties.map fun p => ⟨fqn, i.className, p⟩
          | _ => []) ∧
        ((empty.run rs).rows.filter (·.index == fqn)).Nodup) ∧
    (∀ className property,
      (empty.run rs).indexesOf className property =
        ((current (empty.writes rs)).filterMap Classifier.index?).filter (fun i =>
          i.className == className && i.properties.contains property) ∧
        (((empty.run rs).indexesOf className property).map Index.fqn).Nodup) ∧
    (∀ className property i, i ∈ (empty.run rs).indexesOf className property ↔
      (empty.run rs).index? i.fqn = some i ∧ i.className = className ∧
        property ∈ i.properties) ∧
    (∀ fqn property, property ∈ (empty.run rs).membersOf fqn ↔
      ∃ className, ∃ i ∈ (empty.run rs).indexesOf className property, i.fqn = fqn) := by
  have h : Holds (empty.run rs) (empty.writes rs) := holds_run holds_empty rs
  refine ⟨fun fqn c => fqn_of_get?, h.get?, h.rows_of_index, ?_, ?_, ?_⟩
  · intro className property
    exact ⟨h.indexesOf_eq className property, h.nodup_indexesOf className property⟩
  · intro className property i
    exact h.mem_indexesOf
  · intro fqn property
    exact h.mem_membersOf

end Model

end Schema
end TypedGraph
