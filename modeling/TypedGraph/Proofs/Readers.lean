/-
What readers give back of what mutators wrote.

A mutator goes by the ids of its nodes alone, so an inherited one that is called
through a student writes what it would for a person.  A reader goes by the type
that a node is stored with and keeps the nodes of one class.  It gives back what
was written just for the nodes of that very class, and a student is none of the
persons it is asked for.
-/
import TypedGraph.Proofs.EmailIndex
import TypedGraph.Proofs.Ownership

namespace TypedGraph
namespace Sample

open Nodes (Node Store)

variable {g : Nodes.Graph} {n m other : Node} {q r : Relation} {a b : Int}
variable {past : List Call} {plugins : List Nodes.Plugin}

/-! ## Occurrences in a relation -/

/-- A call that takes `b` out of the relation `r` of `a`, from either end. -/
def Call.Parts (r : Relation) (a b : Int) : Call → Prop
  | .removeFrom n q other => Joins q n other r a b
  | _ => False

instance (r : Relation) (a b : Int) : (c : Call) → Decidable (c.Parts r a b)
  | .removeFrom n q other => inferInstanceAs (Decidable (Joins q n other r a b))
  | .connect _ | .disconnect | .create .. | .get .. | .set .. | .related .. | .addTo ..
  | .indexByEmail _ | .findByEmail .. | .findAllByEmail .. => isFalse fun h => h

theorem Call.parts_opposite {c : Call} : c.Parts r.opposite b a ↔ c.Parts r a b := by
  cases c with
  | removeFrom n q other => exact joins_opposite
  | _ => exact Iff.rfl

/-- How often `b` was put into the relation `r` of `a` since it was last taken
out, from either end. -/
def additions (r : Relation) (a b : Int) : List Call → Nat
  | [] => 0
  | .addTo n q other :: past => additions r a b past + if Joins q n other r a b then 1 else 0
  | .removeFrom n q other :: past => if Joins q n other r a b then 0 else additions r a b past
  | _ :: past => additions r a b past

theorem additions_of_not_relates {c : Call} (h : c.relates = false) (r : Relation) (a b : Int) :
    additions r a b (c :: past) = additions r a b past := by
  cases c with
  | addTo n q other => cases h
  | removeFrom n q other => cases h
  | _ => rfl

theorem le_additions_cons {c : Call} (h : ¬c.Parts r a b) :
    additions r a b past ≤ additions r a b (c :: past) := by
  cases c with
  | addTo n q other => exact Nat.le_add_right ..
  | removeFrom n q other => exact Nat.le_of_eq (if_neg h).symm
  | _ => exact Nat.le_refl _

/-- One addition counts as long as nothing parts the two. -/
theorem additions_pos (hjoins : Joins q n other r a b) (earlier : List Call) {later : List Call}
    (hlater : ∀ c ∈ later, ¬c.Parts r a b) :
    0 < additions r a b (later ++ .addTo n q other :: earlier) := by
  induction later with
  | nil =>
    rw [List.nil_append, additions, if_pos hjoins]
    exact Nat.succ_pos _
  | cons c later ih =>
    have hc : ¬c.Parts r a b := hlater c List.mem_cons_self
    have hrest := ih fun d hd => hlater d (List.mem_cons_of_mem c hd)
    exact Nat.lt_of_lt_of_le hrest (le_additions_cons hc)

theorem Run.count_targets (run : Run (newGraph plugins) past g) (r : Relation) (a b : Int) :
    (g.store.targets a r.key).count b = additions r a b past := by
  induction run with
  | start =>
    rw [store_newGraph]
    simp [Store.targets, Store.record?, additions]
  | @call past g c run hc ih =>
    cases hrelates : c.relates with
    | false =>
      have hkey := Call.key_not_mem_relations hrelates r
      rw [Call.targets_perform (run.regular (regular_newGraph plugins)) hc hkey, ih,
        additions_of_not_relates hrelates]
    | true =>
      cases c with
      | addTo n q other =>
        have hn : g.store.contains n.id := hc n (by simp [Call.handles])
        have hother : g.store.contains other.id := hc other (by simp [Call.handles])
        rw [Call.perform, count_addTo hn hother, ih, additions]
      | removeFrom n q other => rw [Call.perform, count_removeFrom, ih, additions]
      | _ => cases hrelates

/-! ## Readers -/

/-- A reader of a relation passes over the nodes of other classes. -/
theorem Regular.ids_related (hg : Regular g) (m : Node) (r : Relation) :
    (related g m r).map (·.id) = (g.store.targets m.id r.key).filter
      fun id => g.store.typeOf? id = some r.target.nodeName := by
  rw [related, Nodes.Graph.related, List.filterMap_filterMap, List.map_filterMap,
    ← List.filterMap_eq_filter]
  refine congrFun (congrArg List.filterMap (funext fun id => ?_)) _
  rw [hg.lookup_downcast?, Option.guard]
  by_cases hclass : g.store.typeOf? id = some r.target.nodeName
  · simp [hclass]
  · simp [hclass]

theorem Run.count_related (run : Run (newGraph plugins) past g) (m : Node) (r : Relation)
    (id : Int) : ((related g m r).map (·.id)).count id =
      if g.store.typeOf? id = some r.target.nodeName then additions r m.id id past else 0 := by
  rw [(run.regular (regular_newGraph plugins)).ids_related, ← run.count_targets]
  by_cases hclass : g.store.typeOf? id = some r.target.nodeName
  · rw [if_pos hclass]
    exact List.count_filter (by simpa using hclass)
  · rw [if_neg hclass]
    exact List.count_eq_zero.mpr fun hmem => hclass (by simpa using (List.mem_filter.mp hmem).2)

theorem enteredEmail?_isSome (h : Call.indexByEmail n ∈ past) :
    (enteredEmail? n.id past).isSome := by
  induction past with
  | nil => cases h
  | cons c past ih =>
    cases henters : c.enters with
    | false =>
      have hne : Call.indexByEmail n ≠ c := by
        rintro rfl
        cases henters
      rw [enteredEmail?_of_not_enters henters]
      exact ih ((List.mem_cons.mp h).resolve_left hne)
    | true =>
      cases c with
      | indexByEmail k =>
        rw [enteredEmail?]
        by_cases hid : k.id = n.id
        · rw [if_pos hid]
          rfl
        · rw [if_neg hid]
          rcases List.mem_cons.mp h with heq | hmem
          · exact absurd (congrArg Node.id (Call.indexByEmail.inj heq)).symm hid
          · exact ih hmem
      | _ => cases henters

theorem Run.mem_findAllByEmail (run : Run (newGraph plugins) past g) (world time i : Int) :
    i ∈ (findAllByEmail g world time).map (·.id) ↔
      g.store.typeOf? i = some ClassName.person.nodeName ∧ (enteredEmail? i past).isSome := by
  have hg := run.regular (regular_newGraph plugins)
  obtain ⟨ids, -, hmem, hfound⟩ := answers_entered hg world time fun _ => true
  have hall : findAllByEmail g world time =
      ids.map fun i => ⟨world, time, i, ClassName.person.accessor⟩ :=
    (findAllByEmailThen_eq g world time id).trans hfound
  have hids : (findAllByEmail g world time).map (·.id) = ids := by
    rw [hall, List.map_map]
    exact List.map_id ids
  rw [hids]
  refine (hmem i).trans (and_congr_right fun _ => ?_)
  rw [run.entered_iff fun _ => true, Option.isSome_iff_exists]
  simp only [and_true]

/-- What was written through the mutators of a person, inherited ones included,
is stored under the id of the node.  The readers give it back for persons, and
for no node of another class, be it one that continues them. -/
theorem readers_give_back_persons_only (run : Run (newGraph plugins) past g) :
    (∀ (n other : Node) (later earlier : List Call),
      past = later ++ .addTo n .owns other :: earlier →
      (∀ c ∈ later, ¬c.Parts .owns n.id other.id) →
        n.id ∈ g.store.targets other.id Relation.ownedBy.key ∧
        ∀ m : Node, m.id = other.id →
          (n.id ∈ (related g m .ownedBy).map (·.id) ↔
            g.store.typeOf? n.id = some "sample.Person")) ∧
    (∀ n : Node, .indexByEmail n ∈ past →
      (g.store.entryAt? emailIndex n.id).isSome ∧
      ∀ world time : Int, (n.id ∈ (findAllByEmail g world time).map (·.id) ↔
        g.store.typeOf? n.id = some "sample.Person")) := by
  refine ⟨fun n other later earlier hpast hlater => ?_, fun n hn => ?_⟩
  · have hjoins : Joins .owns n other .ownedBy other.id n.id :=
      joins_opposite_self.mpr ⟨rfl, rfl⟩
    have hpos : 0 < additions .ownedBy other.id n.id past := by
      rw [hpast]
      exact additions_pos hjoins earlier fun c hc h => hlater c hc (Call.parts_opposite.mp h)
    refine ⟨?_, fun m hm => ?_⟩
    · rw [← List.count_pos_iff, run.count_targets]
      exact hpos
    · rw [← List.count_pos_iff, run.count_related, hm]
      by_cases hperson : g.store.typeOf? n.id = some "sample.Person"
      · simp only [hperson, iff_true]
        exact hpos
      · have hclass : g.store.typeOf? n.id ≠ some Relation.ownedBy.target.nodeName := hperson
        simp [hclass, hperson]
  · have hentered := enteredEmail?_isSome hn
    refine ⟨?_, fun world time => ?_⟩
    · rw [run.entryAt?_eq, Option.isSome_map]
      exact hentered
    · rw [run.mem_findAllByEmail]
      exact and_iff_left hentered

/-- A person that took a car back is given back, while the student who had it in
between and entered the index too is not. -/
theorem person_given_back_beside_student :
    let person : Node := ⟨0, 0, 1, .ofClass "sample.Person"⟩
    let student : Node := ⟨0, 0, 2, .ofClass "sample.Student"⟩
    let car : Node := ⟨3, 7, 3, .ofClass "sample.Car"⟩
    let past : List Call := [.removeFrom car .ownedBy student, .addTo person .owns car,
      .removeFrom car .ownedBy person, .indexByEmail person, .indexByEmail student,
      .addTo student .owns car, .addTo person .owns car, .create .car 0 0, .create .student 0 0,
      .create .person 0 0]
    ∃ g, Run (newGraph []) past g ∧ 1 ∈ (related g car .ownedBy).map (·.id) ∧
      1 ∈ (findAllByEmail g 5 9).map (·.id) ∧ 2 ∉ (findAllByEmail g 5 9).map (·.id) := by
  intro person student car past
  have run : Run (newGraph []) past (past.foldr (fun c g => c.perform g) (newGraph [])) := by
    refine .call _ (.call _ (.call _ (.call _ (.call _ (.call _ (.call _ (.call _ (.call _
      (.call _ .start ?_) ?_) ?_) ?_) ?_) ?_) ?_) ?_) ?_) ?_
    all_goals decide
  obtain ⟨hrelated, hfound⟩ := readers_give_back_persons_only run
  have hparts : ∀ c ∈ [Call.removeFrom car .ownedBy student], ¬c.Parts .owns 1 3 := by
    decide
  obtain ⟨-, hreader⟩ := hrelated person car _ _ rfl hparts
  obtain ⟨-, hperson⟩ := hfound person (by simp [past])
  obtain ⟨-, hstudent⟩ := hfound student (by simp [past])
  refine ⟨_, run, (hreader car rfl).mpr ?_, (hperson 5 9).mpr ?_, fun h => ?_⟩
  · decide
  · decide
  · exact absurd ((hstudent 5 9).mp h) (by decide)

/-- A student that got a car and entered the index is given back by neither
reader, though no call took anything away. -/
theorem student_given_back_by_no_reader :
    let student : Node := ⟨0, 0, 1, .ofClass "sample.Student"⟩
    let car : Node := ⟨0, 0, 2, .ofClass "sample.Car"⟩
    let past : List Call := [.indexByEmail student, .addTo student .owns car, .create .car 0 0,
      .create .student 0 0]
    ∃ g, Run (newGraph []) past g ∧ g.store.typeOf? 1 = some "sample.Student" ∧
      g.store.typeOf? 2 = some "sample.Car" ∧ 1 ∉ (related g car .ownedBy).map (·.id) ∧
      1 ∉ (findAllByEmail g 0 0).map (·.id) := by
  intro student car past
  have run : Run (newGraph []) past (past.foldr (fun c g => c.perform g) (newGraph [])) := by
    refine .call _ (.call _ (.call _ (.call _ .start ?_) ?_) ?_) ?_
    all_goals decide
  refine ⟨_, run, ?_, ?_, ?_, ?_⟩
  all_goals decide

end Sample
end TypedGraph
