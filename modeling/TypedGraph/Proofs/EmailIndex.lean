/-
The index of email addresses.

Only entering the index changes it, so the table of a graph holds, for every
node that entered, the text its address had when it entered last.  A query is
answered from that table: what an address became since does not count.
-/
import TypedGraph.Proofs.Calls

namespace TypedGraph
namespace Sample

open Nodes (IndexEntry Learner.nodeName Node Query Store)

variable {g : Nodes.Graph} {n : Node} {past : List Call} {world time : Int}

/-! ## The table -/

namespace Call

/-- Whether a call enters the index. -/
def enters : Call → Bool
  | .indexByEmail _ => true
  | _ => false

theorem indexes_perform {c : Call} (hg : Regular g) (h : c.enters = false) :
    (c.perform g).store.indexes = g.store.indexes := by
  cases c with
  | connect planned => cases planned <;> rfl
  | get n a => rw [perform_get]
  | set n a value =>
    by_cases ha : a = .mood
    · subst ha
      exact Mood.indexes_set hg value
    · rw [perform_set ha]
      exact Store.indexes_update ..
  | addTo n r other => simp only [perform, store_addTo, Store.link, Store.indexes_update]
  | removeFrom n r other =>
    simp only [perform, store_removeFrom, Store.unlink, Store.indexes_update]
  | indexByEmail n => cases h
  | _ => rfl

end Call

/-- A node that enters has its former entry replaced. -/
theorem entryAt?_indexByEmail (g : Nodes.Graph) (n : Node) (i : Int) :
    (indexByEmail g n).store.entryAt? emailIndex i =
      if i = n.id then some (g.store.entryOf n.id emailMembers)
      else g.store.entryAt? emailIndex i := by
  have hentry : ((g.store.ensureIndex emailIndex).leave emailIndex n.id).entryOf n.id
      emailMembers = g.store.entryOf n.id emailMembers := by
    simp [Store.entryOf, Store.attribute?]
  rw [store_indexByEmail, Store.entryAt?_enter, hentry, Store.entryAt?_leave,
    Store.entryAt?_ensureIndex]
  by_cases hi : i = n.id
  · rw [if_pos ⟨rfl, hi⟩, if_pos hi]
  · rw [if_neg fun h => hi h.2, if_neg fun h => hi h.2, if_neg hi]

theorem hasIndex_indexByEmail (g : Nodes.Graph) (n : Node) :
    (indexByEmail g n).store.hasIndex emailIndex := by
  rw [store_indexByEmail]
  simp [Store.hasIndex, Store.enter]

/-- The entry of a person whose address reads as a text. -/
def emailEntry (text : String) : IndexEntry := [(Attribute.key .email, text)]

theorem enteredEmail?_of_not_enters {c : Call} (h : c.enters = false) (id : Int) :
    enteredEmail? id (c :: past) = enteredEmail? id past := by
  cases c with
  | indexByEmail n => cases h
  | _ => rfl

section
variable {plugins : List Nodes.Plugin}

theorem Run.entryAt?_eq (run : Run (newGraph plugins) past g) (id : Int) :
    g.store.entryAt? emailIndex id = (enteredEmail? id past).map emailEntry := by
  induction run with
  | start =>
    rw [store_newGraph]
    simp [Store.entryAt?, Store.indexTable, enteredEmail?]
  | @call past g c run hc ih =>
    have hg := run.regular (regular_newGraph plugins)
    cases henters : c.enters with
    | false =>
      rw [enteredEmail?_of_not_enters henters, ← ih, Store.entryAt?, Store.indexTable,
        c.indexes_perform hg henters]
      rfl
    | true =>
      cases c with
      | indexByEmail n =>
        rw [Call.perform, entryAt?_indexByEmail, enteredEmail?]
        by_cases hid : n.id = id
        · rw [if_pos hid.symm, if_pos hid, Store.entryOf, emailMembers, List.map_singleton,
            run.attribute?_eq (by decide), hid]
          rfl
        · rw [if_neg (Ne.symm hid), if_neg hid, ih]
      | _ => cases henters

theorem Run.entered_iff (run : Run (newGraph plugins) past g) (condition : IndexEntry → Bool)
    (id : Int) :
    (∃ entry, g.store.entryAt? emailIndex id = some entry ∧ condition entry = true) ↔
      ∃ text, enteredEmail? id past = some text ∧ condition (emailEntry text) = true := by
  rw [run.entryAt?_eq]
  constructor
  · rintro ⟨entry, hentry, hcondition⟩
    obtain ⟨text, htext, rfl⟩ := Option.map_eq_some_iff.mp hentry
    exact ⟨text, htext, hcondition⟩
  · rintro ⟨text, htext, hcondition⟩
    exact ⟨emailEntry text, by rw [htext]; rfl, hcondition⟩

theorem Run.hasIndex_iff (run : Run (newGraph plugins) past g) :
    g.store.hasIndex emailIndex ↔ ∃ n, Call.indexByEmail n ∈ past := by
  induction run with
  | start =>
    rw [store_newGraph]
    simp [Store.hasIndex]
  | @call past g c run hc ih =>
    have hg := run.regular (regular_newGraph plugins)
    cases henters : c.enters with
    | false =>
      have hother : ∀ n, Call.indexByEmail n ≠ c := by
        rintro n rfl
        cases henters
      rw [Store.hasIndex, c.indexes_perform hg henters]
      simp only [List.mem_cons, hother, false_or]
      exact ih
    | true =>
      cases c with
      | indexByEmail n =>
        exact ⟨fun _ => ⟨n, List.mem_cons_self⟩, fun _ => hasIndex_indexByEmail g n⟩
      | _ => cases henters

end

/-! ## Queries -/

/-- Every pair that a query writes asks for one email address.  The pairs are
the pieces between commas that have an equals sign, cut at the first one. -/
def Asks (query text : String) : Prop :=
  ∀ key value : List Char, '=' ∉ key →
    key ++ '=' :: value ∈ query.toList.splitOn ',' →
      Text.trim key = (Attribute.key .email).toList ∧ Text.trim value = text.toList

theorem holds_emailEntry {query text : String} :
    (Query.parse query).holds (emailEntry text) = true ↔ Asks query text := by
  rw [Query.holds_parse]
  simp [Asks, emailEntry, ← String.toList_inj]

instance (query text : String) : Decidable (Asks query text) :=
  decidable_of_iff _ holds_emailEntry

/-- A list of handles at a world and a time on the persons that are wanted, each
once and in ascending order of their ids. -/
def Answers (world time : Int) (wanted : Int → Prop) (found : List Node) : Prop :=
  ∃ ids : List Int, ids.Pairwise (· < ·) ∧ (∀ id, id ∈ ids ↔ wanted id) ∧
    found = ids.map fun id => ⟨world, time, id, ClassName.person.accessor⟩

namespace ClassName

theorem accessor_ne_learner (c : ClassName) : c.accessor ≠ .learner := by
  cases c <;> decide

theorem accessor_injective {c d : ClassName} (h : c.accessor = d.accessor) : c = d := by
  cases c <;> cases d <;> first | rfl | exact absurd h (by decide)

end ClassName

/-- The accessor of a class is that of its nodes and of no others. -/
theorem Regular.accessorOf_eq (hg : Regular g) {id : Int} {typeName : String}
    (h : g.store.typeOf? id = some typeName) (c : ClassName) :
    g.accessorOf typeName = c.accessor ↔ typeName = c.nodeName := by
  constructor
  · intro haccessor
    rcases hg.typed id typeName h with rfl | ⟨d, rfl⟩
    · rw [hg.learner] at haccessor
      exact absurd haccessor.symm c.accessor_ne_learner
    · rw [hg.accessor] at haccessor
      rw [ClassName.accessor_injective haccessor]
  · rintro rfl
    exact hg.accessor c

/-- A lookup finds a node of a class just where one is stored. -/
theorem Regular.lookup_downcast? (hg : Regular g) (c : ClassName) (id : Int) :
    (g.lookup world time id).bind (·.downcast? c.accessor) =
      if g.store.typeOf? id = some c.nodeName then some ⟨world, time, id, c.accessor⟩
      else none := by
  cases htype : g.store.typeOf? id with
  | none =>
    rw [Nodes.Graph.lookup, htype]
    rfl
  | some typeName =>
    have hlookup : g.lookup world time id = some ⟨world, time, id, g.accessorOf typeName⟩ := by
      rw [Nodes.Graph.lookup, htype]
      rfl
    simp only [hlookup, Option.bind_some, Node.downcast?, hg.accessorOf_eq htype,
      Option.some.injEq]
    by_cases hc : typeName = c.nodeName
    · rw [if_pos hc, if_pos hc, hc, hg.accessor]
    · rw [if_neg hc, if_neg hc]

theorem answers_entered (hg : Regular g) (world time : Int) (condition : IndexEntry → Bool) :
    Answers world time
      (fun id => g.store.typeOf? id = some ClassName.person.nodeName ∧
        ∃ entry, g.store.entryAt? emailIndex id = some entry ∧ condition entry = true)
      ((g.entered ⟨emailIndex, world, time⟩ condition).filterMap
        (·.downcast? ClassName.person.accessor)) := by
  let isPerson (id : Int) : Bool := g.store.typeOf? id = some ClassName.person.nodeName
  refine ⟨(g.store.entered emailIndex condition).filter isPerson, ?_, fun id => ?_, ?_⟩
  · exact (Store.pairwise_entered ..).sublist List.filter_sublist
  · rw [List.mem_filter, Store.mem_entered, and_comm, decide_eq_true_iff]
  · rw [← List.filterMap_eq_filter, List.map_filterMap, Nodes.Graph.entered,
      List.filterMap_filterMap]
    refine congrFun (congrArg List.filterMap (funext fun id => ?_)) _
    rw [hg.lookup_downcast?, Option.guard]
    by_cases hperson : g.store.typeOf? id = some ClassName.person.nodeName
    · simp [isPerson, hperson]
    · simp [isPerson, hperson]

/-! ### Callbacks -/

section
variable {α : Type} (g : Nodes.Graph) (world time : Int) (query : String)
  (callback : List Node → α)

theorem findByEmailThen_eq : findByEmailThen g world time query callback =
    callback ((g.entered ⟨emailIndex, world, time⟩ (Query.parse query).holds).filterMap
      (·.downcast? ClassName.person.accessor)) := by
  cases h : g.store.hasIndex emailIndex with
  | true =>
    simp only [findByEmailThen, Nodes.Graph.indexIfExists, h, if_true]
    rfl
  | false =>
    simp [findByEmailThen, Nodes.Graph.indexIfExists, Nodes.Graph.entered, h,
      Store.entered_of_not_hasIndex h]

theorem findAllByEmailThen_eq : findAllByEmailThen g world time callback =
    callback ((g.entered ⟨emailIndex, world, time⟩ fun _ => true).filterMap
      (·.downcast? ClassName.person.accessor)) := by
  cases h : g.store.hasIndex emailIndex with
  | true =>
    simp only [findAllByEmailThen, Nodes.Graph.indexIfExists, h, if_true]
    rfl
  | false =>
    simp [findAllByEmailThen, Nodes.Graph.indexIfExists, Nodes.Graph.entered, h,
      Store.entered_of_not_hasIndex h]

end

/-- After any run, a query is answered with the persons that entered the index
with an address that it asks for, and without one with all that entered.  Before
any entry there is no index and the answer is empty. -/
theorem query_answers_latest_entries {plugins : List Nodes.Plugin}
    (run : Run (newGraph plugins) past g) (world time : Int) :
    (∀ query, ∃ found,
      Answers world time (fun id => g.store.typeOf? id = some "sample.Person" ∧
        ∃ text, enteredEmail? id past = some text ∧ Asks query text) found ∧
      ∀ {α : Type} (callback : List Node → α),
        findByEmailThen g world time query callback = callback found) ∧
    (∃ found,
      Answers world time (fun id => g.store.typeOf? id = some "sample.Person" ∧
        (enteredEmail? id past).isSome) found ∧
      ∀ {α : Type} (callback : List Node → α),
        findAllByEmailThen g world time callback = callback found) ∧
    (g.store.hasIndex emailIndex ↔ ∃ n, Call.indexByEmail n ∈ past) ∧
    (g.store.hasIndex emailIndex = false → ∀ {α : Type} (callback : List Node → α),
      (∀ query, findByEmailThen g world time query callback = callback []) ∧
      findAllByEmailThen g world time callback = callback []) := by
  have hg := run.regular (regular_newGraph plugins)
  refine ⟨fun query => ?_, ?_, run.hasIndex_iff, fun h α callback => ?_⟩
  · refine ⟨_, ?_, fun callback => findByEmailThen_eq g world time query callback⟩
    obtain ⟨ids, hsorted, hmem, hfound⟩ := answers_entered hg world time (Query.parse query).holds
    refine ⟨ids, hsorted, fun id => (hmem id).trans (and_congr_right fun _ => ?_), hfound⟩
    simp only [run.entered_iff, holds_emailEntry]
  · refine ⟨_, ?_, fun callback => findAllByEmailThen_eq g world time callback⟩
    obtain ⟨ids, hsorted, hmem, hfound⟩ := answers_entered hg world time fun _ => true
    refine ⟨ids, hsorted, fun id => (hmem id).trans (and_congr_right fun _ => ?_), hfound⟩
    rw [run.entered_iff (fun _ => true), Option.isSome_iff_exists]
    simp only [and_true]
  · refine ⟨fun query => ?_, ?_⟩
    · simp [findByEmailThen, Nodes.Graph.indexIfExists, h]
    · simp [findAllByEmailThen, Nodes.Graph.indexIfExists, h]

/-- A person that took another address since is found under the old one, and a
student with that address is not found. -/
theorem person_found_under_entered_address :
    let person : Node := ⟨0, 0, 1, .ofClass "sample.Person"⟩
    let student : Node := ⟨0, 0, 2, .ofClass "sample.Student"⟩
    let past : List Call := [.set person .email "b@x", .indexByEmail student, .indexByEmail person,
      .set student .email "a@x", .set person .email "a@x", .create .student 0 0,
      .create .person 0 0]
    ∃ g, Run (newGraph []) past g ∧ ∃ ids : List Int, 1 ∈ ids ∧ 2 ∉ ids ∧
      findByEmail g 5 9 "email = a@x , name" =
        ids.map fun id => ⟨5, 9, id, .ofClass "sample.Person"⟩ := by
  intro person student past
  have run : Run (newGraph []) past (past.foldr (fun c g => c.perform g) (newGraph [])) := by
    refine .call _ (.call _ (.call _ (.call _ (.call _ (.call _ (.call _ .start ?_) ?_) ?_) ?_)
      ?_) ?_) ?_
    all_goals decide +kernel
  obtain ⟨hfind, -⟩ := query_answers_latest_entries run 5 9
  obtain ⟨found, ⟨ids, -, hmem, rfl⟩, hcall⟩ := hfind "email = a@x , name"
  have hone := (hmem 1).mpr ⟨by decide +kernel, "a@x", rfl, by decide +kernel⟩
  refine ⟨_, run, ids, hone, fun htwo => ?_, hcall id⟩
  exact absurd ((hmem 2).mp htwo).1 (by decide +kernel)

end Sample
end TypedGraph
