/-
What a call leaves.

`Regular` is what every run keeps true of a graph: ids are given out in order,
the accessors of the model are registered, and nodes are of its types.  Beside
it stand the effects of a call on what can be asked of a graph, one statement
for each question: the ends of relations, plain attributes, and entries of the
index.  Each names the calls that change the answer and what they make of it.
-/
import TypedGraph.Sample.Calls

namespace TypedGraph
namespace Nodes
namespace Store

variable {s : Store} {i : Int}

theorem targets_eq_nil (h : ¬s.contains i) (r : String) : s.targets i r = [] := by
  rw [targets, Option.not_isSome_iff_eq_none.mp h]
  rfl

theorem attribute?_eq_none (h : ¬s.contains i) (a : String) : s.attribute? i a = none := by
  rw [attribute?, Option.not_isSome_iff_eq_none.mp h]
  rfl

/-- No id is in use that has not been given out. -/
def Numbered (s : Store) : Prop := ∀ id, s.contains id → id ≤ s.lastId

namespace Numbered

theorem not_contains (h : s.Numbered) : ¬s.contains (s.lastId + 1) := by
  intro hc
  have := h _ hc
  omega

theorem contains_create (typeName : String) :
    (s.create typeName).2.contains i ↔ i = s.lastId + 1 ∨ s.contains i := by
  rw [contains_eq, contains_eq, typeOf?_create]
  by_cases hi : i = s.lastId + 1
  · simp [hi]
  · simp [hi]

/-- A new node has no relations, as before it was stored. -/
theorem targets_create (h : s.Numbered) (typeName : String) (i : Int) (r : String) :
    (s.create typeName).2.targets i r = s.targets i r := by
  rw [Store.targets_create]
  split
  · next hi => rw [hi, targets_eq_nil h.not_contains]
  · rfl

theorem attribute?_create (h : s.Numbered) (typeName : String) (i : Int) (a : String) :
    (s.create typeName).2.attribute? i a = s.attribute? i a := by
  rw [Store.attribute?_create]
  split
  · next hi => rw [hi, attribute?_eq_none h.not_contains]
  · rfl

end Numbered

end Store
end Nodes

namespace Sample

open Nodes (Learner.nodeName Learner.valueKey Node Store Value)

variable {g : Nodes.Graph} {n : Node}

/-! ## Graphs of the model -/

/-- Ids are given out in order, the model's accessors are registered, and nodes
are of its classes or learners. -/
structure Regular (g : Nodes.Graph) : Prop where
  numbered : g.store.Numbered
  accessor : ∀ c : ClassName, g.accessorOf c.nodeName = c.accessor
  learner : g.accessorOf Learner.nodeName = .learner
  typed : ∀ id typeName, g.store.typeOf? id = some typeName →
    typeName = Learner.nodeName ∨ ∃ c : ClassName, typeName = c.nodeName

theorem store_foldl_start (plugins : List Nodes.Plugin) (g : Nodes.Graph) :
    (plugins.foldl Nodes.Graph.start g).store = g.store := by
  induction plugins generalizing g with
  | nil => rfl
  | cons p plugins ih => exact ih (g.start p)

@[simp] theorem store_newGraph (plugins : List Nodes.Plugin) : (newGraph plugins).store = {} :=
  store_foldl_start _ _

theorem accessorOf_start_learner (g : Nodes.Graph) (typeName : String) :
    (g.start Nodes.Learner.plugin).accessorOf typeName =
      if typeName = Learner.nodeName then .learner else g.accessorOf typeName := by
  show (g.factories.insert Learner.nodeName _)[typeName]?.getD _ = _
  rw [Std.TreeMap.getElem?_insert]
  simp only [Std.LawfulEqCmp.compare_eq_iff_eq, eq_comm (b := typeName)]
  split <;> rfl

theorem accessorOf_start_plugin (g : Nodes.Graph) (c : ClassName) :
    (g.start plugin).accessorOf c.nodeName = c.accessor := by
  show (((g.factories.insert ClassName.person.nodeName _).insert ClassName.student.nodeName
    _).insert ClassName.car.nodeName _)[c.nodeName]?.getD _ = _
  simp only [Std.TreeMap.getElem?_insert, Std.LawfulEqCmp.compare_eq_iff_eq]
  cases c <;> rfl

theorem nodeName_ne_learner (c : ClassName) : c.nodeName ≠ Learner.nodeName := by
  cases c <;> decide

/-- Whatever plugins are given, those of the model are started after them. -/
theorem regular_newGraph (plugins : List Nodes.Plugin) : Regular (newGraph plugins) := by
  have hstart : newGraph plugins = ((plugins.foldl Nodes.Graph.start
      { plugins := plugins ++ [plugin, Nodes.Learner.plugin] }).start plugin).start
        Nodes.Learner.plugin := by
    rw [newGraph, Nodes.Graph.build, List.foldl_append]
    rfl
  refine ⟨?_, fun c => ?_, ?_, ?_⟩
  · rw [store_newGraph]
    intro id hid
    simp [Store.contains, Store.record?] at hid
  · rw [hstart, accessorOf_start_learner, if_neg (nodeName_ne_learner c), accessorOf_start_plugin]
  · rw [hstart, accessorOf_start_learner, if_pos rfl]
  · rw [store_newGraph]
    intro id typeName h
    simp [Store.typeOf?, Store.record?] at h

/-! ## Writing a mood -/

namespace Mood

variable {learner : Node}

@[simp] theorem read_fst (g : Nodes.Graph) (n : Node) : (read g n).1 = g := by
  unfold read
  split <;> rfl

theorem store_set_of_some (h : learner? g n = some learner) (value : Number.Double) :
    (set g n value).store = g.store.setAttribute learner.id Learner.valueKey (.double value) := by
  simp only [set, write, h]
  rfl

/-- The store after a learner was made and set up for a node. -/
def withLearner (s : Store) (owner : Int) : Store :=
  (parameters.foldl (fun after (name, value) => after.setAttribute (s.lastId + 1) name value)
    (s.create Learner.nodeName).2).link owner key (s.lastId + 1)

theorem store_set_of_none (hg : g.accessorOf Learner.nodeName = .learner)
    (h : learner? g n = none) (value : Number.Double) :
    (set g n value).store =
      (withLearner g.store n.id).setAttribute (g.store.lastId + 1) Learner.valueKey
        (.double value) := by
  have hcreated : (newLearner g n).1 =
      some ⟨n.world, n.time, g.store.lastId + 1, .learner⟩ := by
    simp only [newLearner, Nodes.Graph.newNode, Store.create, Node.downcast?, Nodes.Graph.handle,
      hg]
    rfl
  simp only [set, write, h, hcreated]
  rfl

variable {s : Store} {owner : Int}

theorem typeOf?_withLearner (s : Store) (owner i : Int) : (withLearner s owner).typeOf? i =
    if i = s.lastId + 1 then some Learner.nodeName else s.typeOf? i := by
  simp only [withLearner, parameters, List.foldl_cons, List.foldl_nil, Store.typeOf?_link,
    Store.typeOf?_setAttribute, Store.typeOf?_create]

theorem lastId_withLearner (s : Store) (owner : Int) :
    (withLearner s owner).lastId = s.lastId + 1 := by
  simp only [withLearner, parameters, List.foldl_cons, List.foldl_nil, Store.link,
    Store.setAttribute, Store.lastId_update]
  rfl

theorem indexes_withLearner (s : Store) (owner : Int) :
    (withLearner s owner).indexes = s.indexes := by
  simp only [withLearner, parameters, List.foldl_cons, List.foldl_nil, Store.link,
    Store.setAttribute, Store.indexes_update]
  rfl

theorem targets_withLearner (hs : s.Numbered) (howner : s.contains owner) (i : Int) (r : String) :
    (withLearner s owner).targets i r =
      if i = owner ∧ r = key then s.targets i r ++ [s.lastId + 1] else s.targets i r := by
  have hcontains : (s.create Learner.nodeName).2.contains owner :=
    (Store.Numbered.contains_create _).mpr (.inr howner)
  rw [Store.contains_eq] at hcontains
  simp only [withLearner, parameters, List.foldl_cons, List.foldl_nil, Store.targets_link,
    Store.contains_eq, Store.targets_setAttribute, Store.typeOf?_setAttribute, hcontains,
    hs.targets_create, and_true]

theorem attribute?_withLearner (hs : s.Numbered) (i : Int) (a : String) :
    (withLearner s owner).attribute? i a =
      if i = s.lastId + 1 then parameters.lookup a else s.attribute? i a := by
  have hcontains : ((s.create Learner.nodeName).2.typeOf? (s.lastId + 1)).isSome := by
    rw [Store.typeOf?_create, if_pos rfl]
    rfl
  have hnone := Store.attribute?_eq_none hs.not_contains a
  simp only [withLearner, parameters, List.foldl_cons, List.foldl_nil, Store.attribute?_link,
    Store.attribute?_setAttribute, Store.contains_eq, Store.typeOf?_setAttribute, hcontains,
    hs.attribute?_create, and_true]
  by_cases hi : i = s.lastId + 1
  · subst hi
    by_cases hp : a = "precision"
    · simp [hp, List.lookup_cons]
    · by_cases hd : a = "degree"
      · simp [hd]
      · simp [hnone, hp, hd, List.lookup_cons, beq_eq_false_iff_ne.mpr hp,
          beq_eq_false_iff_ne.mpr hd]
  · simp [hi]

/-- Keys of a learner's attributes. -/
def learnerKeys : List String := Learner.valueKey :: parameters.map (·.1)

theorem typeOf?_set (hg : Regular g) (value : Number.Double) (i : Int) :
    (set g n value).store.typeOf? i =
      if learner? g n = none ∧ i = g.store.lastId + 1 then some Learner.nodeName
      else g.store.typeOf? i := by
  cases hl : learner? g n with
  | none => simp [store_set_of_none hg.learner hl, typeOf?_withLearner]
  | some learner => simp [store_set_of_some hl]

theorem targets_set (hg : Regular g) (hn : g.store.contains n.id) (value : Number.Double) (i : Int)
    (r : String) : (set g n value).store.targets i r =
      if learner? g n = none ∧ i = n.id ∧ r = key then g.store.targets i r ++ [g.store.lastId + 1]
      else g.store.targets i r := by
  cases hl : learner? g n with
  | none => simp [store_set_of_none hg.learner hl, targets_withLearner hg.numbered hn]
  | some learner => simp [store_set_of_some hl]

/-- A write touches no attribute but those of learners. -/
theorem attribute?_set (hg : Regular g) (value : Number.Double) (i : Int) {a : String}
    (ha : a ∉ learnerKeys) : (set g n value).store.attribute? i a = g.store.attribute? i a := by
  have hvalue : a ≠ Learner.valueKey := fun h => ha (h ▸ List.mem_cons_self)
  cases hl : learner? g n with
  | none =>
    rw [store_set_of_none hg.learner hl, Store.attribute?_setAttribute,
      if_neg fun h => hvalue h.2.1, attribute?_withLearner hg.numbered]
    split
    · next hi =>
      have hparameter : parameters.lookup a = none := by
        refine List.lookup_eq_none_iff.mpr fun p hp => ?_
        refine bne_iff_ne.mpr fun h => ha (List.mem_cons_of_mem _ ?_)
        rw [h]
        exact List.mem_map_of_mem hp
      rw [hi, Store.attribute?_eq_none hg.numbered.not_contains, hparameter]
    · rfl
  | some learner =>
    rw [store_set_of_some hl, Store.attribute?_setAttribute, if_neg fun h => hvalue h.2.1]

theorem lastId_set (hg : Regular g) (value : Number.Double) : (set g n value).store.lastId =
    if learner? g n = none then g.store.lastId + 1 else g.store.lastId := by
  cases hl : learner? g n with
  | none =>
    rw [store_set_of_none hg.learner hl, Store.setAttribute, Store.lastId_update,
      lastId_withLearner, if_pos rfl]
  | some learner =>
    rw [store_set_of_some hl, Store.setAttribute, Store.lastId_update]
    rfl

theorem indexes_set (hg : Regular g) (value : Number.Double) :
    (set g n value).store.indexes = g.store.indexes := by
  cases hl : learner? g n with
  | none =>
    rw [store_set_of_none hg.learner hl, Store.setAttribute, Store.indexes_update,
      indexes_withLearner]
  | some learner => rw [store_set_of_some hl, Store.setAttribute, Store.indexes_update]

theorem factories_set (value : Number.Double) : (set g n value).factories = g.factories := by
  simp only [set, write]
  cases hl : learner? g n with
  | some learner => rfl
  | none => cases hnew : (newLearner g n).1 <;> rfl

end Mood

namespace Attribute

theorem key_injective {a b : Attribute} (h : a.key = b.key) : a = b := by
  have hfind : ∀ a : Attribute, all.find? (·.key == a.key) = some a := by
    intro a
    cases a <;> rfl
  exact Option.some.inj ((hfind a).symm.trans (h ▸ hfind b))

theorem key_not_mem_learnerKeys (a : Attribute) : a.key ∉ Mood.learnerKeys := by
  cases a <;> decide

end Attribute

/-! ## Any call -/

/-- The value always has the kind that its attribute announces. -/
theorem set_eq_ok {a : Attribute} (h : a ≠ .mood) (value : a.kind.type) :
    set g n a value = .ok (g.setParameter n a.key (.of a.kind value)) := by
  cases a <;> first | exact absurd rfl h | rfl

theorem store_addTo (g : Nodes.Graph) (n : Node) (r : Relation) (other : Node) :
    (addTo g n r other).store =
      (g.store.link n.id r.key other.id).link other.id r.opposite.key n.id := rfl

theorem store_removeFrom (g : Nodes.Graph) (n : Node) (r : Relation) (other : Node) :
    (removeFrom g n r other).store =
      (g.store.unlink n.id r.key other.id).unlink other.id r.opposite.key n.id := rfl

theorem store_indexByEmail (g : Nodes.Graph) (n : Node) :
    (indexByEmail g n).store =
      ((g.store.ensureIndex emailIndex).leave emailIndex n.id).enter emailIndex n.id
        emailMembers := rfl

@[simp] theorem record?_indexByEmail (g : Nodes.Graph) (n : Node) (i : Int) :
    (indexByEmail g n).store.record? i = g.store.record? i := by
  simp [store_indexByEmail]

namespace Call

variable {c : Call}

@[simp] theorem perform_get (n : Node) (a : Attribute) : (Call.get n a).perform g = g := by
  cases a <;> first | exact Mood.read_fst g n | rfl

@[simp] theorem perform_set {a : Attribute} (h : a ≠ .mood) (value : a.kind.type) :
    (Call.set n a value).perform g = g.setParameter n a.key (.of a.kind value) := by
  simp only [perform, set_eq_ok h]

/-- The type of the node that a call stores. -/
def stored? (g : Nodes.Graph) : Call → Option String
  | .create k _ _ => some k.nodeName
  | .set n .mood _ => if Mood.learner? g n = none then some Learner.nodeName else none
  | _ => none

theorem stored?_set {a : Attribute} (h : a ≠ .mood) (value : a.kind.type) :
    (Call.set n a value).stored? g = none := by
  cases a <;> first | exact absurd rfl h | rfl

theorem factories_perform (c : Call) (g : Nodes.Graph) :
    (c.perform g).factories = g.factories := by
  cases c with
  | connect planned => cases planned <;> rfl
  | get n a => rw [perform_get]
  | set n a value =>
    by_cases ha : a = .mood
    · subst ha
      exact Mood.factories_set value
    · rw [perform_set ha]
      rfl
  | _ => rfl

theorem typeOf?_perform (hg : Regular g) (c : Call) (i : Int) : (c.perform g).store.typeOf? i =
    if i = g.store.lastId + 1 ∧ (c.stored? g).isSome then c.stored? g else g.store.typeOf? i := by
  cases c with
  | connect planned => cases planned <;> simp [stored?] <;> rfl
  | create k world time =>
    refine (Store.typeOf?_create ..).trans ?_
    simp [stored?]
  | get n a => simp [stored?]
  | set n a value =>
    by_cases ha : a = .mood
    · subst ha
      refine (Mood.typeOf?_set hg value i).trans ?_
      by_cases hl : Mood.learner? g n = none
      · simp [stored?, hl]
      · simp [stored?, hl]
    · simp [perform_set ha, stored?_set ha, Nodes.Graph.setParameter]
  | addTo n r other => simp [stored?, perform, store_addTo]
  | removeFrom n r other => simp [stored?, perform, store_removeFrom]
  | indexByEmail n => simp [stored?, perform, Store.typeOf?]
  | _ => exact (if_neg fun h => Bool.false_ne_true h.2).symm

theorem lastId_perform (hg : Regular g) (c : Call) : (c.perform g).store.lastId =
    if (c.stored? g).isSome then g.store.lastId + 1 else g.store.lastId := by
  cases c with
  | connect planned => cases planned <;> rfl
  | get n a => rw [perform_get]; rfl
  | set n a value =>
    by_cases ha : a = .mood
    · subst ha
      refine (Mood.lastId_set hg value).trans ?_
      by_cases hl : Mood.learner? g n = none
      · simp [stored?, hl]
      · simp [stored?, hl]
    · rw [perform_set ha, stored?_set ha]
      exact Store.lastId_update ..
  | addTo n r other =>
    simp only [perform, store_addTo, Store.link, Store.lastId_update]
    rfl
  | removeFrom n r other =>
    simp only [perform, store_removeFrom, Store.unlink, Store.lastId_update]
    rfl
  | indexByEmail n =>
    show (Store.leave (g.store.ensureIndex emailIndex) emailIndex n.id).lastId = g.store.lastId
    unfold Store.leave
    split <;> rfl
  | _ => rfl

theorem stored?_known {typeName : String} (h : c.stored? g = some typeName) :
    typeName = Learner.nodeName ∨ ∃ k : ClassName, typeName = k.nodeName := by
  cases c with
  | create k world time => exact .inr ⟨k, (Option.some.inj h).symm⟩
  | set n a value =>
    by_cases ha : a = .mood
    · subst ha
      rw [stored?] at h
      split at h
      · exact .inl (Option.some.inj h).symm
      · cases h
    · rw [stored?_set ha] at h
      cases h
  | _ => cases h

/-- A stored node stays stored, with its type. -/
theorem typeOf?_perform_of_stored (hg : Regular g) (c : Call) {i : Int} {typeName : String}
    (h : g.store.typeOf? i = some typeName) : (c.perform g).store.typeOf? i = some typeName := by
  have hne : i ≠ g.store.lastId + 1 := by
    rintro rfl
    refine hg.numbered.not_contains ?_
    rw [Store.contains_eq, h]
    rfl
  rw [typeOf?_perform hg, if_neg fun h' => hne h'.1]
  exact h

theorem regular_perform (hg : Regular g) (c : Call) : Regular (c.perform g) := by
  have hfactories : ∀ typeName, (c.perform g).accessorOf typeName = g.accessorOf typeName := by
    intro typeName
    rw [Nodes.Graph.accessorOf, factories_perform]
    rfl
  refine ⟨?_, fun k => ?_, ?_, ?_⟩
  · intro id hid
    rw [Store.contains_eq, typeOf?_perform hg] at hid
    rw [lastId_perform hg]
    split at hid
    · next hi =>
      rw [if_pos hi.2]
      omega
    · rw [← Store.contains_eq] at hid
      have := hg.numbered id hid
      split <;> omega
  · rw [hfactories, hg.accessor]
  · rw [hfactories, hg.learner]
  · intro id typeName h
    rw [typeOf?_perform hg] at h
    split at h
    · exact stored?_known h
    · exact hg.typed id typeName h

/-! ### Relations and attributes -/

/-- Names of the relations that a call may change. -/
def relations : Call → List String
  | .set _ .mood _ => [Mood.key]
  | .addTo _ r _ | .removeFrom _ r _ => [r.key, r.opposite.key]
  | _ => []

theorem targets_perform (hg : Regular g) (hc : c.Reaches g) {r : String} (h : r ∉ c.relations)
    (i : Int) : (c.perform g).store.targets i r = g.store.targets i r := by
  cases c with
  | connect planned => cases planned <;> rfl
  | create k world time => exact hg.numbered.targets_create _ i r
  | get n a => rw [perform_get]
  | set n a value =>
    by_cases ha : a = .mood
    · subst ha
      refine (Mood.targets_set hg (hc n List.mem_cons_self) value i r).trans ?_
      rw [if_neg fun h' => h (List.mem_singleton.mpr h'.2.2)]
    · rw [perform_set ha]
      exact Store.targets_setAttribute ..
  | addTo n q other =>
    simp only [relations, List.mem_cons, List.not_mem_nil, or_false, not_or] at h
    simp [perform, store_addTo, Store.targets_link, h]
  | removeFrom n q other =>
    simp only [relations, List.mem_cons, List.not_mem_nil, or_false, not_or] at h
    simp [perform, store_removeFrom, Store.targets_unlink, h]
  | indexByEmail n => simp [perform, Store.targets]
  | _ => rfl

/-- Names of the attributes that a call may change. -/
def attributes : Call → List String
  | .set _ .mood _ => Mood.learnerKeys
  | .set _ a _ => [a.key]
  | _ => []

theorem attributes_set {a : Attribute} (h : a ≠ .mood) (value : a.kind.type) :
    (Call.set n a value).attributes = [a.key] := by
  cases a <;> first | exact absurd rfl h | rfl

theorem attribute?_perform_of_not_mem (hg : Regular g) {a : String} (h : a ∉ c.attributes)
    (i : Int) : (c.perform g).store.attribute? i a = g.store.attribute? i a := by
  cases c with
  | connect planned => cases planned <;> rfl
  | create k world time => exact hg.numbered.attribute?_create _ i a
  | get n b => rw [perform_get]
  | set n b value =>
    by_cases hb : b = .mood
    · subst hb
      exact Mood.attribute?_set hg value i h
    · rw [attributes_set hb, List.mem_singleton] at h
      rw [perform_set hb]
      exact (Store.attribute?_setAttribute ..).trans (if_neg fun h' => h h'.2.1)
  | addTo n r other => simp [perform, store_addTo]
  | removeFrom n r other => simp [perform, store_removeFrom]
  | indexByEmail n => simp [perform, Store.attribute?]
  | _ => rfl

/-- A plain attribute keeps its value until a setter of its own is called. -/
theorem attribute?_perform (hg : Regular g) (hc : c.Reaches g) {a : Attribute} (ha : a ≠ .mood)
    (i : Int) : (c.perform g).store.attribute? i a.key =
      (c.writes? i a).or (g.store.attribute? i a.key) := by
  cases c with
  | set n b value =>
    by_cases hb : b = a
    · subst hb
      have hcontains : g.store.contains n.id := hc n List.mem_cons_self
      rw [perform_set ha, writes?]
      refine (Store.attribute?_setAttribute ..).trans ?_
      by_cases hn : n.id = i
      · rw [if_pos ⟨hn.symm, rfl, hcontains⟩, if_pos ⟨hn, rfl⟩]
        rfl
      · rw [if_neg fun h => hn h.1.symm, if_neg fun h => hn h.1]
        rfl
    · rw [writes?, if_neg fun h => hb h.2]
      refine attribute?_perform_of_not_mem hg ?_ i
      by_cases hmood : b = .mood
      · subst hmood
        exact Attribute.key_not_mem_learnerKeys a
      · rw [attributes_set hmood, List.mem_singleton]
        exact fun h => hb (Attribute.key_injective h).symm
  | _ => exact attribute?_perform_of_not_mem hg List.not_mem_nil i

end Call

theorem Run.regular {start : Nodes.Graph} {past : List Call} (hstart : Regular start)
    (run : Run start past g) : Regular g := by
  induction run with
  | start => exact hstart
  | call c _ _ ih => exact c.regular_perform ih

/-- A plain attribute holds what was last written to it. -/
theorem Run.attribute?_eq {plugins : List Nodes.Plugin} {past : List Call}
    (run : Run (newGraph plugins) past g) {a : Attribute} (ha : a ≠ .mood) (i : Int) :
    g.store.attribute? i a.key = written? i a past := by
  induction run with
  | start =>
    rw [store_newGraph]
    simp [Store.attribute?, Store.record?, written?]
  | call c run hc ih =>
    rw [c.attribute?_perform (run.regular (regular_newGraph plugins)) hc ha, ih, written?, written?,
      List.findSome?_cons]
    cases c.writes? i a <;> rfl

end Sample
end TypedGraph
