/-
The store of nodes.

A node has a type, attributes and relations, and is known by an id.  Worlds and
times belong to handles, so that all of them see one store.  Named indexes keep
what the indexed attributes of a node were when it entered.
-/
import TypedGraph.Nodes.Value
import Std.Data.TreeMap

namespace TypedGraph
namespace Nodes

structure Record where
  typeName : String
  attributes : Std.TreeMap String Value := {}
  relations : Std.TreeMap String (List Int) := {}

/-- Names of attributes with the texts of their values. -/
abbrev IndexEntry := List (String × String)

/-- Entries by the ids of their nodes. -/
abbrev IndexTable := Std.TreeMap Int IndexEntry

structure Store where
  lastId : Int := 0
  lastWorld : Int := 0
  connected : Bool := false
  records : Std.TreeMap Int Record := {}
  indexes : Std.TreeMap String IndexTable := {}

namespace Store

/-- Adds a node under the next id. -/
def create (s : Store) (typeName : String) : Int × Store :=
  let id := s.lastId + 1
  (id, { s with lastId := id, records := s.records.insert id { typeName } })

def record? (s : Store) (id : Int) : Option Record := s.records[id]?

def contains (s : Store) (id : Int) : Bool := (s.record? id).isSome

def typeOf? (s : Store) (id : Int) : Option String := (s.record? id).map (·.typeName)

/-- Changes a node; one that is not stored stays so. -/
def update (s : Store) (id : Int) (f : Record → Record) : Store :=
  match s.record? id with
  | some r => { s with records := s.records.insert id (f r) }
  | none => s

/-! ## Attributes -/

def attribute? (s : Store) (id : Int) (name : String) : Option Value :=
  (s.record? id).bind fun r => r.attributes[name]?

def setAttribute (s : Store) (id : Int) (name : String) (value : Value) : Store :=
  s.update id fun r => { r with attributes := r.attributes.insert name value }

/-! ## Relations -/

/-- The ids that a relation leads to, in the order they were added. -/
def targets (s : Store) (id : Int) (name : String) : List Int :=
  ((s.record? id).bind fun r => r.relations[name]?).getD []

def link (s : Store) (id : Int) (name : String) (target : Int) : Store :=
  s.update id fun r =>
    { r with relations := r.relations.insert name (r.relations[name]?.getD [] ++ [target]) }

/-- Takes every occurrence of a target away. -/
def unlink (s : Store) (id : Int) (name : String) (target : Int) : Store :=
  s.update id fun r =>
    match r.relations[name]? with
    | some ids => { r with relations := r.relations.insert name (ids.filter (· != target)) }
    | none => r

/-! ## Worlds -/

/-- A further world. -/
def fork (s : Store) : Int × Store := (s.lastWorld + 1, { s with lastWorld := s.lastWorld + 1 })

/-! ## Indexes -/

def hasIndex (s : Store) (name : String) : Bool := s.indexes.contains name

def indexTable (s : Store) (name : String) : IndexTable := s.indexes[name]?.getD {}

/-- Makes an index if it is not there. -/
def ensureIndex (s : Store) (name : String) : Store :=
  { s with indexes := s.indexes.insert name (s.indexTable name) }

/-- What the attributes of a node are now; an unset one counts as empty. -/
def entryOf (s : Store) (id : Int) (attributes : List String) : IndexEntry :=
  attributes.map fun a => (a, ((s.attribute? id a).map Value.display).getD "")

/-- Enters a node, in place of an earlier entry. -/
def enter (s : Store) (index : String) (id : Int) (attributes : List String) : Store :=
  { s with
    indexes := s.indexes.insert index ((s.indexTable index).insert id (s.entryOf id attributes)) }

/-- Takes the entry of a node away. -/
def leave (s : Store) (index : String) (id : Int) : Store :=
  match s.indexes[index]? with
  | some table => { s with indexes := s.indexes.insert index (table.erase id) }
  | none => s

/-- Ids of the nodes whose entries satisfy a condition, in ascending order. -/
def entered (s : Store) (index : String) (condition : IndexEntry → Bool) : List Int :=
  ((s.indexTable index).toList.filter fun (_, entry) => condition entry).map (·.1)

/-! ## What changes leave

Every change is read through `record?` first, and then through what is asked of
a record. -/

variable {s : Store} {id : Int} {name : String}

theorem contains_eq (s : Store) (id : Int) : s.contains id = (s.typeOf? id).isSome := by
  rw [contains, typeOf?, Option.isSome_map]

theorem record?_create (s : Store) (typeName : String) (i : Int) :
    (s.create typeName).2.record? i =
      if i = s.lastId + 1 then some { typeName } else s.record? i := by
  show (s.records.insert (s.lastId + 1) _)[i]? = _
  rw [Std.TreeMap.getElem?_insert]
  simp only [Std.LawfulEqCmp.compare_eq_iff_eq, eq_comm (b := i), record?]

theorem record?_update (s : Store) (id : Int) (f : Record → Record) (i : Int) :
    (s.update id f).record? i = if i = id then (s.record? i).map f else s.record? i := by
  unfold update
  cases hr : s.record? id with
  | none =>
    by_cases hi : i = id
    · rw [if_pos hi, hi, hr]
      rfl
    · rw [if_neg hi]
  | some r =>
    show (s.records.insert id (f r))[i]? = _
    rw [Std.TreeMap.getElem?_insert]
    by_cases hi : i = id
    · rw [if_pos hi, hi, hr, if_pos (Std.LawfulEqCmp.compare_eq_iff_eq.mpr rfl)]
      rfl
    · rw [if_neg hi, if_neg (fun h => hi (Std.LawfulEqCmp.compare_eq_iff_eq.mp h).symm)]
      rfl

theorem lastId_update (s : Store) (id : Int) (f : Record → Record) :
    (s.update id f).lastId = s.lastId := by
  unfold update
  split <;> rfl

theorem indexes_update (s : Store) (id : Int) (f : Record → Record) :
    (s.update id f).indexes = s.indexes := by
  unfold update
  split <;> rfl

/-! ### Types -/

theorem typeOf?_create (s : Store) (typeName : String) (i : Int) :
    (s.create typeName).2.typeOf? i =
      if i = s.lastId + 1 then some typeName else s.typeOf? i := by
  rw [typeOf?, record?_create]
  split <;> rfl

theorem typeOf?_update {f : Record → Record} (hf : ∀ r, (f r).typeName = r.typeName) (i : Int) :
    (s.update id f).typeOf? i = s.typeOf? i := by
  rw [typeOf?, typeOf?, record?_update]
  split
  · rw [Option.map_map]
    exact congrFun (congrArg Option.map (funext hf)) _
  · rfl

@[simp] theorem typeOf?_setAttribute (value : Value) (i : Int) :
    (s.setAttribute id name value).typeOf? i = s.typeOf? i := by
  refine typeOf?_update (fun r => ?_) i
  rfl

@[simp] theorem typeOf?_link (target i : Int) :
    (s.link id name target).typeOf? i = s.typeOf? i := by
  refine typeOf?_update (fun r => ?_) i
  rfl

@[simp] theorem typeOf?_unlink (target i : Int) :
    (s.unlink id name target).typeOf? i = s.typeOf? i := by
  refine typeOf?_update (fun r => ?_) i
  cases r.relations[name]? <;> rfl

/-! ### Attributes -/

theorem attribute?_create (s : Store) (typeName : String) (i : Int) (a : String) :
    (s.create typeName).2.attribute? i a =
      if i = s.lastId + 1 then none else s.attribute? i a := by
  rw [attribute?, record?_create]
  split
  · simp
  · rfl

theorem attribute?_update {f : Record → Record} {a : String}
    (hf : ∀ r, (f r).attributes[a]? = r.attributes[a]?) (i : Int) :
    (s.update id f).attribute? i a = s.attribute? i a := by
  rw [attribute?, attribute?, record?_update]
  split
  · rw [Option.bind_map]
    exact congrArg _ (funext hf)
  · rfl

theorem attribute?_setAttribute (s : Store) (id : Int) (name : String) (value : Value) (i : Int)
    (a : String) : (s.setAttribute id name value).attribute? i a =
      if i = id ∧ a = name ∧ s.contains id then some value else s.attribute? i a := by
  by_cases ha : a = name
  · subst ha
    rw [attribute?, setAttribute, record?_update]
    by_cases hi : i = id
    · subst hi
      cases hr : s.record? i with
      | none => simp [contains, attribute?, hr]
      | some r => simp [contains, hr]
    · simp [hi, attribute?]
  · rw [if_neg fun h => ha h.2.1]
    refine attribute?_update (fun r => ?_) i
    show (r.attributes.insert name value)[a]? = _
    rw [Std.TreeMap.getElem?_insert,
      if_neg fun h => ha (Std.LawfulEqCmp.compare_eq_iff_eq.mp h).symm]

@[simp] theorem attribute?_link (target i : Int) (a : String) :
    (s.link id name target).attribute? i a = s.attribute? i a := by
  refine attribute?_update (fun r => ?_) i
  rfl

@[simp] theorem attribute?_unlink (target i : Int) (a : String) :
    (s.unlink id name target).attribute? i a = s.attribute? i a := by
  refine attribute?_update (fun r => ?_) i
  cases r.relations[name]? <;> rfl

/-! ### Relations -/

theorem targets_create (s : Store) (typeName : String) (i : Int) (r : String) :
    (s.create typeName).2.targets i r = if i = s.lastId + 1 then [] else s.targets i r := by
  rw [targets, record?_create]
  split
  · simp
  · rfl

theorem targets_update {f : Record → Record} {r : String}
    (hf : ∀ rec, (f rec).relations[r]? = rec.relations[r]?) (i : Int) :
    (s.update id f).targets i r = s.targets i r := by
  rw [targets, targets, record?_update]
  split
  · rw [Option.bind_map]
    exact congrArg (fun g => (Option.bind _ g).getD []) (funext hf)
  · rfl

@[simp] theorem targets_setAttribute (value : Value) (i : Int) (r : String) :
    (s.setAttribute id name value).targets i r = s.targets i r := by
  refine targets_update (fun rec => ?_) i
  rfl

theorem targets_link (s : Store) (id : Int) (name : String) (target i : Int) (r : String) :
    (s.link id name target).targets i r =
      if i = id ∧ r = name ∧ s.contains id then s.targets i r ++ [target] else s.targets i r := by
  by_cases hr : r = name
  · subst hr
    rw [targets, link, record?_update]
    by_cases hi : i = id
    · subst hi
      cases hrec : s.record? i with
      | none => simp [contains, targets, hrec]
      | some rec => simp [contains, targets, hrec]
    · simp [hi, targets]
  · rw [if_neg fun h => hr h.2.1]
    refine targets_update (fun rec => ?_) i
    show (rec.relations.insert name _)[r]? = _
    rw [Std.TreeMap.getElem?_insert,
      if_neg fun h => hr (Std.LawfulEqCmp.compare_eq_iff_eq.mp h).symm]

theorem targets_unlink (s : Store) (id : Int) (name : String) (target i : Int) (r : String) :
    (s.unlink id name target).targets i r =
      if i = id ∧ r = name then (s.targets i r).filter (· != target) else s.targets i r := by
  by_cases hr : r = name
  · subst hr
    rw [targets, unlink, record?_update]
    by_cases hi : i = id
    · subst hi
      cases hrec : s.record? i with
      | none => simp [targets, hrec]
      | some rec => cases hids : rec.relations[r]? <;> simp [targets, hrec, hids]
    · simp [hi, targets]
  · rw [if_neg fun h => hr h.2]
    refine targets_update (fun rec => ?_) i
    cases hids : rec.relations[name]? with
    | none => rfl
    | some ids =>
      show (rec.relations.insert name _)[r]? = _
      rw [Std.TreeMap.getElem?_insert,
        if_neg fun h => hr (Std.LawfulEqCmp.compare_eq_iff_eq.mp h).symm]

/-! ### Indexes -/

/-- The entry of a node in an index. -/
def entryAt? (s : Store) (index : String) (id : Int) : Option IndexEntry :=
  (s.indexTable index)[id]?

theorem indexTable_insert (tables : Std.TreeMap String IndexTable) (index : String)
    (table : IndexTable) (other : String) :
    indexTable { s with indexes := tables.insert index table } other =
      if other = index then table else indexTable { s with indexes := tables } other := by
  rw [indexTable, indexTable, Std.TreeMap.getElem?_insert]
  simp only [Std.LawfulEqCmp.compare_eq_iff_eq, eq_comm (b := other)]
  split <;> rfl

theorem entryAt?_ensureIndex (s : Store) (name other : String) (i : Int) :
    (s.ensureIndex name).entryAt? other i = s.entryAt? other i := by
  rw [entryAt?, ensureIndex, indexTable_insert]
  split
  · next h => rw [h]; rfl
  · rfl

theorem entryAt?_enter (s : Store) (index : String) (id : Int) (attributes : List String)
    (other : String) (i : Int) : (s.enter index id attributes).entryAt? other i =
      if other = index ∧ i = id then some (s.entryOf id attributes) else s.entryAt? other i := by
  rw [entryAt?, enter, indexTable_insert]
  by_cases ho : other = index
  · rw [if_pos ho, Std.TreeMap.getElem?_insert]
    simp only [Std.LawfulEqCmp.compare_eq_iff_eq, eq_comm (b := i), ho, true_and]
    rfl
  · rw [if_neg ho, if_neg fun h => ho h.1]
    rfl

theorem entryAt?_leave (s : Store) (index : String) (id : Int) (other : String) (i : Int) :
    (s.leave index id).entryAt? other i =
      if other = index ∧ i = id then none else s.entryAt? other i := by
  unfold leave
  cases ht : s.indexes[index]? with
  | none =>
    by_cases ho : other = index ∧ i = id
    · rw [if_pos ho, ho.1, entryAt?, indexTable, ht]
      exact Std.TreeMap.getElem?_emptyc
    · rw [if_neg ho]
  | some table =>
    rw [entryAt?, indexTable_insert]
    by_cases ho : other = index
    · rw [if_pos ho, Std.TreeMap.getElem?_erase, ho, entryAt?, indexTable, ht]
      simp only [Std.LawfulEqCmp.compare_eq_iff_eq, eq_comm (b := i), true_and]
      rfl
    · rw [if_neg ho, if_neg fun h => ho h.1]
      rfl

@[simp] theorem record?_ensureIndex (i : Int) : (s.ensureIndex name).record? i = s.record? i := rfl

@[simp] theorem record?_enter (attributes : List String) (i : Int) :
    (s.enter name id attributes).record? i = s.record? i := rfl

@[simp] theorem record?_leave (i : Int) : (s.leave name id).record? i = s.record? i := by
  unfold leave
  split <;> rfl

theorem mem_entered {index : String} {condition : IndexEntry → Bool} :
    id ∈ s.entered index condition ↔
      ∃ entry, s.entryAt? index id = some entry ∧ condition entry = true := by
  rw [entered, List.mem_map]
  constructor
  · rintro ⟨⟨i, entry⟩, hmem, rfl⟩
    obtain ⟨hmem, hcond⟩ := List.mem_filter.mp hmem
    exact ⟨entry, Std.TreeMap.mem_toList_iff_getElem?_eq_some.mp hmem, hcond⟩
  · rintro ⟨entry, hentry, hcond⟩
    exact ⟨(id, entry), List.mem_filter.mpr
      ⟨Std.TreeMap.mem_toList_iff_getElem?_eq_some.mpr hentry, hcond⟩, rfl⟩

theorem entered_of_not_hasIndex {index : String} (h : s.hasIndex index = false)
    (condition : IndexEntry → Bool) : s.entered index condition = [] := by
  refine List.eq_nil_iff_forall_not_mem.mpr fun i hi => ?_
  obtain ⟨entry, hentry, -⟩ := mem_entered.mp hi
  have htable : s.indexTable index = {} := by
    rw [indexTable, Std.TreeMap.getElem?_eq_none_of_contains_eq_false h]
    rfl
  rw [entryAt?, htable, Std.TreeMap.getElem?_emptyc] at hentry
  cases hentry

theorem pairwise_entered (s : Store) (index : String) (condition : IndexEntry → Bool) :
    (s.entered index condition).Pairwise (· < ·) := by
  rw [entered, List.pairwise_map]
  refine List.Pairwise.sublist List.filter_sublist ?_
  exact Std.TreeMap.ordered_keys_toList.imp fun h => Int.compare_eq_lt.mp h

end Store

end Nodes
end TypedGraph
