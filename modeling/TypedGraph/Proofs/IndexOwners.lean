/-
The owners of indexes in a built model.

An index is looked up against the classes that were added when the build comes to
it, and `Settled` is what the build keeps true from there on: names either keep
what the additions gave them or hold an index, and each index was right about its
owner.  What can still go wrong is that a later index, or the index itself, takes
the name of the owner (`built_indexes_resolve_iff`).
-/
import TypedGraph.Schema.Builder
import TypedGraph.Trace

namespace TypedGraph
namespace Schema

/-- A call that adds a definition to a builder. -/
inductive Addition
  | ofClass (c : Class)
  | ofEnum (e : Enumeration)
  | ofIndex (fqn className : String) (properties : List String)

/-- The names are properties of the class. -/
def Class.HasAll (c : Class) (names : List String) : Prop :=
  ∀ name ∈ names, ∃ p, c.property? name = some p

/-- Every index is over a registered class, which has all of its members. -/
def Model.IndexesResolve (m : Model) : Prop :=
  ∀ i ∈ m.indexes, ∃ c, m.class? i.className = some c ∧ c.HasAll i.properties

namespace ModelBuilder

def extend (b : ModelBuilder) : Addition → ModelBuilder
  | .ofClass c => b.addClass c
  | .ofEnum e => b.addEnum e
  | .ofIndex fqn className properties => b.addIndex fqn className properties

/-- The builder after a sequence of calls. -/
def ofAdditions (additions : List Addition) : ModelBuilder := additions.foldl extend {}

/-- The registry that the indexes are looked up in. -/
def declared (b : ModelBuilder) : Model := b.definitions.foldl Model.add .empty

/-! ## Definitions -/

/-- No index is among the definitions of a builder. -/
def IndexFree (b : ModelBuilder) : Prop := ∀ d ∈ b.definitions, d.index? = none

theorem IndexFree.extend {b : ModelBuilder} (h : b.IndexFree) (a : Addition) :
    (b.extend a).IndexFree := by
  cases a with
  | ofClass c =>
    intro d hd
    rcases List.mem_append.mp hd with hd | hd
    · exact h d hd
    · rw [List.mem_singleton.mp hd]
      rfl
  | ofEnum e =>
    intro d hd
    rcases List.mem_append.mp hd with hd | hd
    · exact h d hd
    · rw [List.mem_singleton.mp hd]
      rfl
  | ofIndex fqn className properties => exact h

theorem indexFree_ofAdditions (additions : List Addition) : (ofAdditions additions).IndexFree := by
  have hrun : ∀ b : ModelBuilder, b.IndexFree →
      (additions.foldl ModelBuilder.extend b).IndexFree := by
    induction additions with
    | nil => exact fun b hb => hb
    | cons a rest ih => exact fun b hb => ih _ (hb.extend a)
  exact hrun {} fun d hd => absurd hd List.not_mem_nil

/-- What definitions without an index leave holds no index. -/
theorem index?_foldl_add {m : Model} {ds : List Classifier} (hm : ∀ fqn, m.index? fqn = none)
    (hds : ∀ d ∈ ds, d.index? = none) (fqn : String) :
    (ds.foldl Model.add m).index? fqn = none := by
  induction ds generalizing m with
  | nil => exact hm fqn
  | cons d rest ih =>
    refine ih (fun name => ?_) fun e he => hds e (List.mem_cons_of_mem d he)
    rw [Model.index?, Model.get?_add]
    split
    · exact hds d List.mem_cons_self
    · exact hm name

theorem index?_declared (additions : List Addition) (fqn : String) :
    (ofAdditions additions).declared.index? fqn = none :=
  index?_foldl_add (fun name => by simp [Model.empty, Model.index?, Model.get?])
    (indexFree_ofAdditions additions) fqn

end ModelBuilder

/-! ## Indexes -/

namespace Index

variable {owner : Class} {i i' : Index} {name : String} {names : List String}

theorem addMember_ok (h : addMember owner i name = .ok i') :
    ∃ p, owner.property? name = some p ∧ i' = { i with members := i.members.insert p.name } := by
  unfold addMember at h
  cases hp : owner.property? name with
  | none =>
    rw [hp] at h
    exact nomatch h
  | some p =>
    rw [hp] at h
    exact ⟨p, rfl, (Except.ok.inj h).symm⟩

/-- A member more keeps the class of an index, and is a property of its owner. -/
theorem hasAll_addMember (hi : owner.HasAll i.properties) (h : addMember owner i name = .ok i') :
    i'.className = i.className ∧ owner.HasAll i'.properties := by
  obtain ⟨p, hp, rfl⟩ := addMember_ok h
  refine ⟨rfl, fun member hmember => ?_⟩
  rw [properties, Std.TreeSet.mem_toList, Std.TreeSet.mem_insert,
    Std.LawfulEqCmp.compare_eq_iff_eq] at hmember
  rcases hmember with rfl | hmember
  · rw [Class.name_of_property? hp]
    exact ⟨p, hp⟩
  · exact hi member (Std.TreeSet.mem_toList.mpr hmember)

theorem hasAll_addMembers (hi : owner.HasAll i.properties)
    (h : names.foldlM (addMember owner) i = .ok i') :
    i'.className = i.className ∧ owner.HasAll i'.properties := by
  induction names generalizing i with
  | nil =>
    rw [← Except.ok.inj h]
    exact ⟨rfl, hi⟩
  | cons name rest ih =>
    rw [List.foldlM_cons] at h
    obtain ⟨next, hnext, h⟩ := bind_eq_ok.mp h
    obtain ⟨hclass, hnext⟩ := hasAll_addMember hi hnext
    rw [← hclass]
    exact ih hnext h

/-- An index is over the class that it is made for, and its members are
properties of that class. -/
theorem ofClass_ok {ident : QualifiedName} (h : Index.ofClass ident owner names = .ok i) :
    i.className = owner.fqn ∧ owner.HasAll i.properties := by
  have hempty : owner.HasAll (properties { ident, className := owner.fqn }) :=
    fun name hname => by simp [properties] at hname
  exact hasAll_addMembers hempty h

end Index

namespace Model

variable {declared m m' : Model}

/-- What the indexes of a build leave of the registry they are looked up in: a
name keeps what it held or holds an index, and each index is over a class of that
registry. -/
structure Settled (declared m : Model) : Prop where
  kept : ∀ fqn, m.get? fqn = declared.get? fqn ∨ ∃ i, m.index? fqn = some i
  owners : ∀ fqn i, m.index? fqn = some i →
    ∃ c, declared.class? i.className = some c ∧ c.HasAll i.properties

theorem Settled.start (h : ∀ fqn, declared.index? fqn = none) : Settled declared declared where
  kept _ := .inl rfl
  owners fqn i hi := by
    rw [h] at hi
    exact nomatch hi

/-- A class that is registered after some indexes was there before them. -/
theorem Settled.class?_declared (h : Settled declared m) {fqn : String} {c : Class}
    (hc : m.class? fqn = some c) : declared.class? fqn = some c := by
  rw [class?_eq_some] at hc ⊢
  rcases h.kept fqn with hkept | ⟨i, hi⟩
  · rw [← hkept, hc]
  · rw [index?_eq_some, hc] at hi
    exact nomatch hi

theorem Settled.addIndex (h : Settled declared m) {fqn className : String} {names : List String}
    (hadd : m.addIndex fqn className names = .ok m') : Settled declared m' := by
  simp only [Model.addIndex, bind_eq_ok] at hadd
  obtain ⟨ident, -, hadd⟩ := hadd
  cases hc : m.class? className with
  | none =>
    rw [hc] at hadd
    exact nomatch hadd
  | some owner =>
    simp only [hc, bind_eq_ok] at hadd
    obtain ⟨i, hi, hadd⟩ := hadd
    obtain ⟨howner, hmembers⟩ := Index.ofClass_ok hi
    rw [fqn_of_class? hc] at howner
    rw [← Except.ok.inj hadd]
    constructor
    · intro name
      rw [index?, get?_add]
      split
      · exact .inr ⟨i, rfl⟩
      · exact h.kept name
    · intro name j hj
      rw [index?, get?_add] at hj
      split at hj
      · rw [← Option.some.inj hj, howner]
        exact ⟨owner, h.class?_declared hc, hmembers⟩
      · exact h.owners name j hj

theorem Settled.run {requests : List IndexRequest} (h : Settled declared m)
    (hrun : requests.foldlM (fun m r => m.addIndex r.fqn r.className r.properties) m = .ok m') :
    Settled declared m' := by
  induction requests generalizing m with
  | nil =>
    rw [← Except.ok.inj hrun]
    exact h
  | cons r rest ih =>
    rw [List.foldlM_cons] at hrun
    obtain ⟨next, hnext, hrun⟩ := bind_eq_ok.mp hrun
    exact ih (h.addIndex hnext) hrun

/-- The owner of an index is still registered, unless an index took its name. -/
theorem Settled.owner (h : Settled declared m) {i : Index} (hi : i ∈ m.indexes) :
    ∃ c, declared.class? i.className = some c ∧ c.HasAll i.properties ∧
      (m.class? i.className = some c ∨ ∃ j ∈ m.indexes, j.fqn = i.className) := by
  obtain ⟨c, hc, hmembers⟩ := h.owners i.fqn i (mem_indexes.mp hi)
  refine ⟨c, hc, hmembers, ?_⟩
  rcases h.kept i.className with hkept | ⟨j, hj⟩
  · left
    rw [class?_eq_some] at hc ⊢
    rw [hkept, hc]
  · right
    have hname : j.fqn = i.className := fqn_of_get? (index?_eq_some.mp hj)
    refine ⟨j, mem_indexes.mpr ?_, hname⟩
    rw [hname, hj]

end Model

theorem ModelBuilder.settled_build {additions : List Addition} {m : Model}
    (h : (ofAdditions additions).build = .ok m) :
    Model.Settled (ofAdditions additions).declared m :=
  (Model.Settled.start (index?_declared additions)).run h

/-- Every index of a built model was over a class that was added, and all of its
members are properties of that class.  The class is still registered beside the
indexes exactly when none of them took the name of an owner. -/
theorem built_indexes_resolve_iff {additions : List Addition} {m : Model}
    (h : (ModelBuilder.ofAdditions additions).build = .ok m) :
    (∀ i ∈ m.indexes, ∃ c,
      (ModelBuilder.ofAdditions additions).declared.class? i.className = some c ∧
        c.HasAll i.properties) ∧
    (m.IndexesResolve ↔ ∀ i ∈ m.indexes, ∀ j ∈ m.indexes, j.fqn ≠ i.className) := by
  have hsettled := ModelBuilder.settled_build h
  refine ⟨fun i hi => hsettled.owners i.fqn i (Model.mem_indexes.mp hi), ?_, ?_⟩
  · intro hresolve i hi j hj hname
    obtain ⟨c, hc, -⟩ := hresolve i hi
    have hj := Model.index?_eq_some.mp (Model.mem_indexes.mp hj)
    rw [hname, Model.class?_eq_some.mp hc] at hj
    exact nomatch hj
  · intro hfree i hi
    obtain ⟨c, -, hmembers, hc | ⟨j, hj, hname⟩⟩ := hsettled.owner hi
    · exact ⟨c, hc, hmembers⟩
    · exact absurd hname (hfree i hi j hj)

/-- A class with one attribute. -/
def contact : Addition :=
  .ofClass (({ ident := .of "s" "Person" } : Class).addProperty
    { name := "email", type := "String", kind := .attribute })

theorem contact_index_resolves :
    ∃ m, (ModelBuilder.ofAdditions
        [.ofIndex "s.byEmail" "s.Person" ["email"], contact]).build = .ok m ∧
      m.IndexesResolve ∧ ∃ i ∈ m.indexes, i.className = "s.Person" ∧ i.properties = ["email"] := by
  have hfacts : (ModelBuilder.ofAdditions
      [.ofIndex "s.byEmail" "s.Person" ["email"], contact]).build.toOption.map (fun m =>
        m.indexes.map fun i => (i.fqn, i.className, i.properties)) =
      some [("s.byEmail", "s.Person", ["email"])] := by decide +kernel
  obtain ⟨m, h, hindexes⟩ := exists_ok_of_map hfacts
  have hall : ∀ i ∈ m.indexes,
      i.fqn = "s.byEmail" ∧ i.className = "s.Person" ∧ i.properties = ["email"] := by
    intro i hi
    have hmem := List.mem_map_of_mem (f := fun i => (i.fqn, i.className, i.properties)) hi
    rw [hindexes] at hmem
    simpa using hmem
  refine ⟨m, h, (built_indexes_resolve_iff h).2.mpr fun i hi j hj => ?_, ?_⟩
  · rw [(hall j hj).1, (hall i hi).2.1]
    decide
  · have hne : m.indexes ≠ [] := fun hnil => by
      rw [hnil] at hindexes
      exact nomatch hindexes
    obtain ⟨i, hi⟩ := List.exists_mem_of_ne_nil _ hne
    exact ⟨i, hi, (hall i hi).2⟩

/-- An index that is registered under the name of its own class takes the class
out of the model. -/
theorem index_replaces_own_class :
    ∃ m, (ModelBuilder.ofAdditions
        [contact, .ofIndex "s.Person" "s.Person" ["email"]]).build = .ok m ∧
      ¬ m.IndexesResolve := by
  have hfacts : (ModelBuilder.ofAdditions
      [contact, .ofIndex "s.Person" "s.Person" ["email"]]).build.toOption.map (fun m =>
        (m.indexes.map Index.className, (m.class? "s.Person").isSome)) =
      some (["s.Person"], false) := by decide +kernel
  obtain ⟨m, h, hfound⟩ := exists_ok_of_map hfacts
  obtain ⟨hindexes, hclass⟩ := Prod.mk.inj hfound
  refine ⟨m, h, fun hresolve => ?_⟩
  have hmem : "s.Person" ∈ m.indexes.map Index.className := by
    rw [hindexes]
    exact List.mem_cons_self
  obtain ⟨i, hi, hname⟩ := List.mem_map.mp hmem
  obtain ⟨c, hc, -⟩ := hresolve i hi
  rw [hname] at hc
  rw [hc] at hclass
  exact nomatch hclass

end Schema
end TypedGraph
