/-
Registering an index.

A request for an index is checked three times over: its name, its class, and each
property that it lists.  What fails first is what the error says (`Refused`), and
nothing is written before all is checked.  An index that is registered has the
listed names as its members, once and in name order, so that neither the order
of the list nor what it repeats can be told from it (`properties_ofNames`).
-/
import TypedGraph.Proofs.IndexOwners
import TypedGraph.Proofs.QualifiedNames
import TypedGraph.Proofs.Registry

namespace TypedGraph
namespace Schema

namespace Index

variable {ident : QualifiedName} {owner : Class} {i : Index} {className name : String}
variable {names names' before after : List String}

/-- The index over a class whose members are the given names. -/
def ofNames (ident : QualifiedName) (className : String) (names : List String) : Index :=
  { ident, className, members := ({} : Std.TreeSet String).insertMany names }

theorem mem_properties_ofNames :
    name ∈ (ofNames ident className names).properties ↔ name ∈ names := by
  rw [properties, Std.TreeSet.mem_toList, ofNames, Std.TreeSet.mem_insertMany_list,
    List.contains_iff_mem]
  simp

theorem ascending_properties_ofNames (ident : QualifiedName) (className : String)
    (names : List String) :
    (ofNames ident className names).properties.Pairwise fun a b => compare a b = .lt :=
  Std.TreeSet.ordered_toList

/-- Members do not show how they were listed. -/
theorem properties_ofNames (h : ∀ name, name ∈ names' ↔ name ∈ names) :
    (ofNames ident className names').properties = (ofNames ident className names).properties := by
  have hsame : (ofNames ident className names').members.Equiv
      (ofNames ident className names).members :=
    Std.TreeSet.Equiv.of_forall_mem_iff fun name => by
      rw [← Std.TreeSet.mem_toList, ← Std.TreeSet.mem_toList]
      exact mem_properties_ofNames.trans ((h name).trans mem_properties_ofNames.symm)
  exact hsame.toList_eq

/-! ## Members that are properties of the owner, and members that are not -/

theorem addMembers_of_hasAll (h : owner.HasAll names) :
    names.foldlM (addMember owner) i = .ok { i with members := i.members.insertMany names } := by
  induction names generalizing i with
  | nil => rfl
  | cons name rest ih =>
    obtain ⟨p, hp⟩ := h name List.mem_cons_self
    have hfirst : addMember owner i name = .ok { i with members := i.members.insert name } := by
      rw [addMember, hp, ← Class.name_of_property? hp]
    rw [List.foldlM_cons, hfirst]
    refine (ih fun other hother => h other (List.mem_cons_of_mem name hother)).trans ?_
    rw [Std.TreeSet.insertMany_cons]

theorem ofClass_of_hasAll (h : owner.HasAll names) :
    ofClass ident owner names = .ok (ofNames ident owner.fqn names) :=
  addMembers_of_hasAll h

/-- The first name that the owner lacks is the one that is reported. -/
theorem ofClass_of_lacked (hbefore : owner.HasAll before) (hname : owner.property? name = none) :
    ofClass ident owner (before ++ name :: after) =
      .error (.unknownIndexProperty ident.fqn owner.fqn name) := by
  rw [ofClass, List.foldlM_append, addMembers_of_hasAll hbefore]
  have hlacked : ∀ j,
      addMember owner j name = .error (.unknownIndexProperty j.fqn owner.fqn name) := fun j => by
    rw [addMember, hname]
  show List.foldlM (addMember owner) _ (name :: after) = _
  rw [List.foldlM_cons, hlacked]
  rfl

end Index

/-- A class has all of the names, or there is a first that it lacks. -/
theorem Class.hasAll_or_lacked (c : Class) (names : List String) :
    c.HasAll names ∨ ∃ before name after, names = before ++ name :: after ∧ c.HasAll before ∧
      c.property? name = none := by
  cases hfind : names.find? fun name => (c.property? name).isNone with
  | none =>
    refine .inl fun name hname => Option.ne_none_iff_exists'.mp ?_
    have hfound := List.find?_eq_none.mp hfind name hname
    simpa using hfound
  | some name =>
    obtain ⟨hname, before, after, hcut, hbefore⟩ := List.find?_eq_some_iff_append.mp hfind
    refine .inr ⟨before, name, after, hcut, fun other hother => ?_,
      Option.isNone_iff_eq_none.mp hname⟩
    refine Option.isSome_iff_exists.mp ?_
    simpa using hbefore other hother

namespace Model

variable {m m' : Model} {ident : QualifiedName} {owner : Class} {fqn className name : String}
variable {names names' before after : List String} {e : SchemaError}

/-- The error of a request, by what is wrong with it first. -/
inductive Refused (m : Model) (fqn className : String) (names : List String) : SchemaError → Prop
  | unnamed : (∀ ident, QualifiedName.parse fqn ≠ .ok ident) →
    Refused m fqn className names (.emptyName fqn)
  | classMissing {ident : QualifiedName} : QualifiedName.parse fqn = .ok ident →
    m.class? className = none → Refused m fqn className names (.unknownIndexClass fqn className)
  | propertyMissing {ident : QualifiedName} {owner : Class} {before after : List String}
    {name : String} : QualifiedName.parse fqn = .ok ident → m.class? className = some owner →
    names = before ++ name :: after → owner.HasAll before → owner.property? name = none →
    Refused m fqn className names (.unknownIndexProperty ident.fqn className name)

theorem addIndex_of_unnamed (h : QualifiedName.parse fqn = .error e) :
    m.addIndex fqn className names = .error e := by
  rw [addIndex, h]
  rfl

theorem addIndex_of_classMissing (hident : QualifiedName.parse fqn = .ok ident)
    (howner : m.class? className = none) :
    m.addIndex fqn className names = .error (.unknownIndexClass fqn className) := by
  simp only [addIndex, hident, howner]
  rfl

theorem addIndex_of_lacked (hident : QualifiedName.parse fqn = .ok ident)
    (howner : m.class? className = some owner) (hbefore : owner.HasAll before)
    (hname : owner.property? name = none) :
    m.addIndex fqn className (before ++ name :: after) =
      .error (.unknownIndexProperty ident.fqn className name) := by
  simp only [addIndex, hident, howner, Index.ofClass_of_lacked hbefore hname, fqn_of_class? howner]
  rfl

theorem addIndex_of_hasAll (hident : QualifiedName.parse fqn = .ok ident)
    (howner : m.class? className = some owner) (hall : owner.HasAll names) :
    m.addIndex fqn className names = .ok (m.add (.ofIndex (.ofNames ident className names))) := by
  simp only [addIndex, hident, howner, Index.ofClass_of_hasAll hall, fqn_of_class? howner]
  rfl

/-- A request is refused for one reason, or all that it names is there. -/
theorem refused_or_hasAll (m : Model) (fqn className : String) (names : List String) :
    (∃ e, m.addIndex fqn className names = .error e ∧ Refused m fqn className names e) ∨
    ∃ ident owner, QualifiedName.parse fqn = .ok ident ∧ m.class? className = some owner ∧
      owner.HasAll names := by
  cases hident : QualifiedName.parse fqn with
  | error e =>
    obtain ⟨rfl, -⟩ := QualifiedName.parse_eq_error.mp hident
    refine .inl ⟨_, addIndex_of_unnamed hident, .unnamed fun ident hok => ?_⟩
    rw [hident] at hok
    exact nomatch hok
  | ok ident =>
    cases howner : m.class? className with
    | none => exact .inl ⟨_, addIndex_of_classMissing hident howner, .classMissing hident howner⟩
    | some owner =>
      rcases owner.hasAll_or_lacked names with hall | ⟨before, name, after, rfl, hbefore, hname⟩
      · exact .inr ⟨ident, owner, rfl, rfl, hall⟩
      · exact .inl ⟨_, addIndex_of_lacked hident howner hbefore hname,
          .propertyMissing hident howner rfl hbefore hname⟩

theorem addIndex_of_refused (h : Refused m fqn className names e) :
    m.addIndex fqn className names = .error e := by
  cases h with
  | unnamed hnone =>
    cases hident : QualifiedName.parse fqn with
    | ok ident => exact absurd hident (hnone ident)
    | error e =>
      rw [addIndex_of_unnamed hident, (QualifiedName.parse_eq_error.mp hident).1]
  | classMissing hident howner => exact addIndex_of_classMissing hident howner
  | propertyMissing hident howner hcut hbefore hname =>
    rw [hcut]
    exact addIndex_of_lacked hident howner hbefore hname

theorem addIndex_eq_error :
    m.addIndex fqn className names = .error e ↔ Refused m fqn className names e := by
  refine ⟨fun h => ?_, addIndex_of_refused⟩
  rcases m.refused_or_hasAll fqn className names with ⟨e', he', hrefused⟩ | ⟨ident, owner, hall⟩
  · rw [h] at he'
    rw [Except.error.inj he']
    exact hrefused
  · rw [addIndex_of_hasAll hall.1 hall.2.1 hall.2.2] at h
    exact nomatch h

theorem addIndex_eq_ok_iff : m.addIndex fqn className names = .ok m' ↔
    ∃ ident owner, QualifiedName.parse fqn = .ok ident ∧ m.class? className = some owner ∧
      owner.HasAll names ∧ m' = m.add (.ofIndex (.ofNames ident className names)) := by
  constructor
  · intro h
    rcases m.refused_or_hasAll fqn className names with
      ⟨e, he, -⟩ | ⟨ident, owner, hident, howner, hall⟩
    · exact nomatch h.symm.trans he
    · rw [addIndex_of_hasAll hident howner hall] at h
      exact ⟨ident, owner, hident, howner, hall, (Except.ok.inj h).symm⟩
  · rintro ⟨ident, owner, hident, howner, hall, rfl⟩
    exact addIndex_of_hasAll hident howner hall

/-! ## What a registration leaves alone -/

/-- Only rows of the registered name come and go. -/
theorem filter_rows_add (m : Model) (c : Classifier) :
    (m.add c).rows.filter (·.index != c.fqn) = m.rows.filter (·.index != c.fqn) := by
  have hown : (rowsOf c).filter (·.index != c.fqn) = [] := by
    rw [filter_rowsOf (· != c.fqn), if_neg (by simp)]
  unfold Model.add
  cases m.index? c.fqn with
  | none => exact (List.filter_append _ _).trans (by rw [hown, List.append_nil])
  | some i =>
    refine (List.filter_append _ _).trans ?_
    rw [hown, List.append_nil, List.filter_filter]
    simp only [Bool.and_self]

/-- Indexes that agree in all but how their members were listed leave the same
rows. -/
theorem rows_add_congr (m : Model) {i j : Index} (hident : i.ident = j.ident)
    (hclass : i.className = j.className) (hmembers : i.properties = j.properties) :
    (m.add (.ofIndex i)).rows = (m.add (.ofIndex j)).rows := by
  have hfqn : Classifier.fqn (.ofIndex i) = Classifier.fqn (.ofIndex j) :=
    congrArg QualifiedName.fqn hident
  have hrows : rowsOf (.ofIndex i) = rowsOf (.ofIndex j) := by
    simp only [rowsOf, hmembers, hclass, Index.fqn, hident]
  unfold Model.add
  simp only [hfqn, hrows]

/-- An index is registered exactly when its name can be parsed, its class is
registered, and all that it lists are properties of that class.  The members are
then the listed names, each once and in name order, so that a list of the same
names gives the same index, and nothing else changes: neither what other names
hold, nor the rows of other indexes.  A request that is not granted is answered
by what is wrong with it first, and changes nothing at all. -/
theorem addIndex_registers_or_refuses (m : Model) (fqn className : String) (names : List String) :
    ((∃ m', m.addIndex fqn className names = .ok m') ↔
      (∃ ident, QualifiedName.parse fqn = .ok ident) ∧
        ∃ owner, m.class? className = some owner ∧ owner.HasAll names) ∧
    (∀ m', m.addIndex fqn className names = .ok m' → ∃ ident i,
      QualifiedName.parse fqn = .ok ident ∧ m'.get? ident.fqn = some (.ofIndex i) ∧
      i.ident = ident ∧ i.className = className ∧
      (∀ name, name ∈ i.properties ↔ name ∈ names) ∧
      i.properties.Pairwise (fun a b => compare a b = .lt) ∧
      (∀ other, other ≠ ident.fqn → m'.get? other = m.get? other) ∧
      m'.rows.filter (·.index != ident.fqn) = m.rows.filter (·.index != ident.fqn) ∧
      ∀ names', (∀ name, name ∈ names' ↔ name ∈ names) →
        ∃ m'' j, m.addIndex fqn className names' = .ok m'' ∧ m''.rows = m'.rows ∧
          m''.get? ident.fqn = some (.ofIndex j) ∧ j.ident = i.ident ∧
          j.className = i.className ∧ j.properties = i.properties) ∧
    (∀ e, m.addIndex fqn className names = .error e ↔ Refused m fqn className names e) ∧
    (∀ e, m.addIndex fqn className names = .error e →
      m.register (.index fqn className names) = m) := by
  refine ⟨?_, ?_, fun e => addIndex_eq_error, ?_⟩
  · simp only [addIndex_eq_ok_iff]
    constructor
    · rintro ⟨m', ident, owner, hident, howner, hall, -⟩
      exact ⟨⟨ident, hident⟩, owner, howner, hall⟩
    · rintro ⟨⟨ident, hident⟩, owner, howner, hall⟩
      exact ⟨_, ident, owner, hident, howner, hall, rfl⟩
  · intro m' h
    obtain ⟨ident, owner, hident, howner, hall, rfl⟩ := addIndex_eq_ok_iff.mp h
    have hget : ∀ names, (m.add (.ofIndex (.ofNames ident className names))).get? ident.fqn =
        some (.ofIndex (.ofNames ident className names)) := fun names => by
      rw [get?_add]
      exact if_pos rfl
    refine ⟨ident, .ofNames ident className names, hident, hget names, rfl, rfl,
      fun _ => Index.mem_properties_ofNames,
      Index.ascending_properties_ofNames ident className names, fun other hother => ?_,
      m.filter_rows_add (.ofIndex (.ofNames ident className names)), fun names' hsame => ?_⟩
    · rw [get?_add]
      exact if_neg (Ne.symm hother)
    · have hall' : owner.HasAll names' := fun name hname => hall name ((hsame name).mp hname)
      exact ⟨_, .ofNames ident className names', addIndex_of_hasAll hident howner hall',
        m.rows_add_congr rfl rfl (Index.properties_ofNames hsame), hget names', rfl, rfl,
        Index.properties_ofNames hsame⟩
  · intro e h
    rw [register, h]

end Model

end Schema
end TypedGraph
