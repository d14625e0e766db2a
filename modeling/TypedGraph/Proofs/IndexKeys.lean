/-
The keys under which nodes are indexed.

The method of an accessor for an index re-enters the node under those members that
no earlier index over the class covers, and there is none when no member is left
(`IndexMethods`).  The task api knows nothing of that and indexes nodes under all
members (`IndexTasks`).  The two agree on an index exactly when none of its members
was taken before.
-/
import TypedGraph.Proofs.FacadeNames
import TypedGraph.Proofs.IndexGroups
import TypedGraph.Proofs.Registry

namespace TypedGraph

namespace Schema.Model

/-- Of the indexes that a list of writes leaves, the first that covers a property. -/
def firstOver (ws : List Classifier) (className property : String) : Option Index :=
  ((current ws).filterMap Classifier.index?).find? fun i =>
    i.className == className && i.properties.contains property

/-- An index is the first to cover a plain attribute of a class. -/
def leads (ws : List Classifier) (c : Class) (i : Index) (name : String) : Bool :=
  (c.property? name).any Property.isPlain &&
    (firstOver ws c.fqn name).map Index.fqn == some i.fqn

variable {m : Model} {ws : List Classifier} {c : Class} {i : Index} {name : String}

theorem Holds.head?_indexesOf (h : Holds m ws) (className property : String) :
    (m.indexesOf className property).head? = firstOver ws className property := by
  rw [h.indexesOf_eq, List.head?_filter, firstOver]

theorem Holds.registered_of_firstOver (h : Holds m ws) {className property : String}
    (hi : firstOver ws className property = some i) :
    m.index? i.fqn = some i ∧ i.className = className ∧ property ∈ i.properties := by
  rw [← h.head?_indexesOf] at hi
  exact h.mem_indexesOf.mp (List.mem_of_mem_head? hi)

theorem Holds.property_of_leads (h : Holds m ws) (hi : m.index? i.fqn = some i)
    (hleads : leads ws c i name = true) :
    i.className = c.fqn ∧ name ∈ i.properties ∧ ∃ p ∈ c.properties, p.name = name := by
  rw [leads, Bool.and_eq_true, beq_iff_eq] at hleads
  obtain ⟨hplain, hfirst⟩ := hleads
  obtain ⟨first, hover, hfqn⟩ := Option.map_eq_some_iff.mp hfirst
  obtain ⟨hregistered, hclass, hmember⟩ := h.registered_of_firstOver hover
  rw [hfqn, hi] at hregistered
  rw [← Option.some.inj hregistered] at hclass hmember
  obtain ⟨p, hp, -⟩ := (Option.any_eq_true _ _).mp hplain
  have hname := Class.name_of_property? hp
  rw [← hname] at hp
  exact ⟨hclass, hmember, p, Class.mem_properties.mpr hp, hname⟩

end Schema.Model

namespace Generate

open Schema (Index Model Property)
open Code (Member Item Path)

variable {plans : List PropertyPlan} {e : PropertyPlan} {cover : Cover}

/-! ## Keys in name order -/

theorem ascending_members (i : Index) : i.properties.Pairwise fun a b => compare a b = .lt :=
  Std.TreeSet.ordered_toList

namespace Scope

variable {s : Scope} {c : Schema.Class} {a : Accessor} {artifacts : List Artifact}
variable {i : Index} {ws : List Schema.Classifier}

theorem EntityOf.coversFirst (h : EntityOf s artifacts c a) (he : e ∈ a.properties) :
    CoversFirst s.model c e := by
  obtain ⟨before, after, hplan⟩ := (planProperties_ok (planAccessor_ok h.planned).2).2 e he
  exact coversFirst_planProperty hplan

theorem EntityOf.called_cases (h : EntityOf s artifacts c a) (he : e ∈ a.properties)
    {name : String} (hname : name ∈ e.called) :
    (∃ x, e.cover = some x ∧ x.method = name ∧ "index_".toList <+: name.toList) ∨
      "internal_".toList <+: name.toList := by
  obtain ⟨before, after, hplan⟩ := (planProperties_ok (planAccessor_ok h.planned).2).2 e he
  exact called_planProperty hplan hname

theorem EntityOf.not_called (h : EntityOf s artifacts c a) (he : e ∈ a.properties) :
    "remove_from_index" ∉ e.called := by
  intro hmem
  rcases h.called_cases he hmem with ⟨_, -, -, hstart⟩ | hstart
  · exact absurd hstart (by decide)
  · exact absurd hstart (by decide)

theorem EntityOf.constant (h : EntityOf s artifacts c a) (he : e ∈ a.properties) :
    Code.identifier? (Text.constantCase e.property.name) = some e.constant := by
  obtain ⟨before, after, hplan⟩ := (planProperties_ok (planAccessor_ok h.planned).2).2 e he
  exact checkedIdent_eq_ok.mp (planProperty_cases hplan).2.1

theorem EntityOf.property?_eq (h : EntityOf s artifacts c a) (he : e ∈ a.properties) :
    c.property? e.property.name = some e.property :=
  Schema.Class.mem_properties.mp (h.property_mem he)

/-- An index covers an entry first just when it is the first over its property. -/
theorem EntityOf.cover_fqn (h : EntityOf s artifacts c a) (hws : Model.Holds s.model ws)
    (he : e ∈ a.properties) (i : Index) :
    e.cover.map (·.index.fqn) = some i.fqn ↔ Model.leads ws c i e.property.name = true := by
  have hindex := (h.coversFirst he).index
  have hmap : e.cover.map (·.index.fqn) = (e.cover.map Cover.index).map Index.fqn := by
    rw [Option.map_map]
    rfl
  rw [hmap, hindex, hws.head?_indexesOf, Model.leads, h.property?_eq he]
  cases hplain : e.property.isPlain with
  | true => simp [hplain]
  | false => simp [hplain]

theorem EntityOf.names_coveredBy (h : EntityOf s artifacts c a) (hws : Model.Holds s.model ws)
    (hi : s.model.index? i.fqn = some i) :
    (coveredBy a.properties i.fqn).map (·.property.name) =
      i.properties.filter (Model.leads ws c i) := by
  have hnames : a.properties.map (·.property.name) = c.properties.map Property.name := by
    rw [← (planProperties_ok (planAccessor_ok h.planned).2).1, List.map_map]
    rfl
  -- Properties and members stand in name order, so that it is enough to compare members.
  refine eq_of_ascending ?_ ?_ fun name => ?_
  · have hascending := c.ascending_properties
    rw [← hnames] at hascending
    exact hascending.sublist (List.filter_sublist.map _)
  · exact (ascending_members i).sublist List.filter_sublist
  · rw [List.mem_map, List.mem_filter]
    constructor
    · rintro ⟨e, he, rfl⟩
      obtain ⟨he, hcover⟩ := List.mem_filter.mp he
      have hleads := (h.cover_fqn hws he i).mp (beq_iff_eq.mp hcover)
      exact ⟨(hws.property_of_leads hi hleads).2.1, hleads⟩
    · rintro ⟨-, hleads⟩
      obtain ⟨-, -, p, hp, rfl⟩ := hws.property_of_leads hi hleads
      obtain ⟨e, he, rfl⟩ := h.exists_plan hp
      refine ⟨e, List.mem_filter.mpr ⟨he, beq_iff_eq.mpr ?_⟩, rfl⟩
      exact (h.cover_fqn hws he i).mpr hleads

theorem EntityOf.registered_of_covers (h : EntityOf s artifacts c a)
    (hws : Model.Holds s.model ws) (he : e ∈ a.properties) (hcover : e.cover = some cover) :
    s.model.index? cover.index.fqn = some cover.index := by
  have hindex := (h.coversFirst he).index
  rw [hcover, Option.map_some, hws.head?_indexesOf] at hindex
  split at hindex
  · exact (hws.registered_of_firstOver hindex.symm).1
  · exact nomatch hindex

end Scope

/-! ## Keys -/

/-- The keys are the constants of the names, one by one and in the order of the
names. -/
structure Keyed (names keys : List String) : Prop where
  ordered : names.Pairwise fun a b => compare a b = .lt
  constants : List.Forall₂ (fun name key => Code.identifier? (Text.constantCase name) = some key)
    names keys

/-- Generated code that works on an index, with the keys that it hands over. -/
structure KeyUse (α : Type) where
  index : Index
  code : α
  keys : List String

/-- The members of an accessor that take a node out of an index.  There is one for
each index that leads, and it hands over what the index leads. -/
structure IndexMethods (s : Scope) (ws : List Schema.Classifier) (c : Schema.Class) (a : Accessor)
    (facade : Path) (methods : List (KeyUse Member)) : Prop where
  complete : (a.file s).members.filter Member.leavesIndex = methods.map KeyUse.code
  distinct : (methods.map (·.index.fqn)).Nodup
  mem_iff : ∀ i, i ∈ methods.map KeyUse.index ↔
    s.model.index? i.fqn = some i ∧ i.className = c.fqn ∧
      ∃ name ∈ i.properties, Model.leads ws c i name = true
  reenters : ∀ x ∈ methods, ∃ constant,
    Code.identifier? (indexConstantName x.index.name) = some constant ∧
      x.code.Reenters ("index_" ++ x.index.spelledName) (facade.join [constant]).asArguments
        (ownKeys x.keys)
  keyed : ∀ x ∈ methods, Keyed (x.index.properties.filter (Model.leads ws c x.index)) x.keys
  declared : ∀ x ∈ methods,
    List.Forall₂ (fun name key => textConstant "pub " key name ∈ (a.file s).members)
      (x.index.properties.filter (Model.leads ws c x.index)) x.keys

/-- The functions among some items that put nodes into an index.  There is one for
each index, and it hands over all members. -/
structure IndexTasks (s : Scope) (facade : Path) (items : List Item) (indexes : List Index)
    (tasks : List (KeyUse Item)) : Prop where
  complete : items.filter Item.entersIndex = tasks.map KeyUse.code
  indexes : tasks.map KeyUse.index = indexes
  enters : ∀ y ∈ tasks, ∃ constant accessor,
    Code.identifier? (indexConstantName y.index.name) = some constant ∧
      (s.indexedIdent y.index >>= s.classifierPath) = .ok accessor ∧
      y.code.Enters ("index_" ++ y.index.spelledName) (.ofType facade.ty constant)
        (keysOf accessor.ty y.keys)
  keyed : ∀ y ∈ tasks, Keyed y.index.properties y.keys

namespace Scope

variable {s : Scope} {c : Schema.Class} {a : Accessor} {artifacts : List Artifact}
variable {ws : List Schema.Classifier} {facade : Path} {m : IndexMethod} {i : Index}

theorem constant_declared (s : Scope) (he : e ∈ a.properties) :
    textConstant "pub " e.constant e.property.name ∈ (a.file s).members := by
  have hconstants : textConstant "pub " e.constant e.property.name ∈
      a.properties.flatMap (Accessor.constants · s) :=
    List.mem_flatMap.mpr ⟨e, he, List.mem_cons_self⟩
  simp only [Code.File.members, Accessor.file, List.flatMap_cons, List.nil_append, List.mem_append]
  exact .inl (.inl (.inl (.inl (.inr hconstants))))

theorem EntityOf.groups_planned (h : EntityOf s artifacts c a) :
    a.indexMethods.map IndexMethod.group = indexGroups a.properties := by
  have hplanned : List.Forall₂ (fun group m => group = IndexMethod.group m)
      (indexGroups a.properties) a.indexMethods :=
    (mapM_eq_ok.mp (planAccessor_indexMethods h.planned)).imp fun _ _ hm =>
      (planIndexMethod_ok hm).1.symm
  have hmapped := List.forall₂_map_right_iff.mpr hplanned
  rw [List.forall₂_eq_eq_eq] at hmapped
  exact hmapped.symm

theorem EntityOf.mem_groups (h : EntityOf s artifacts c a) (hm : m ∈ a.indexMethods) :
    m.group ∈ indexGroups a.properties := by
  rw [← h.groups_planned]
  exact List.mem_map_of_mem hm

theorem EntityOf.registered (h : EntityOf s artifacts c a) (hws : Model.Holds s.model ws)
    (hm : m ∈ a.indexMethods) : s.model.index? m.group.index.fqn = some m.group.index := by
  obtain ⟨e, he, hcover⟩ := (grouped_indexGroups _).covers _ (h.mem_groups hm)
  exact h.registered_of_covers hws he hcover

theorem EntityOf.method_planned (h : EntityOf s artifacts c a) (hm : m ∈ a.indexMethods) :
    s.modelPath = .ok m.facade ∧
      Code.identifier? (indexConstantName m.group.index.name) = some m.constant ∧
      m.group.method = "index_" ++ m.group.index.spelledName := by
  obtain ⟨e, he, hcover⟩ := (grouped_indexGroups _).covers _ (h.mem_groups hm)
  obtain ⟨group, -, hplanned⟩ :=
    exists_left (mapM_eq_ok.mp (planAccessor_indexMethods h.planned)) hm
  obtain ⟨rfl, hpath, hconstant⟩ := planIndexMethod_ok hplanned
  have hmethod := (h.coversFirst he).method _ hcover
  exact ⟨hpath, hconstant, Code.identifier?_verb (TaskVerb.isVerb_text .index) hmethod⟩

/-- A method stands for the index of its group and hands over its constants. -/
def keyUse (s : Scope) (m : IndexMethod) : KeyUse Member :=
  ⟨m.group.index, Accessor.indexMethod s m, m.group.members⟩

/-- Names and constants of the entries that the index of a method covers first. -/
theorem EntityOf.forall₂_keys (h : EntityOf s artifacts c a) (hws : Model.Holds s.model ws)
    (hm : m ∈ a.indexMethods) {R : String → String → Prop}
    (hR : ∀ e ∈ a.properties, R e.property.name e.constant) :
    List.Forall₂ R (m.group.index.properties.filter (Model.leads ws c m.group.index))
      m.group.members := by
  rw [← h.names_coveredBy hws (h.registered hws hm),
    (grouped_indexGroups _).members _ (h.mem_groups hm), List.forall₂_map_left_iff,
    List.forall₂_map_right_iff, List.forall₂_same]
  exact fun e he => hR e (List.mem_filter.mp he).1

theorem EntityOf.mem_indexes_iff (h : EntityOf s artifacts c a) (hws : Model.Holds s.model ws) :
    i ∈ (indexGroups a.properties).map IndexGroup.index ↔
      s.model.index? i.fqn = some i ∧ i.className = c.fqn ∧
        ∃ name ∈ i.properties, Model.leads ws c i name = true := by
  have hgrouped := grouped_indexGroups a.properties
  constructor
  · intro hi
    obtain ⟨group, hgroup, rfl⟩ := List.mem_map.mp hi
    obtain ⟨e, he, hcover⟩ := hgrouped.covers group hgroup
    have hregistered := h.registered_of_covers hws he hcover
    have hleads := (h.cover_fqn hws he group.index).mp (by rw [hcover]; rfl)
    obtain ⟨hclass, hmember, -⟩ := hws.property_of_leads hregistered hleads
    exact ⟨hregistered, hclass, _, hmember, hleads⟩
  · rintro ⟨hregistered, -, name, -, hleads⟩
    obtain ⟨-, -, p, hp, rfl⟩ := hws.property_of_leads hregistered hleads
    obtain ⟨e, he, rfl⟩ := h.exists_plan hp
    obtain ⟨cover, hcover, hfqn⟩ := Option.map_eq_some_iff.mp ((h.cover_fqn hws he i).mpr hleads)
    -- A name holds one index: what covers the entry and what opened its group are `i`.
    have hsame : cover.index = i := by
      have hcovered := h.registered_of_covers hws he hcover
      rw [hfqn, hregistered] at hcovered
      exact (Option.some.inj hcovered).symm
    obtain ⟨group, hgroup, hgroupFqn⟩ := List.mem_map.mp (hgrouped.complete e he cover hcover)
    obtain ⟨d, hd, hd'⟩ := hgrouped.covers group hgroup
    have hcovered := h.registered_of_covers hws hd hd'
    rw [hgroupFqn, hsame, hregistered] at hcovered
    rw [Option.some.inj hcovered]
    exact List.mem_map_of_mem hgroup

theorem EntityOf.indexMethods (h : EntityOf s artifacts c a) (hws : Model.Holds s.model ws)
    (hfacade : s.modelPath = .ok facade) :
    IndexMethods s ws c a facade (a.indexMethods.map (keyUse s)) where
  complete := by
    rw [filter_leavesIndex_file s a fun e he => h.not_called he, List.map_map]
    rfl
  distinct := by
    have hdistinct := (grouped_indexGroups a.properties).distinct
    rw [← h.groups_planned, List.map_map] at hdistinct
    rw [List.map_map]
    exact hdistinct
  mem_iff i := by
    rw [← h.mem_indexes_iff hws, ← h.groups_planned, List.map_map, List.map_map]
    rfl
  reenters x hx := by
    obtain ⟨m, hm, rfl⟩ := List.mem_map.mp hx
    obtain ⟨hpath, hconstant, hname⟩ := h.method_planned hm
    have hsame : facade = m.facade := Except.ok.inj (hfacade.symm.trans hpath)
    have hreenters := reenters_indexMethod s m
    rw [hname, ← hsame] at hreenters
    exact ⟨m.constant, hconstant, hreenters⟩
  keyed x hx := by
    obtain ⟨m, hm, rfl⟩ := List.mem_map.mp hx
    exact ⟨(ascending_members _).sublist List.filter_sublist,
      h.forall₂_keys hws hm fun e he => h.constant he⟩
  declared x hx := by
    obtain ⟨m, hm, rfl⟩ := List.mem_map.mp hx
    exact h.forall₂_keys hws hm fun e he => constant_declared s he

end Scope

/-! ## Keys of the task api -/

namespace IndexTasks

variable {s : Scope} {facade : Path} {items items' : List Item} {indexes indexes' : List Index}
variable {tasks tasks' : List (KeyUse Item)}

theorem nil {functions : List TaskFunction} (h : ∀ f ∈ functions, f.isOfIndex = false) :
    IndexTasks s facade (functions.map (TaskFunction.item s)) [] [] where
  complete := by
    rw [List.map_nil, List.filter_eq_nil_iff]
    intro item hitem
    obtain ⟨f, hf, rfl⟩ := List.mem_map.mp hitem
    rw [entersIndex_item, h f hf]
    exact Bool.false_ne_true
  indexes := rfl
  enters _ hy := absurd hy List.not_mem_nil
  keyed _ hy := absurd hy List.not_mem_nil

theorem append (h : IndexTasks s facade items indexes tasks)
    (h' : IndexTasks s facade items' indexes' tasks') :
    IndexTasks s facade (items ++ items') (indexes ++ indexes') (tasks ++ tasks') where
  complete := by rw [List.filter_append, List.map_append, h.complete, h'.complete]
  indexes := by rw [List.map_append, h.indexes, h'.indexes]
  enters y hy := (List.mem_append.mp hy).elim (h.enters y) (h'.enters y)
  keyed y hy := (List.mem_append.mp hy).elim (h.keyed y) (h'.keyed y)

end IndexTasks

namespace Scope

variable {s : Scope} {facade accessor : Path} {i : Index} {functions : List TaskFunction}
variable {c : Schema.Class} {p : Property} {className : String}

theorem isOfIndex_planPropertyTasks (h : planPropertyTasks className accessor p = .ok functions) :
    ∀ f ∈ functions, f.isOfIndex = false := by
  unfold planPropertyTasks at h
  match hkind : p.kind with
  | .attribute =>
    simp only [hkind, bind_eq_ok] at h
    obtain ⟨constant, -, typeConstant, -, set, -, get, -, h⟩ := h
    rw [← Except.ok.inj h]
    exact List.forall_mem_cons.mpr ⟨rfl, List.forall_mem_singleton.mpr rfl⟩
  | .relation =>
    simp only [hkind, bind_eq_ok] at h
    obtain ⟨constant, -, add, -, traverse, -, h⟩ := h
    rw [← Except.ok.inj h]
    exact List.forall_mem_cons.mpr ⟨rfl, List.forall_mem_singleton.mpr rfl⟩

theorem isOfIndex_planClassTasks (h : s.planClassTasks c = .ok functions) :
    ∀ f ∈ functions, f.isOfIndex = false := by
  simp only [planClassTasks, bind_eq_ok] at h
  obtain ⟨accessor, -, create, -, tasks, htasks, h⟩ := h
  rw [← Except.ok.inj h]
  intro f hf
  rcases List.mem_cons.mp hf with rfl | hf
  · rfl
  · obtain ⟨functions, hfunctions, hf⟩ := List.mem_flatten.mp hf
    obtain ⟨p, -, hp⟩ := exists_left (mapM_eq_ok.mp htasks) hfunctions
    exact isOfIndex_planPropertyTasks hp f hf

theorem indexTasks_planIndexTasks (hfacade : s.modelPath = .ok facade)
    (h : s.planIndexTasks i = .ok functions) :
    ∃ y, IndexTasks s facade (functions.map (TaskFunction.item s)) [i] [y] := by
  simp only [planIndexTasks, bind_eq_ok] at h
  obtain ⟨facade', hfacade', constant, hconstant, findAll, -, add, hadd, ident, hident, accessor,
    haccessor, members, hmembers, h⟩ := h
  have hsame : facade' = facade := Except.ok.inj (hfacade'.symm.trans hfacade)
  have hname : add = "index_" ++ i.spelledName :=
    checkedIdent_verb (TaskVerb.isVerb_text .index) hadd
  rw [← Except.ok.inj h, hsame]
  refine ⟨⟨i, (TaskFunction.addToIndex add facade constant accessor members).item s, members⟩,
    ?_, rfl, List.forall_mem_singleton.mpr ?_, List.forall_mem_singleton.mpr ?_⟩
  · simp [entersIndex_item, TaskFunction.isOfIndex]
  · refine ⟨constant, accessor, checkedIdent_eq_ok.mp hconstant,
      bind_eq_ok.mpr ⟨ident, hident, haccessor⟩, ?_⟩
    rw [← hname]
    exact enters_addToIndex s add facade constant accessor members
  · exact ⟨ascending_members i, (mapM_eq_ok.mp hmembers).imp fun _ _ => checkedIdent_eq_ok.mp⟩

theorem indexTasks_of_planned (hfacade : s.modelPath = .ok facade) {indexes : List Index}
    {planned : List (List TaskFunction)}
    (h : List.Forall₂ (fun i functions => s.planIndexTasks i = .ok functions) indexes planned) :
    ∃ tasks, IndexTasks s facade (planned.flatten.map (TaskFunction.item s)) indexes tasks := by
  induction h with
  | nil => exact ⟨[], IndexTasks.nil fun f hf => absurd hf List.not_mem_nil⟩
  | cons hhead _ ih =>
    obtain ⟨y, hy⟩ := indexTasks_planIndexTasks hfacade hhead
    obtain ⟨tasks, htasks⟩ := ih
    rw [List.flatten_cons, List.map_append]
    exact ⟨[y] ++ tasks, hy.append htasks⟩

theorem indexTasks_planTaskApi (h : s.planTaskApi = .ok functions) :
    ∃ facade tasks, s.modelPath = .ok facade ∧
      IndexTasks s facade (functions.map (TaskFunction.item s)) s.model.indexes tasks := by
  simp only [planTaskApi, bind_eq_ok] at h
  obtain ⟨facade, hfacade, action, -, classes, hclasses, indexes, hindexes, h⟩ := h
  obtain ⟨tasks, htasks⟩ := indexTasks_of_planned hfacade (mapM_eq_ok.mp hindexes)
  have htravel : IndexTasks s facade (List.map (TaskFunction.item s)
      [.travelInRealWorld facade, .travelInPlannedWorld facade]) [] [] :=
    IndexTasks.nil (List.forall_mem_cons.mpr ⟨rfl, List.forall_mem_singleton.mpr rfl⟩)
  have hofClasses : IndexTasks s facade (classes.flatten.map (TaskFunction.item s)) [] [] := by
    refine IndexTasks.nil fun f hf => ?_
    obtain ⟨functions, hfunctions, hf⟩ := List.mem_flatten.mp hf
    obtain ⟨c, -, hc⟩ := exists_left (mapM_eq_ok.mp hclasses) hfunctions
    exact isOfIndex_planClassTasks hc f hf
  have hversions : IndexTasks s facade (List.map (TaskFunction.item s)
      [.plannedVersion action, .realVersion action]) [] [] :=
    IndexTasks.nil (List.forall_mem_cons.mpr ⟨rfl, List.forall_mem_singleton.mpr rfl⟩)
  have hall := ((htravel.append hofClasses).append htasks).append hversions
  simp only [List.nil_append, List.append_nil] at hall
  refine ⟨facade, tasks, hfacade, ?_⟩
  rw [← Except.ok.inj h, List.map_append, List.map_append, List.map_append]
  exact hall

end Scope

namespace Keyed

variable {names keys keys' : List String}

theorem eq_filterMap (h : Keyed names keys) :
    keys = names.filterMap fun name => Code.identifier? (Text.constantCase name) := by
  obtain ⟨-, hconstants⟩ := h
  induction hconstants with
  | nil => rfl
  | cons hkey _ ih => rw [List.filterMap_cons, hkey, ← ih]

/-- Keys are equal only if no name was left out. -/
theorem eq_iff {p : String → Bool} (h : Keyed (names.filter p) keys) (h' : Keyed names keys') :
    keys = keys' ↔ ∀ name ∈ names, p name = true := by
  constructor
  · intro heq
    have hlength : (names.filter p).length = names.length := by
      rw [h.constants.length_eq, heq, h'.constants.length_eq]
    rw [← List.filter_eq_self]
    exact List.filter_sublist.eq_of_length hlength
  · intro hall
    rw [h.eq_filterMap, h'.eq_filterMap, List.filter_eq_self.mpr hall]

end Keyed

theorem IndexMethods.exists_use {s : Scope} {ws : List Schema.Classifier} {c : Schema.Class}
    {a : Accessor} {facade : Path} {methods : List (KeyUse Member)}
    (h : IndexMethods s ws c a facade methods) {i : Index} (hi : i ∈ s.model.indexes)
    (hclass : i.className = c.fqn) {name : String} (hname : name ∈ i.properties)
    (hleads : Model.leads ws c i name = true) :
    ∃ x ∈ methods, x.index = i := by
  have hmem : i ∈ methods.map KeyUse.index :=
    (h.mem_iff i).mpr ⟨Model.mem_indexes.mp hi, hclass, name, hname, hleads⟩
  exact List.mem_map.mp hmem

theorem IndexTasks.exists_use {s : Scope} {facade : Path} {items : List Item}
    {indexes : List Index} {tasks : List (KeyUse Item)}
    (h : IndexTasks s facade items indexes tasks) {i : Index} (hi : i ∈ indexes) :
    ∃ y ∈ tasks, y.index = i := by
  rw [← h.indexes] at hi
  exact List.mem_map.mp hi

theorem indexKeys_of_generate (rs : List Schema.Registration) {config : Config}
    {artifacts : List Artifact}
    (h : (generate (Model.empty.run rs) config).outcome = .ok artifacts) :
    ∃ s facade api tasks, Scope.of (Model.empty.run rs) config = .ok s ∧
      s.modelPath = .ok facade ∧ IsOnlyFile artifacts .taskApi api ∧
      IndexTasks s facade api.items s.model.indexes tasks ∧
      ∀ c ∈ s.model.classes, ∃ a methods, Scope.EntityOf s artifacts c a ∧
        IndexMethods s (Model.empty.writes rs) c a facade methods := by
  obtain ⟨s, _, _, hs, -, hapi, -, honly⟩ := Scope.generate_globals h
  simp only [Scope.taskApiArtifact, bind_eq_ok] at hapi
  obtain ⟨functions, hfunctions, hrender⟩ := hapi
  obtain ⟨facade, tasks, hfacade, htasks⟩ := Scope.indexTasks_planTaskApi hfunctions
  refine ⟨s, facade, _, tasks, hs, hfacade, honly.file hrender, htasks, fun c hc => ?_⟩
  obtain ⟨s', hs', hentities⟩ := Scope.entityOf_generate h
  have hsame : s' = s := Except.ok.inj (hs'.symm.trans hs)
  have hmodel := (Scope.of_eq_ok hs).1
  rw [hsame, ← hmodel] at hentities
  obtain ⟨a, ha⟩ := hentities c hc
  have hws := Model.holds_run Model.holds_empty rs
  rw [← hmodel] at hws
  exact ⟨a, _, ha, ha.indexMethods hws hfacade⟩

/-- A class has a method for each index that is the first over some member of it,
under just the keys of such members.  The task api indexes under all members.  The
two keys of an index are the same exactly when it is the first over each member. -/
theorem index_methods_take_first_indexed_members (rs : List Schema.Registration) {config : Config}
    {artifacts : List Artifact}
    (h : (generate (Model.empty.run rs) config).outcome = .ok artifacts) :
    ∃ s facade api tasks, Scope.of (Model.empty.run rs) config = .ok s ∧
      s.modelPath = .ok facade ∧ IsOnlyFile artifacts .taskApi api ∧
      IndexTasks s facade api.items s.model.indexes tasks ∧
      ∀ c ∈ s.model.classes, ∃ a methods, Scope.EntityOf s artifacts c a ∧
        IndexMethods s (Model.empty.writes rs) c a facade methods ∧
        ∀ x ∈ methods, ∀ y ∈ tasks, x.index = y.index →
          (x.keys = y.keys ↔ ∀ name ∈ x.index.properties,
            Model.leads (Model.empty.writes rs) c x.index name = true) := by
  obtain ⟨s, facade, api, tasks, hs, hfacade, hapi, htasks, hclasses⟩ := indexKeys_of_generate rs h
  refine ⟨s, facade, api, tasks, hs, hfacade, hapi, htasks, fun c hc => ?_⟩
  obtain ⟨a, methods, ha, hmethods⟩ := hclasses c hc
  refine ⟨a, methods, ha, hmethods, fun x hx y hy hindex => ?_⟩
  have hall := htasks.keyed y hy
  rw [← hindex] at hall
  exact (hmethods.keyed x hx).eq_iff hall

/-- A class of two attributes. -/
def person : Schema.Class :=
  (({ ident := .of "s" "Person" } : Schema.Class).addProperty
    { name := "email", type := "String", kind := .attribute }).addProperty
      { name := "name", type := "String", kind := .attribute }

/-- Persons are indexed twice by their email, then by email and name. -/
def contacts : List Schema.Registration :=
  [.classifier (.ofClass person), .index "s.byEmail" "s.Person" ["email"],
    .index "s.byPost" "s.Person" ["email"], .index "s.byContact" "s.Person" ["email", "name"]]

/-- The run succeeds, and the accessor has no method of that name. -/
theorem contacts_generate :
    (∃ artifacts, (generate (Model.empty.run contacts) {}).outcome = .ok artifacts) ∧
      ∀ s a, Scope.of (Model.empty.run contacts) {} = .ok s →
        (s.planAccessor person).outcome = .ok a →
          ∀ f ∈ (a.file s).members, ¬ f.IsMethod "index_by_post" := by
  have hcomputed : (generate (Model.empty.run contacts) {}).outcome.isOk = true ∧
      (Scope.of (Model.empty.run contacts) {} >>= fun s =>
        (s.planAccessor person).outcome.map fun a =>
          (a.file s).members.filterMap Member.functionName?).toOption.map
            (·.contains "index_by_post") = some false := by decide +kernel
  obtain ⟨hok, hnames⟩ := hcomputed
  refine ⟨exists_ok_of_isOk hok, fun s a hs ha f hf hmethod => ?_⟩
  obtain ⟨attributes, visibility, signature, body, rfl, hname⟩ := hmethod
  rw [hs] at hnames
  change ((s.planAccessor person).outcome.map _).toOption.map _ = _ at hnames
  rw [ha] at hnames
  have hmem : "index_by_post" ∈ (a.file s).members.filterMap Member.functionName? :=
    List.mem_filterMap.mpr ⟨_, hf, congrArg some hname⟩
  exact absurd (List.contains_iff_mem.mpr hmem) (Bool.eq_false_iff.mp (Option.some.inj hnames))

theorem exists_index_of_contacts (fqn : String) (members led : List String)
    (h : ((Model.empty.run contacts).index? fqn).map (fun i => (i.className, i.properties,
      i.properties.filter (Model.leads (Model.empty.writes contacts) person i))) =
        some (person.fqn, members, led)) :
    ∃ i ∈ (Model.empty.run contacts).indexes, i.fqn = fqn ∧ i.className = person.fqn ∧
      i.properties = members ∧
      i.properties.filter (Model.leads (Model.empty.writes contacts) person i) = led := by
  obtain ⟨i, hi, heq⟩ := Option.map_eq_some_iff.mp h
  obtain ⟨hclass, hrest⟩ := Prod.mk.inj heq
  obtain ⟨hmembers, hled⟩ := Prod.mk.inj hrest
  have hfqn : i.fqn = fqn := Model.fqn_of_get? (Model.index?_eq_some.mp hi)
  refine ⟨i, Model.mem_indexes.mpr ?_, hfqn, hclass, hmembers, hled⟩
  rw [hfqn]
  exact hi

/-- No index over the emails was there before the first. -/
theorem first_email_keys_agree :
    ∃ artifacts s facade, ∃ api : Code.File, ∃ tasks a methods,
      (generate (Model.empty.run contacts) {}).outcome = .ok artifacts ∧
      Scope.of (Model.empty.run contacts) {} = .ok s ∧
      IndexTasks s facade api.items s.model.indexes tasks ∧
      Scope.EntityOf s artifacts person a ∧
      IndexMethods s (Model.empty.writes contacts) person a facade methods ∧
      ∃ x ∈ methods, ∃ y ∈ tasks, x.index = y.index ∧ x.index.fqn = "s.byEmail" ∧
        x.keys = y.keys := by
  obtain ⟨⟨artifacts, h⟩, -⟩ := contacts_generate
  obtain ⟨s, facade, api, tasks, hs, -, -, htasks, hclasses⟩ :=
    index_methods_take_first_indexed_members contacts h
  have hmodel := (Scope.of_eq_ok hs).1
  obtain ⟨a, methods, ha, hmethods, hagree⟩ := hclasses person <| by
    rw [hmodel]
    exact Model.mem_classes.mpr rfl
  obtain ⟨i, hi, hfqn, hclass, hmembers, hled⟩ :=
    exists_index_of_contacts "s.byEmail" ["email"] ["email"] (by decide)
  rw [← hmodel] at hi
  have hall := List.filter_eq_self.mp (hled.trans hmembers.symm)
  obtain ⟨y, hy, rfl⟩ := htasks.exists_use hi
  have hname : "email" ∈ y.index.properties := by
    rw [hmembers]
    exact List.mem_cons_self
  obtain ⟨x, hx, hxy⟩ := hmethods.exists_use hi hclass hname (hall _ hname)
  refine ⟨artifacts, s, facade, api, tasks, a, methods, h, hs, htasks, ha, hmethods, x, hx, y, hy,
    hxy, ?_, (hagree x hx y hy hxy).mpr ?_⟩
  · rw [hxy]
    exact hfqn
  · rw [hxy]
    exact hall

/-- Once emails are covered, no method is left for another index over them, and the
one for contacts has the names only. -/
theorem covered_members_are_left_out :
    ∃ artifacts s facade, ∃ api : Code.File, ∃ tasks a methods,
      (generate (Model.empty.run contacts) {}).outcome = .ok artifacts ∧
      Scope.of (Model.empty.run contacts) {} = .ok s ∧
      IndexTasks s facade api.items s.model.indexes tasks ∧
      Scope.EntityOf s artifacts person a ∧
      IndexMethods s (Model.empty.writes contacts) person a facade methods ∧
      (∀ p ∈ person.properties, p.isPlain = true) ∧
      (∃ i ∈ s.model.indexes, i.fqn = "s.byPost" ∧ i.className = person.fqn ∧
        i.properties = ["email"]) ∧
      (∀ f ∈ (a.file s).members, ¬ f.IsMethod "index_by_post") ∧
      ∃ x ∈ methods, ∃ y ∈ tasks, x.index = y.index ∧ x.index.fqn = "s.byContact" ∧
        x.index.properties = ["email", "name"] ∧ Keyed ["name"] x.keys ∧
        Keyed ["email", "name"] y.keys ∧ x.keys ≠ y.keys := by
  obtain ⟨⟨artifacts, h⟩, habsent⟩ := contacts_generate
  obtain ⟨s, facade, api, tasks, hs, -, -, htasks, hclasses⟩ := indexKeys_of_generate contacts h
  have hmodel := (Scope.of_eq_ok hs).1
  obtain ⟨a, methods, ha, hmethods⟩ := hclasses person <| by
    rw [hmodel]
    exact Model.mem_classes.mpr rfl
  refine ⟨artifacts, s, facade, api, tasks, a, methods, h, hs, htasks, ha, hmethods, by decide, ?_,
    habsent s a hs ha.planned, ?_⟩
  · obtain ⟨i, hi, hfqn, hclass, hmembers, -⟩ :=
      exists_index_of_contacts "s.byPost" ["email"] [] (by decide)
    rw [hmodel]
    exact ⟨i, hi, hfqn, hclass, hmembers⟩
  · obtain ⟨i, hi, hfqn, hclass, hmembers, hled⟩ :=
      exists_index_of_contacts "s.byContact" ["email", "name"] ["name"] (by decide)
    rw [← hmodel] at hi
    obtain ⟨y, hy, rfl⟩ := htasks.exists_use hi
    have hfirst : "name" ∈ y.index.properties.filter
        (Model.leads (Model.empty.writes contacts) person y.index) := by
      rw [hled]
      exact List.mem_singleton.mpr rfl
    obtain ⟨hmember, hleads⟩ := List.mem_filter.mp hfirst
    obtain ⟨x, hx, hxy⟩ := hmethods.exists_use hi hclass hmember hleads
    have hx' := hmethods.keyed x hx
    have hy' := htasks.keyed y hy
    rw [hxy] at hx'
    have hne : x.keys ≠ y.keys := by
      rw [Ne, hx'.eq_iff hy', ← List.filter_eq_self, hled, hmembers]
      decide
    rw [hled] at hx'
    rw [hmembers] at hy'
    refine ⟨x, hx, y, hy, hxy, ?_, ?_, hx', hy', hne⟩
    · rw [hxy]
      exact hfqn
    · rw [hxy]
      exact hmembers

end Generate
end TypedGraph
