/-
The constants that artifacts take from each other.

Accessors, the facade and the task api derive the names of constants each for
itself, and leave different things out: an accessor has the constants of a property
without its methods, and the task api has functions for every property.  Still each
constant that some artifact takes from another is declared by that one, when every
index has a registered owner with all its members.
-/
import TypedGraph.Proofs.AttributeGroups
import TypedGraph.Proofs.IndexOwners
import TypedGraph.Proofs.Uses

namespace TypedGraph
namespace Generate

open Schema (Classifier Index Model Property)
open Code (Expr Stmt Member Item Path Ty passes_all passes_callsTo)

/-! ## Constants of properties -/

/-- The constants that the functions for a property ask for. -/
def taskConstants (p : Property) : List String :=
  match p.kind with
  | .attribute => [Text.constantCase p.name, typeConstantName p.name, Text.constantCase p.name]
  | .relation => [Text.constantCase p.name, Text.constantCase p.name]

theorem taskConstants_subset (p : Property) : ∀ name ∈ taskConstants p, name ∈ propertyConstants p := by
  unfold taskConstants propertyConstants
  cases p.kind <;> simp

/-- The keys are the names, each as it is spelled in code. -/
def Spells (names keys : List String) : Prop :=
  List.Forall₂ (fun name key => Code.identifier? name = some key) names keys

namespace Scope

variable {s : Scope} {c : Schema.Class} {a : Accessor} {artifacts : List Artifact}
  {p : Property} {i : Index} {accessor : Path} {functions : List TaskFunction} {className : String}

/-- An accessor declares what its properties ask for, whichever artifact asks. -/
theorem EntityOf.declares (h : EntityOf s artifacts c a) (hp : p ∈ c.properties) {name key : String}
    (hname : name ∈ propertyConstants p) (hkey : Code.identifier? name = some key) :
    key ∈ (a.file s).inherentConstants := by
  obtain ⟨e, he, rfl⟩ := h.exists_plan hp
  obtain ⟨before, after, hplan⟩ := (planProperties_ok (planAccessor_ok h.planned).2).2 e he
  have hmem : key ∈ e.constants := by
    obtain ⟨hconstant, _, -, ⟨hkind, t, _, ht, htype, -⟩ | ⟨hkind, -, -⟩⟩ :=
      planProperty_constants hplan
    · rw [propertyConstants, hkind] at hname
      rw [PropertyPlan.constants, ht]
      rcases List.mem_pair.mp hname with rfl | rfl
      · rw [Option.some.inj (hkey.symm.trans (checkedIdent_eq_ok.mp hconstant))]
        exact List.mem_cons_self
      · rw [Option.some.inj (hkey.symm.trans (checkedIdent_eq_ok.mp htype))]
        exact List.mem_cons_of_mem _ (List.mem_singleton.mpr rfl)
    · rw [propertyConstants, hkind] at hname
      rw [List.mem_singleton.mp hname] at hkey
      rw [PropertyPlan.constants, Option.some.inj (hkey.symm.trans (checkedIdent_eq_ok.mp hconstant))]
      exact List.mem_cons_self
  rw [Accessor.inherentConstants_file]
  exact List.mem_cons_of_mem _ (List.mem_flatMap.mpr ⟨e, he, hmem⟩)

theorem nodeName_declared (s : Scope) (a : Accessor) :
    nodeNameConstant ∈ (a.file s).inherentConstants := by
  rw [Accessor.inherentConstants_file]
  exact List.mem_cons_self

theorem uses_planPropertyTasks (h : planPropertyTasks className accessor p = .ok functions) :
    ∃ keys, Spells (taskConstants p) keys ∧
      functions.flatMap TaskFunction.uses = keys.map (accessor.ty, ·) := by
  unfold planPropertyTasks at h
  unfold taskConstants
  match hkind : p.kind with
  | .attribute =>
    simp only [hkind, bind_eq_ok] at h
    obtain ⟨constant, hconstant, typeConstant, htype, set, -, get, -, h⟩ := h
    rw [← Except.ok.inj h]
    refine ⟨[constant, typeConstant, constant], ?_, rfl⟩
    exact .cons (checkedIdent_eq_ok.mp hconstant) (.cons (checkedIdent_eq_ok.mp htype)
      (.cons (checkedIdent_eq_ok.mp hconstant) .nil))
  | .relation =>
    simp only [hkind, bind_eq_ok] at h
    obtain ⟨constant, hconstant, add, -, traverse, -, h⟩ := h
    rw [← Except.ok.inj h]
    refine ⟨[constant, constant], ?_, rfl⟩
    exact .cons (checkedIdent_eq_ok.mp hconstant) (.cons (checkedIdent_eq_ok.mp hconstant) .nil)

theorem uses_properties {ps : List Property} {planned : List (List TaskFunction)}
    (h : List.Forall₂ (fun p functions => planPropertyTasks className accessor p = .ok functions)
      ps planned) :
    ∃ keys, Spells (ps.flatMap taskConstants) keys ∧
      planned.flatten.flatMap TaskFunction.uses = keys.map (accessor.ty, ·) := by
  induction h with
  | nil => exact ⟨[], .nil, rfl⟩
  | cons hhead _ ih =>
    obtain ⟨own, hown, huses⟩ := uses_planPropertyTasks hhead
    obtain ⟨rest, hrest, hothers⟩ := ih
    refine ⟨own ++ rest, List.rel_append hown hrest, ?_⟩
    rw [List.flatten_cons, List.flatMap_append, huses, hothers, List.map_append]

end Scope

/-! ## Classes and indexes -/

/-- The functions of a class take its name and the constants of each of its properties,
all of them from the accessor of the class. -/
def ClassUses (s : Scope) (artifacts : List Artifact) (c : Schema.Class) (items : List Code.Item) :
    Prop :=
  ∃ a path keys, Scope.EntityOf s artifacts c a ∧ s.classifierPath c.ident = .ok path ∧
    Spells (c.properties.flatMap taskConstants) keys ∧
    items.flatMap Code.Item.uses = (nodeNameConstant :: keys).map (path.ty, ·) ∧
    ∀ key ∈ nodeNameConstant :: keys, key ∈ (a.file s).inherentConstants

/-- The functions of an index take its constant from the facade, and those of its members
from the accessor of the class that it is over. -/
def IndexUses (s : Scope) (artifacts : List Artifact) (facade : Path) (facadeFile : Code.File)
    (i : Index) (items : List Code.Item) : Prop :=
  ∃ c a path constant keys, s.model.class? i.className = some c ∧
    Scope.EntityOf s artifacts c a ∧ s.classifierPath c.ident = .ok path ∧
    Code.identifier? (indexConstantName i.name) = some constant ∧
    Spells (i.properties.map Text.constantCase) keys ∧
    items.flatMap Code.Item.uses =
      [(facade.ty, constant), (facade.ty, constant)] ++ keys.map (path.ty, ·) ∧
    constant ∈ facadeFile.inherentConstants ∧ ∀ key ∈ keys, key ∈ (a.file s).inherentConstants

namespace Scope

variable {s : Scope} {c : Schema.Class} {a : Accessor} {artifacts : List Artifact}
  {i : Index} {facade : Path} {functions : List TaskFunction} {facadeFile : Code.File}

theorem EntityOf.classUses (h : EntityOf s artifacts c a)
    (hfunctions : s.planClassTasks c = .ok functions) :
    ClassUses s artifacts c (functions.map (TaskFunction.item s)) := by
  simp only [planClassTasks, bind_eq_ok] at hfunctions
  obtain ⟨path, hpath, create, -, tasks, htasks, hfunctions⟩ := hfunctions
  obtain ⟨keys, hkeys, huses⟩ := uses_properties (mapM_eq_ok.mp htasks)
  refine ⟨a, path, keys, h, hpath, hkeys, ?_, fun key hkey => ?_⟩
  · rw [uses_items, ← Except.ok.inj hfunctions, List.flatMap_cons, huses]
    rfl
  · rcases List.mem_cons.mp hkey with rfl | hkey
    · exact nodeName_declared s a
    · obtain ⟨name, hname, hspelled⟩ := exists_left hkeys hkey
      obtain ⟨p, hp, hname⟩ := List.mem_flatMap.mp hname
      exact h.declares hp (taskConstants_subset p name hname) hspelled

theorem indexUses (hentity : EntityOf s artifacts c a)
    (hclass : s.model.class? i.className = some c) (hall : c.HasAll i.properties)
    (hfacade : s.modelPath = .ok facade)
    (hconstant : ∀ constant, Code.identifier? (indexConstantName i.name) = some constant →
      constant ∈ facadeFile.inherentConstants)
    (hfunctions : s.planIndexTasks i = .ok functions) :
    IndexUses s artifacts facade facadeFile i (functions.map (TaskFunction.item s)) := by
  simp only [planIndexTasks, bind_eq_ok] at hfunctions
  obtain ⟨facade', hfacade', constant, hchecked, findAll, -, add, -, ident, hident, path, hpath, keys,
    hkeys, hfunctions⟩ := hfunctions
  obtain rfl : facade = facade' := Except.ok.inj (hfacade.symm.trans hfacade')
  have hident : c.ident = ident := by
    rw [indexedIdent, hclass] at hident
    exact Except.ok.inj hident
  rw [← hident] at hpath
  have hspells : Spells (i.properties.map Text.constantCase) keys :=
    List.forall₂_map_left_iff.mpr ((mapM_eq_ok.mp hkeys).imp fun _ _ => checkedIdent_eq_ok.mp)
  refine ⟨c, a, path, constant, keys, hclass, hentity, hpath, checkedIdent_eq_ok.mp hchecked,
    hspells, ?_, hconstant _ (checkedIdent_eq_ok.mp hchecked), fun key hkey => ?_⟩
  · rw [uses_items, ← Except.ok.inj hfunctions]
    simp [TaskFunction.uses]
  · obtain ⟨name, hname, hspelled⟩ := exists_left hspells hkey
    obtain ⟨member, hmember, rfl⟩ := List.mem_map.mp hname
    obtain ⟨p, hp⟩ := hall member hmember
    have hname := Schema.Class.name_of_property? hp
    rw [← hname] at hp hspelled
    exact hentity.declares (Schema.Class.mem_properties.mpr hp) List.mem_cons_self hspelled

/-! ## The facade -/

theorem planIndexConstants_mem {seen : List String} {indexes : List Index}
    {constants : List IndexConstant} (h : planIndexConstants seen indexes = .ok constants)
    (hi : i ∈ indexes) {constant : String}
    (hconstant : Code.identifier? (indexConstantName i.name) = some constant) :
    constant ∈ constants.map IndexConstant.name := by
  induction indexes generalizing seen constants with
  | nil => exact absurd hi List.not_mem_nil
  | cons j rest ih =>
    simp only [planIndexConstants] at h
    split at h
    · cases h
    · simp only [bind_eq_ok, checkedIdent_eq_ok] at h
      obtain ⟨name, hname, others, hothers, h⟩ := h
      rw [← Except.ok.inj h]
      rcases List.mem_cons.mp hi with rfl | hi
      · rw [Option.some.inj (hconstant.symm.trans hname)]
        exact List.mem_cons_self
      · exact List.mem_cons_of_mem _ (ih hothers hi)

theorem inherentConstants_facade (s : Scope) (f : Facade) :
    (f.file s).inherentConstants = "REAL_WORLD" :: f.constants.map IndexConstant.name := by
  have hconstants : f.constantMembers.filterMap Member.constantName? =
      "REAL_WORLD" :: f.constants.map IndexConstant.name := by
    have hname : Member.constantName? ∘ (fun c : IndexConstant =>
        textConstant "pub " c.name c.indexName) = some ∘ IndexConstant.name := rfl
    rw [Facade.constantMembers, List.filterMap_append, List.filterMap_map, hname,
      List.filterMap_eq_map]
    rfl
  have hmethods : [f.constructor s].filterMap Member.constantName? = [] ∧
      (Facade.ownMethods s).filterMap Member.constantName? = [] := ⟨rfl, rfl⟩
  have hfactories : f.factories.filterMap (Member.constantName? ∘ Facade.factoryMethod) = [] :=
    List.filterMap_eq_nil_iff.mpr fun _ _ => rfl
  have hqueries : f.queries.flatMap
      (fun q => (Facade.queryMethods s q).filterMap Member.constantName?) = [] :=
    List.flatMap_eq_nil_iff.mpr fun _ _ => rfl
  simp only [Code.File.inherentConstants, Facade.file, List.flatMap_cons, List.flatMap_nil,
    List.filterMap_append, List.filterMap_map, List.filterMap_flatMap, hconstants, hmethods,
    hfactories, hqueries, List.append_nil, List.nil_append]

theorem facade_declares {plan : Facade} (h : s.planFacade = .ok plan) (hi : i ∈ s.model.indexes)
    {constant : String} (hconstant : Code.identifier? (indexConstantName i.name) = some constant) :
    constant ∈ (plan.file s).inherentConstants := by
  simp only [planFacade, bind_eq_ok] at h
  obtain ⟨_, -, _, -, constants, hconstants, _, -, _, -, h⟩ := h
  rw [inherentConstants_facade, ← Except.ok.inj h]
  exact List.mem_cons_of_mem _ (planIndexConstants_mem hconstants hi hconstant)

end Scope

/-- The graph is asked for an index by a constant of the type itself. -/
def AsksBy (constant : String) (args : List Expr) : Prop :=
  ∃ world time action, args = [world, time, .ofSelf constant, action]

/-- Each index has its query in the facade, and no query asks for an index by a constant
that the facade does not declare. -/
structure FacadeUses (indexes : List Index) (file : Code.File) : Prop where
  asked : ∀ i ∈ indexes, ∃ constant, Code.identifier? (indexConstantName i.name) = some constant ∧
    constant ∈ file.inherentConstants ∧
    ∃ f ∈ file.members, ∃ args ∈ f.callsOf "index_if_exists", AsksBy constant args
  declared : ∀ f ∈ file.members, ∀ args ∈ f.callsOf "index_if_exists",
    ∃ constant ∈ file.inherentConstants, AsksBy constant args

/-- A member works on an index only by its constant on the facade. -/
def WorksOn (facade : Path) (file : Code.File) (f : Member) : Prop :=
  ∀ args ∈ f.callsOf "index", ∃ world time constant action,
    args = [world, time] ++ (facade.join [constant]).asArguments ++ [action] ∧
      constant ∈ file.inherentConstants

namespace Scope

variable {s : Scope} {c : Schema.Class} {a : Accessor} {artifacts : List Artifact}
  {facade : Path}

theorem asks_queryMethods {q : Query} {f : Member} (hf : f ∈ Facade.queryMethods s q) :
    ∃ args, f.callsOf "index_if_exists" = [args] ∧ AsksBy q.constant args := by
  rcases List.mem_pair.mp hf with rfl | rfl
  all_goals
    simp [callbackMethod, Facade.askIndex, Facade.selfGraph, moveClosure, Scope.callbackFound,
      Expr.names, Expr.callee?, Path.ofNames, Code.Segment.name, AsksBy]

theorem planQuery_constant {q : Query} {i : Index} (h : s.planQuery i = .ok q) :
    Code.identifier? (indexConstantName i.name) = some q.constant := by
  simp only [planQuery, bind_eq_ok] at h
  obtain ⟨_, -, _, -, constant, hconstant, _, -, _, -, h⟩ := h
  rw [← Except.ok.inj h]
  exact checkedIdent_eq_ok.mp hconstant

theorem planFacade_queries {plan : Facade} (h : s.planFacade = .ok plan) :
    List.Forall₂ (fun i q => s.planQuery i = .ok q) s.model.indexes plan.queries := by
  simp only [planFacade, bind_eq_ok] at h
  obtain ⟨_, -, _, -, _, -, _, -, queries, hqueries, h⟩ := h
  rw [← Except.ok.inj h]
  exact mapM_eq_ok.mp hqueries

theorem facadeUses {plan : Facade} (h : s.planFacade = .ok plan) :
    FacadeUses s.model.indexes (plan.file s) where
  asked i hi := by
    obtain ⟨q, hq, hplanned⟩ := exists_right (planFacade_queries h) hi
    have hconstant := planQuery_constant hplanned
    refine ⟨q.constant, hconstant, facade_declares h hi hconstant, ?_⟩
    obtain ⟨f, hf⟩ : ∃ f, f ∈ Facade.queryMethods s q := ⟨_, List.mem_cons_self⟩
    obtain ⟨args, hcalls, hasks⟩ := asks_queryMethods hf
    refine ⟨f, ?_, args, hcalls ▸ List.mem_singleton.mpr rfl, hasks⟩
    have hmember : f ∈ plan.queries.flatMap (Facade.queryMethods s) :=
      List.mem_flatMap.mpr ⟨q, hq, hf⟩
    rw [Facade.members_file]
    exact List.mem_append_right _ hmember
  declared f hf args hargs := by
    rcases Facade.mem_members_file hf with hf | rfl | ⟨q, hq, hf⟩
    · rw [Facade.callsOf_fixedMembers (by decide) hf] at hargs
      exact absurd hargs List.not_mem_nil
    · have hnone : (plan.constructor s).callsOf "index_if_exists" = [] := by
        rw [Member.callsOf, Facade.collect_constructor (passes_callsTo (by decide))]
        simp
      rw [hnone] at hargs
      exact absurd hargs List.not_mem_nil
    · obtain ⟨args', hcalls, hasks⟩ := asks_queryMethods hf
      rw [hcalls] at hargs
      rw [List.mem_singleton.mp hargs]
      obtain ⟨i, hi, hplanned⟩ := exists_left (planFacade_queries h) hq
      exact ⟨q.constant, facade_declares h hi (planQuery_constant hplanned), hasks⟩

theorem EntityOf.worksOn (h : EntityOf s artifacts c a) (hfacade : s.modelPath = .ok facade)
    {plan : Facade} (hplan : s.planFacade = .ok plan) :
    ∀ f ∈ (a.file s).members, WorksOn facade (plan.file s) f := by
  intro f hf args hargs
  rcases isOwn_or_index hf with hown | ⟨m, hm, rfl⟩
  · have hnone : f.callsOf "index" = [] := by
      cases hown with
      | constant _ hf => exact collect_constants hf
      | fixed _ hcollect =>
        exact hcollect _ (passes_callsTo (by decide)) (passes_callsTo (by decide))
      | @access e he hf =>
        refine collect_accessMethods (passes_all (by decide))
          (passes_all fun n hcalled heq => ?_) hf
        rw [heq] at hcalled
        rcases h.called_cases he hcalled with ⟨_, -, -, hstart⟩ | hstart
        · exact absurd hstart (by decide)
        · exact absurd hstart (by decide)
    rw [hnone] at hargs
    exact absurd hargs List.not_mem_nil
  · obtain ⟨hpath, hconstant, -⟩ := h.method_planned hm
    obtain ⟨world, time, action, hresolves⟩ := (reenters_indexMethod s m).resolves
    rw [hresolves] at hargs
    obtain rfl : facade = m.facade := Except.ok.inj (hfacade.symm.trans hpath)
    exact ⟨world, time, m.constant, action, List.mem_singleton.mp hargs,
      facade_declares hplan (h.index_mem hm) hconstant⟩

end Scope

/-! ## Files of a run -/

/-- The files that artifacts are the text of, by kind. -/
inductive FileOf (s : Scope) : ArtifactKind → Code.File → Prop
  | enumeration {e plan} (h : EnumPlan.of e = .ok plan) : FileOf s .enumeration plan.file
  | entity {c a} (h : (s.planAccessor c).outcome = .ok a) : FileOf s .entity (a.file s)
  | plugin {plan} (h : s.planPlugin = .ok plan) : FileOf s .plugin (plan.file s)
  | model {plan} (h : s.planFacade = .ok plan) : FileOf s .model (plan.file s)
  | taskApi {functions} (h : s.planTaskApi = .ok functions) :
    FileOf s .taskApi (s.taskApiFile functions)
  | action {facade} (h : s.modelPath = .ok facade) : FileOf s .action (s.otherWorldFile facade)
  | selection {c plan} (h : s.planSelection c = .ok plan) : FileOf s .selection (plan.file s)
  | timeHelper (typeName : String) : FileOf s .timeHelper (s.timeFile typeName)
  | moduleIndex (names : List String) :
    FileOf s .moduleIndex (indexFile names)

/-- The artifact is the text of a file of its kind. -/
def HasFile (s : Scope) (x : Artifact) (file : Code.File) : Prop :=
  FileOf s x.kind file ∧ x.body = file.text

namespace Scope

variable {s : Scope} {m : Model} {config : Config} {x : Artifact} {artifacts : List Artifact}

theorem hasFile_of_render {name : String} {package : Option String} {kind : ArtifactKind}
    {file : Code.File} (h : FileOf s kind file)
    (hx : Artifact.render name package kind file = .ok x) : HasFile s x file := by
  rw [Artifact.render_ok hx]
  exact ⟨h, rfl⟩

theorem hasFile_classifier {f : Classifier} (h : (s.classifierArtifact f).outcome = .ok (some x)) :
    ∃ file, HasFile s x file := by
  cases f with
  | ofEnum e =>
    simp only [classifierArtifact, Traced.outcome_of, map_eq_pure_bind, bind_eq_ok] at h
    obtain ⟨y, hy, hx⟩ := h
    obtain ⟨plan, hplan, hy⟩ := bind_eq_ok.mp hy
    rw [← Option.some.inj (Except.ok.inj hx)]
    exact ⟨_, hasFile_of_render (.enumeration hplan) hy⟩
  | ofClass c =>
    obtain ⟨y, hy, hx⟩ := Traced.outcome_some_map.mp h
    obtain ⟨a, ha, rfl⟩ := entityArtifact_ok hy
    rw [Option.some.inj hx]
    exact ⟨_, .entity ha, by dsimp only⟩
  | ofIndex i => cases h

theorem hasFile_global {global : List Artifact} (h : s.globalArtifacts = .ok global) :
    ∀ x ∈ global, ∃ file, HasFile s x file := by
  intro x hx
  rcases made_of_mem_global h hx with hx | hx | hx | hx | ⟨c, -, hx⟩ | hx
  · obtain ⟨plan, hplan, hx⟩ := bind_eq_ok.mp hx
    exact ⟨_, hasFile_of_render (.plugin hplan) hx⟩
  · obtain ⟨plan, hplan, hx⟩ := bind_eq_ok.mp hx
    exact ⟨_, hasFile_of_render (.model hplan) hx⟩
  · obtain ⟨functions, hfunctions, hx⟩ := bind_eq_ok.mp hx
    exact ⟨_, hasFile_of_render (.taskApi hfunctions) hx⟩
  · obtain ⟨facade, hfacade, hx⟩ := bind_eq_ok.mp hx
    exact ⟨_, hasFile_of_render (.action hfacade) hx⟩
  · obtain ⟨plan, hplan, hx⟩ := bind_eq_ok.mp hx
    exact ⟨_, hasFile_of_render (.selection hplan) hx⟩
  · obtain ⟨typeName, -, hx⟩ := bind_eq_ok.mp hx
    exact ⟨_, hasFile_of_render (.timeHelper typeName) hx⟩

theorem hasFile_index {indexes : List Artifact} (h : moduleIndexes artifacts = .ok indexes) :
    ∀ x ∈ indexes, ∃ file, HasFile s x file := by
  simp only [moduleIndexes, bind_eq_ok] at h
  obtain ⟨packages, -, _, -, h⟩ := h
  intro x hx
  obtain ⟨entry, -, hentry⟩ := exists_left (mapM_eq_ok.mp h) hx
  obtain ⟨names, -, hx⟩ := bind_eq_ok.mp hentry
  exact ⟨_, hasFile_of_render (.moduleIndex names) hx⟩

/-- Every artifact of a run has its file. -/
theorem hasFile_of_generate (h : (generate m config).outcome = .ok artifacts)
    (hs : Scope.of m config = .ok s) : ∀ x ∈ artifacts, ∃ file, HasFile s x file := by
  obtain ⟨own, global, indexes, hown, hglobal, hindexes, rfl⟩ := parts_of_generate h hs
  intro x hx
  rw [List.append_assoc, List.mem_append, List.mem_append] at hx
  rcases hx with hx | hx | hx
  · obtain ⟨f, -, hf⟩ := (classifierArtifacts_ok hown).2 x hx
    exact hasFile_classifier hf
  · exact hasFile_global hglobal x hx
  · exact hasFile_index hindexes x hx

end Scope

/-! ## Runs -/

/-- A constant that is taken from the facade, or from the accessor of a class, is
declared there. -/
inductive Resolves (s : Scope) (artifacts : List Artifact) (facade : Path)
    (facadeFile : Code.File) : Ty × String → Prop
  | facade {constant : String} (h : constant ∈ facadeFile.inherentConstants) :
    Resolves s artifacts facade facadeFile (facade.ty, constant)
  | accessor {c : Schema.Class} {a : Accessor} {path : Path} {constant : String}
    (hc : c ∈ s.model.classes) (ha : Scope.EntityOf s artifacts c a)
    (hpath : s.classifierPath c.ident = .ok path) (h : constant ∈ (a.file s).inherentConstants) :
    Resolves s artifacts facade facadeFile (path.ty, constant)

/-- The task api has functions for worlds, then for each class, for each index, and for
versions of nodes. -/
def TaskUses (s : Scope) (artifacts : List Artifact) (facade : Path) (facadeFile : Code.File)
    (items : List Code.Item) : Prop :=
  ∃ first classes indexes last,
    items = first ++ classes.flatten ++ indexes.flatten ++ last ∧
    first.flatMap Code.Item.uses = [(facade.ty, "REAL_WORLD"), (facade.ty, "REAL_WORLD")] ∧
    List.Forall₂ (ClassUses s artifacts) s.model.classes classes ∧
    List.Forall₂ (IndexUses s artifacts facade facadeFile) s.model.indexes indexes ∧
    last.flatMap Code.Item.uses = []

namespace Scope

variable {s : Scope} {m : Model} {config : Config} {artifacts : List Artifact} {facade : Path}
  {plan : Facade} {functions : List TaskFunction} {facadeFile : Code.File}

theorem mem_classes_of_class? {m : Model} {fqn : String} {c : Schema.Class}
    (h : m.class? fqn = some c) : c ∈ m.classes := by
  rw [Model.mem_classes, Model.fqn_of_class? h]
  exact h

theorem taskUses (hclasses : ∀ c ∈ s.model.classes, ∃ a, EntityOf s artifacts c a)
    (hm : s.model.IndexesResolve) (hfacade : s.modelPath = .ok facade)
    (hplan : s.planFacade = .ok plan) (hfunctions : s.planTaskApi = .ok functions) :
    TaskUses s artifacts facade (plan.file s) (functions.map (TaskFunction.item s)) := by
  simp only [planTaskApi, bind_eq_ok] at hfunctions
  obtain ⟨facade', hfacade', action, -, classes, hplanned, indexes, hindexed, hfunctions⟩ :=
    hfunctions
  obtain rfl : facade = facade' := Except.ok.inj (hfacade.symm.trans hfacade')
  refine ⟨[.travelInRealWorld facade, .travelInPlannedWorld facade].map (TaskFunction.item s),
    classes.map (List.map (TaskFunction.item s)), indexes.map (List.map (TaskFunction.item s)),
    [.plannedVersion action, .realVersion action].map (TaskFunction.item s), ?_, ?_, ?_, ?_, ?_⟩
  · rw [← Except.ok.inj hfunctions, List.map_append, List.map_append, List.map_append,
      List.map_flatten, List.map_flatten]
  · rw [uses_items]
    rfl
  · rw [List.forall₂_map_right_iff]
    refine (List.forall₂_and_left _ _ |>.mpr ⟨fun c hc => hc, mapM_eq_ok.mp hplanned⟩).imp ?_
    rintro c functions ⟨hc, hfunctions⟩
    obtain ⟨a, ha⟩ := hclasses c hc
    exact ha.classUses hfunctions
  · rw [List.forall₂_map_right_iff]
    refine (List.forall₂_and_left _ _ |>.mpr ⟨fun i hi => hi, mapM_eq_ok.mp hindexed⟩).imp ?_
    rintro i functions ⟨hi, hfunctions⟩
    obtain ⟨c, hc, hall⟩ := hm i hi
    obtain ⟨a, ha⟩ := hclasses c (mem_classes_of_class? hc)
    exact indexUses ha hc hall hfacade (fun _ => facade_declares hplan hi) hfunctions
  · rw [uses_items]
    rfl

theorem mem_uses_flatten {blocks : List (List Code.Item)} {use : Ty × String}
    (h : use ∈ blocks.flatten.flatMap Code.Item.uses) :
    ∃ items ∈ blocks, use ∈ items.flatMap Code.Item.uses := by
  obtain ⟨item, hitem, huse⟩ := List.mem_flatMap.mp h
  obtain ⟨items, hitems, hmem⟩ := List.mem_flatten.mp hitem
  exact ⟨items, hitems, List.mem_flatMap.mpr ⟨item, hmem, huse⟩⟩

theorem resolves_of_accessor {c : Schema.Class} {a : Accessor} {path : Path} {keys : List String}
    {use : Ty × String} (hc : c ∈ s.model.classes) (ha : EntityOf s artifacts c a)
    (hpath : s.classifierPath c.ident = .ok path)
    (hkeys : ∀ key ∈ keys, key ∈ (a.file s).inherentConstants)
    (huse : use ∈ keys.map (path.ty, ·)) : Resolves s artifacts facade facadeFile use := by
  obtain ⟨key, hkey, rfl⟩ := List.mem_map.mp huse
  exact .accessor hc ha hpath (hkeys key hkey)

theorem resolves_of_taskUses {items : List Code.Item}
    (h : TaskUses s artifacts facade facadeFile items)
    (hworld : "REAL_WORLD" ∈ facadeFile.inherentConstants) :
    ∀ use ∈ items.flatMap Code.Item.uses, Resolves s artifacts facade facadeFile use := by
  obtain ⟨first, classes, indexes, last, rfl, hfirst, hclasses, hindexes, hlast⟩ := h
  intro use huse
  rw [List.flatMap_append, List.flatMap_append, List.flatMap_append, hfirst, hlast, List.append_nil,
    List.mem_append, List.mem_append] at huse
  rcases huse with (huse | huse) | huse
  · rcases List.mem_pair.mp huse with rfl | rfl
    · exact .facade hworld
    · exact .facade hworld
  · obtain ⟨block, hblock, huse⟩ := mem_uses_flatten huse
    obtain ⟨c, hc, a, path, keys, ha, hpath, -, huses, hkeys⟩ := exists_left hclasses hblock
    exact resolves_of_accessor hc ha hpath hkeys (huses ▸ huse)
  · obtain ⟨block, hblock, huse⟩ := mem_uses_flatten huse
    obtain ⟨i, -, c, a, path, constant, keys, hclass, ha, hpath, -, -, huses, hconstant, hkeys⟩ :=
      exists_left hindexes hblock
    rw [huses, List.mem_append] at huse
    rcases huse with huse | huse
    · rcases List.mem_pair.mp huse with rfl | rfl
      · exact .facade hconstant
      · exact .facade hconstant
    · exact resolves_of_accessor (mem_classes_of_class? hclass) ha hpath hkeys huse

theorem resolves_of_fileOf (hclasses : ∀ c ∈ s.model.classes, ∃ a, EntityOf s artifacts c a)
    (hm : s.model.IndexesResolve) (hfacade : s.modelPath = .ok facade)
    (hplan : s.planFacade = .ok plan) {kind : ArtifactKind} {file : Code.File}
    (h : FileOf s kind file) :
    ∀ use ∈ file.uses, Resolves s artifacts facade (plan.file s) use := by
  have hworld : "REAL_WORLD" ∈ (plan.file s).inherentConstants := by
    rw [inherentConstants_facade]
    exact List.mem_cons_self
  -- nodes are known to the runtime by the names of their classes
  have hnode : ∀ c ∈ s.model.classes, ∀ path, s.classifierPath c.ident = .ok path →
      Resolves s artifacts facade (plan.file s) (path.ty, nodeNameConstant) := by
    intro c hc path hpath
    obtain ⟨a, ha⟩ := hclasses c hc
    exact .accessor hc ha hpath (nodeName_declared s a)
  intro use huse
  cases h with
  | enumeration _ =>
    rw [EnumPlan.uses_file] at huse
    exact absurd huse List.not_mem_nil
  | entity _ =>
    rw [Accessor.uses_file] at huse
    exact absurd huse List.not_mem_nil
  | plugin hplugin =>
    rw [Plugin.uses_file] at huse
    obtain ⟨path, hpath, rfl⟩ := List.mem_map.mp huse
    simp only [planPlugin, bind_eq_ok] at hplugin
    obtain ⟨_, -, accessors, haccessors, hplugin⟩ := hplugin
    rw [← Except.ok.inj hplugin] at hpath
    obtain ⟨c, hc, hpath⟩ := exists_left (mapM_eq_ok.mp haccessors) hpath
    exact hnode c hc path hpath
  | model hmodel =>
    rw [Facade.uses_file] at huse
    obtain ⟨factory, hfactory, rfl⟩ := List.mem_map.mp huse
    simp only [planFacade, bind_eq_ok] at hmodel
    obtain ⟨_, -, _, -, _, -, factories, hfactories, _, -, hmodel⟩ := hmodel
    rw [← Except.ok.inj hmodel] at hfactory
    obtain ⟨c, hc, hfactory⟩ := exists_left (mapM_eq_ok.mp hfactories) hfactory
    simp only [planFactory, bind_eq_ok] at hfactory
    obtain ⟨path, hpath, _, -, hfactory⟩ := hfactory
    rw [← Except.ok.inj hfactory]
    exact hnode c hc path hpath
  | taskApi hfunctions =>
    exact resolves_of_taskUses (taskUses hclasses hm hfacade hplan hfunctions) hworld use huse
  | @action facade' hfacade' =>
    obtain rfl : facade = facade' := Except.ok.inj (hfacade.symm.trans hfacade')
    rw [uses_otherWorldFile] at huse
    rcases List.mem_pair.mp huse with rfl | rfl
    · exact .facade hworld
    · exact .facade hworld
  | selection _ =>
    rw [Selection.uses_file] at huse
    exact absurd huse List.not_mem_nil
  | timeHelper typeName =>
    rw [uses_timeFile] at huse
    exact absurd huse List.not_mem_nil
  | moduleIndex names =>
    rw [uses_indexFile] at huse
    exact absurd huse List.not_mem_nil

end Scope

variable {m : Model} {config : Config} {artifacts : List Artifact}

/-- Where every index has a registered owner with all its members, each constant that an
artifact takes from another is declared by that one: by the facade, or by the accessor of
the class that it is taken from. -/
theorem used_constants_declared (hm : m.IndexesResolve)
    (h : (generate m config).outcome = .ok artifacts) :
    ∃ s facade plan api, Scope.of m config = .ok s ∧ s.modelPath = .ok facade ∧
      s.planFacade = .ok plan ∧ IsOnlyFile artifacts .model (plan.file s) ∧
      IsOnlyFile artifacts .taskApi api ∧
      TaskUses s artifacts facade (plan.file s) api.items ∧
      FacadeUses m.indexes (plan.file s) ∧
      (∀ c ∈ m.classes, ∃ a, Scope.EntityOf s artifacts c a ∧
        ∀ f ∈ (a.file s).members, WorksOn facade (plan.file s) f) ∧
      ∀ x ∈ artifacts, ∃ file, HasFile s x file ∧
        ∀ use ∈ file.uses, Resolves s artifacts facade (plan.file s) use := by
  obtain ⟨s, _, _, hs, hfacadeArtifact, hapi, hfacadeOnly, hapiOnly⟩ := Scope.generate_globals h
  have hclasses := fun c (hc : c ∈ m.classes) => Scope.exists_entityOf h hs hc
  obtain rfl := (Scope.of_eq_ok hs).1
  obtain ⟨plan, hplan, hrendered⟩ := bind_eq_ok.mp hfacadeArtifact
  obtain ⟨functions, hfunctions, hrenderedApi⟩ := bind_eq_ok.mp hapi
  obtain ⟨facade, hfacade⟩ : ∃ facade, s.modelPath = .ok facade := by
    simp only [Scope.planTaskApi, bind_eq_ok] at hfunctions
    obtain ⟨facade, hfacade, -⟩ := hfunctions
    exact ⟨facade, hfacade⟩
  refine ⟨s, facade, plan, s.taskApiFile functions, hs, hfacade, hplan, hfacadeOnly.file hrendered,
    hapiOnly.file hrenderedApi, Scope.taskUses hclasses hm hfacade hplan hfunctions,
    Scope.facadeUses hplan, fun c hc => ?_, fun x hx => ?_⟩
  · obtain ⟨a, ha⟩ := hclasses c hc
    exact ⟨a, ha, ha.worksOn hfacade hplan⟩
  · obtain ⟨file, hfile⟩ := Scope.hasFile_of_generate h hs x hx
    exact ⟨file, hfile, Scope.resolves_of_fileOf hclasses hm hfacade hplan hfile.1⟩

/-! ## A relation to a primitive, and an index over it -/

theorem indexesResolve_of_check (h : (m.indexes.all fun i =>
    (m.class? i.className).any fun c => i.properties.all fun name =>
      (c.property? name).isSome) = true) : m.IndexesResolve := by
  intro i hi
  obtain ⟨c, hc, hall⟩ := (Option.any_eq_true _ _).mp (List.all_eq_true.mp h i hi)
  exact ⟨c, hc, fun name hname => Option.isSome_iff_exists.mp (List.all_eq_true.mp hall name hname)⟩

theorem town_constants_declared :
    town.IndexesResolve ∧ ∃ artifacts s a, (generate town {}).outcome = .ok artifacts ∧
      Scope.EntityOf s artifacts resident a ∧
      "AGE_TYPE" ∈ (a.file s).inherentConstants ∧ "TAGS" ∈ (a.file s).inherentConstants := by
  have hresolve : town.IndexesResolve := indexesResolve_of_check (by decide +kernel)
  have hnames : ∀ name ∈ ["AGE_TYPE", "TAGS"],
      name ∈ resident.properties.flatMap taskConstants ∧ Code.identifier? name = some name := by
    decide +kernel
  obtain ⟨artifacts, h, -⟩ := town_generates
  obtain ⟨s, facade, plan, api, hs, -, -, -, -, ⟨_, _, _, _, -, -, hclasses, -, -⟩, -⟩ :=
    used_constants_declared hresolve h
  have hclass : resident ∈ s.model.classes := by
    rw [(Scope.of_eq_ok hs).1]
    exact Model.mem_classes.mpr rfl
  obtain ⟨items, -, a, path, keys, ha, -, hspells, -, hkeys⟩ := exists_right hclasses hclass
  have hdeclared : ∀ name ∈ ["AGE_TYPE", "TAGS"], name ∈ (a.file s).inherentConstants := by
    intro name hname
    obtain ⟨hasked, hspelled⟩ := hnames name hname
    obtain ⟨key, hkey, hspells⟩ := exists_right hspells hasked
    rw [Option.some.inj (hspelled.symm.trans hspells)]
    exact hkeys key (List.mem_cons_of_mem _ hkey)
  exact ⟨hresolve, artifacts, s, a, h, ha, hdeclared _ List.mem_cons_self,
    hdeclared _ (List.mem_cons_of_mem _ (List.mem_singleton.mpr rfl))⟩

end Generate
end TypedGraph
