/-
The factories that a plugin registers, and the artifacts of a run in their order.

The task api refuses a second class of one simple name, and the simple name of a
class ends its node name: no two classes of a run are known to a store by one name.
The plugin writes those names as constants of accessor types, and the path of such a
type is made of identifiers alone.  Two classes share one only if their names are
spellings of one identifier (`ClassFactories.shared`).
-/
import TypedGraph.Proofs.AccessorNames
import TypedGraph.Proofs.ModuleTree
import TypedGraph.Proofs.QualifiedNames

namespace TypedGraph

/-- What is said of the elements of a list is said of what they stand for. -/
theorem map_eq_of_forall₂ {α β γ : Type} {R : α → β → Prop} {f : β → γ} {g : α → γ} {as : List α}
    {bs : List β} (hstep : ∀ a b, R a b → f b = g a) (h : List.Forall₂ R as bs) :
    bs.map f = as.map g := by
  induction h with
  | nil => rfl
  | cons hhead _ ih => rw [List.map_cons, List.map_cons, hstep _ _ hhead, ih]

namespace Code

theorem Path.join_inj {p : Path} {names names' : List String} (h : p.join names = p.join names') :
    names = names' := by
  have hsegments := List.append_cancel_left (congrArg Path.segments h)
  exact List.map_injective_iff.mpr (fun _ _ => Segment.plain.inj) hsegments

/-! ## Registrations in a file -/

def Member.statements : Member → List Stmt
  | .function _ _ _ (some body) => body
  | _ => []

/-- The name and the factory of a statement that registers a factory. -/
def Stmt.registration? : Stmt → Option (Expr × Expr)
  | .expr (.method (.method _ "get_or_create_declaration" _ [name]) "set_factory" _ [factory]) _ =>
    some (name, factory)
  | _ => none

/-- The registrations of a file in their order. -/
def File.registrations (f : File) : List (Expr × Expr) :=
  (f.members.flatMap Member.statements).filterMap Stmt.registration?

end Code

/-! ## Node names -/

namespace Schema

/-- Every classifier is named by a text. -/
def Model.NamesParsed (m : Model) : Prop :=
  ∀ f ∈ m.classifiers, ∃ text, QualifiedName.parse text = .ok f.ident

theorem Model.namesParsed_iff {m : Model} : m.NamesParsed ↔
    ∀ f ∈ m.classifiers, (QualifiedName.parse f.ident.fqn).toOption = some f.ident := by
  refine forall_congr' fun f => imp_congr_right fun _ => ⟨?_, fun h => ⟨f.ident.fqn, ?_⟩⟩
  · rintro ⟨text, h⟩
    rw [QualifiedName.parse_fqn h]
    rfl
  · cases hparse : QualifiedName.parse f.ident.fqn with
    | error e =>
      rw [hparse] at h
      cases h
    | ok q =>
      rw [hparse] at h
      exact congrArg Except.ok (Option.some.inj h)

instance (m : Model) : Decidable m.NamesParsed := decidable_of_iff _ Model.namesParsed_iff.symm

end Schema

namespace Generate

open Schema (Classifier Model QualifiedName)
open Code (Expr Member Path Stmt)

namespace Scope

variable {s : Scope} {m : Model} {config : Config} {c d : Schema.Class} {a : Accessor}
  {artifacts global : List Artifact}

/-- A node name reads as a qualified name, and the last part of it is the simple
name of the class. -/
theorem parse_nodeName {q : QualifiedName} (hsimple : QualifiedName.IsSimple q.name)
    (hne : q.name ≠ "") : ∃ package, QualifiedName.parse (nodeName q) = .ok (.of package q.name) := by
  unfold nodeName
  cases q.modulePackage with
  | none => exact ⟨none, by rw [QualifiedName.parse_simple hsimple, if_neg hne]⟩
  | some package =>
    exact ⟨some package, by rw [QualifiedName.parse_dotted package hsimple, if_neg hne]⟩

theorem name_eq_of_nodeName {p q : QualifiedName} {text text' : String}
    (hp : QualifiedName.parse text = .ok p) (hq : QualifiedName.parse text' = .ok q)
    (h : nodeName p = nodeName q) : p.name = q.name := by
  obtain ⟨hpsimple, hpne, -⟩ := QualifiedName.parse_eq_ok.mp hp
  obtain ⟨hqsimple, hqne, -⟩ := QualifiedName.parse_eq_ok.mp hq
  obtain ⟨package, hread⟩ := parse_nodeName hpsimple hpne
  obtain ⟨package', hread'⟩ := parse_nodeName hqsimple hqne
  rw [h, hread'] at hread
  have hof : QualifiedName.of package' q.name = .of package p.name := Except.ok.inj hread
  exact (congrArg QualifiedName.name hof).symm

theorem checkClassNames_ok {seen : List String} {classes : List Schema.Class}
    (h : checkClassNames seen classes = .ok ()) :
    (∀ c ∈ classes, c.name ∉ seen) ∧ (classes.map Schema.Class.name).Nodup := by
  induction classes generalizing seen with
  | nil => exact ⟨fun c hc => absurd hc List.not_mem_nil, List.nodup_nil⟩
  | cons c rest ih =>
    rw [checkClassNames] at h
    split at h
    · cases h
    · next hnew =>
      obtain ⟨hunseen, hrest⟩ := ih h
      refine ⟨fun d hd => ?_, ?_⟩
      · rcases List.mem_cons.mp hd with rfl | hd
        · exact fun hmem => hnew (List.contains_iff_mem.mpr hmem)
        · exact fun hmem => hunseen d hd (List.mem_cons_of_mem _ hmem)
      · rw [List.map_cons, List.nodup_cons]
        refine ⟨fun hmem => ?_, hrest⟩
        obtain ⟨d, hd, hname⟩ := List.mem_map.mp hmem
        exact hunseen d hd (hname ▸ List.mem_cons_self)

/-- No two classes of a run have one simple name. -/
theorem nodup_names (h : s.globalArtifacts = .ok global) :
    (s.model.classes.map Schema.Class.name).Nodup := by
  simp only [globalArtifacts, taskArtifacts, bind_eq_ok] at h
  obtain ⟨_, -, _, -, _, ⟨_, hcheck, -⟩, -⟩ := h
  exact (checkClassNames_ok hcheck).2

theorem nodup_nodeNames (hparsed : s.model.NamesParsed)
    (hnames : (s.model.classes.map Schema.Class.name).Nodup) :
    (s.model.classes.map fun c => nodeName c.ident).Nodup := by
  have hparse : ∀ c ∈ s.model.classes, ∃ text, QualifiedName.parse text = .ok c.ident := fun c hc =>
    hparsed _ (Model.mem_classifiers_of_class hc)
  refine (List.nodup_map_iff_inj_on hnames.of_map).mpr fun c hc d hd heq => ?_
  obtain ⟨text, htext⟩ := hparse c hc
  obtain ⟨text', htext'⟩ := hparse d hd
  exact List.inj_on_of_nodup_map hnames hc hd (name_eq_of_nodeName htext htext' heq)

theorem planAccessor_nodeName (h : (s.planAccessor c).outcome = .ok a) :
    a.nodeName = nodeName c.ident := by
  simp only [planAccessor, Traced.outcome_bind, Traced.outcome_lift, bind_eq_ok] at h
  obtain ⟨_, -, _, -, _, -, _, -, _, -, h⟩ := h
  rw [← Except.ok.inj h]

/-- An accessor has one constant for the node name, which holds it. -/
theorem EntityOf.nodeName (h : EntityOf s artifacts c a) :
    (a.file s).constantsNamed nodeNameConstant =
      [textConstant "pub " nodeNameConstant (Scope.nodeName c.ident)] := by
  have hdistinct : (a.file s).inherentConstants.Nodup := by
    rw [Accessor.inherentConstants_file]
    exact planProperties_declare (planAccessor_ok h.planned).2 (List.nodup_singleton _)
  rw [← planAccessor_nodeName h.planned]
  refine Code.File.constantsNamed_eq hdistinct ?_ rfl
  simp only [Code.File.inherentMembers, Accessor.file, List.flatMap_cons, List.mem_append]
  exact .inr (.inl (.inl (.inl (.inl (.inl (List.mem_singleton.mpr rfl))))))

end Scope

/-! ## Accessor types -/

namespace Scope

variable {s : Scope} {q r : QualifiedName} {path : Path}

/-- The path of a type is made of the identifiers in its package, its module and its
name. -/
theorem classifierPath_eq_ok : s.classifierPath q = .ok path ↔ ∃ segments module type,
    List.Forall₂ (fun n segment => Code.identifier? n = some segment)
      (packageSegments q.modulePackage) segments ∧
    Code.identifier? (Text.snakeCase q.name) = some module ∧ Code.identifier? q.name = some type ∧
    path = s.root.join (segments ++ [module, type]) := by
  simp only [classifierPath, artifactPath, bind_eq_ok, mapM_eq_ok, checkedIdent_eq_ok]
  constructor
  · rintro ⟨segments, hsegments, module, hmodule, type, htype, h⟩
    exact ⟨segments, module, type, hsegments, hmodule, htype, (Except.ok.inj h).symm⟩
  · rintro ⟨segments, module, type, hsegments, hmodule, htype, rfl⟩
    exact ⟨segments, hsegments, module, hmodule, type, htype, rfl⟩

/-- Names that hold the same identifiers in the same package have one type path. -/
theorem classifierPath_of_identifiers (hpackage : q.modulePackage = r.modulePackage)
    (hmodule : Code.identifier? (Text.snakeCase q.name) = Code.identifier? (Text.snakeCase r.name))
    (htype : Code.identifier? q.name = Code.identifier? r.name)
    (h : s.classifierPath q = .ok path) : s.classifierPath r = .ok path := by
  rw [classifierPath_eq_ok, hpackage, hmodule, htype] at h
  exact classifierPath_eq_ok.mpr h

/-- Types at one path are called by one identifier. -/
theorem identifier_eq_of_path (hq : s.classifierPath q = .ok path)
    (hr : s.classifierPath r = .ok path) : Code.identifier? q.name = Code.identifier? r.name := by
  obtain ⟨segments, module, type, -, -, htype, rfl⟩ := classifierPath_eq_ok.mp hq
  obtain ⟨segments', module', type', -, -, htype', hpath⟩ := classifierPath_eq_ok.mp hr
  have hnames := Code.Path.join_inj hpath
  have hlast := congrArg List.getLast? hnames
  simp only [List.getLast?_append, List.getLast?_cons_cons, List.getLast?_singleton,
    Option.some_or] at hlast
  rw [htype, htype', hlast]

end Scope

/-! ## The plugin -/

/-- The closure that makes a node of an accessor type. -/
def Plugin.factory (s : Scope) (accessor : Path) : Expr :=
  .closure false [("world", some i64), ("time", some i64), ("id", some i64),
    ("graph", some (s.hostType ["Graph"]))] (.block [.value (.call (s.hostValue ["Node", "new"])
      [.call (.ofType accessor.ty "new")
        [.name "world", .name "time", .name "id", .name "graph"]])])

/-- The constant of an accessor type that a plugin takes its node name from, with the
factory for its nodes. -/
def Plugin.registration (s : Scope) (accessor : Path) : Expr × Expr :=
  (.ofType accessor.ty nodeNameConstant, factory s accessor)

/-- Two different texts that hold one identifier. -/
def SpelledAlike (name name' : String) : Prop :=
  name ≠ name' ∧ Code.identifier? name = Code.identifier? name'

/-- The file registers one factory for each class, in the order of classes, and calls
for no other.  A name stands for two factories when the paths of two types are one, and
then their classes are called by two spellings of one identifier. -/
structure ClassFactories (s : Scope) (file : Code.File) : Prop where
  registrations : List.Forall₂ (fun (c : Schema.Class) registration =>
      ∃ path, s.classifierPath c.ident = .ok path ∧ registration = Plugin.registration s path)
    s.model.classes file.registrations
  declarations : file.members.flatMap (Member.callsOf "get_or_create_declaration") =
    file.registrations.map fun registration => [registration.1]
  factories : file.members.flatMap (Member.callsOf "set_factory") =
    file.registrations.map fun registration => [registration.2]
  nodup_iff : (file.registrations.map Prod.fst).Nodup ↔ ∀ c ∈ s.model.classes,
    ∀ d ∈ s.model.classes, s.classifierPath c.ident = s.classifierPath d.ident → c = d
  shared : ∀ c ∈ s.model.classes, ∀ d ∈ s.model.classes,
    s.classifierPath c.ident = s.classifierPath d.ident → c = d ∨ SpelledAlike c.name d.name

namespace Plugin

variable {s : Scope} {p : Plugin}

theorem registrations_file (s : Scope) (p : Plugin) :
    (p.file s).registrations = p.accessors.map (registration s) := by
  have hregister : Stmt.registration? ∘ register s = some ∘ registration s := rfl
  have hstatements : (p.file s).members.flatMap Member.statements =
      p.accessors.map (register s) := by
    simp [Code.File.members, file, Member.statements, traitMethod]
  rw [Code.File.registrations, hstatements, List.filterMap_map, hregister,
    ← List.filterMap_map, List.filterMap_some]

theorem registration_injective (s : Scope) :
    Function.Injective fun accessor => (registration s accessor).1 := by
  intro path path' h
  have hty : path.ty = path'.ty := (Expr.assoc.inj h).1
  cases path
  cases path'
  obtain ⟨rfl, rfl⟩ := Code.Ty.path.inj hty
  rfl

theorem callsOf_register (s : Scope) (accessors : List Path) :
    Stmt.collectAll (Code.callsTo "get_or_create_declaration") (accessors.map (register s)) =
      accessors.map (fun accessor => [(registration s accessor).1]) ∧
    Stmt.collectAll (Code.callsTo "set_factory") (accessors.map (register s)) =
      accessors.map (fun accessor => [(registration s accessor).2]) := by
  induction accessors with
  | nil => exact ⟨rfl, rfl⟩
  | cons accessor rest ih =>
    obtain ⟨hnames, hfactories⟩ := ih
    constructor
    · rw [List.map_cons, List.map_cons, ← hnames]
      simp [register, registration, callee?_hostValue]
    · rw [List.map_cons, List.map_cons, ← hfactories]
      simp [register, registration, factory, callee?_hostValue]

end Plugin

theorem Scope.planPlugin_ok {s : Scope} {p : Plugin} (h : s.planPlugin = .ok p) :
    List.Forall₂ (fun (c : Schema.Class) path => s.classifierPath c.ident = .ok path)
      s.model.classes p.accessors := by
  simp only [planPlugin, bind_eq_ok] at h
  obtain ⟨_, -, accessors, haccessors, h⟩ := h
  rw [← Except.ok.inj h]
  exact mapM_eq_ok.mp haccessors

theorem Plugin.classFactories {s : Scope} {p : Plugin}
    (hnames : (s.model.classes.map Schema.Class.name).Nodup) (h : s.planPlugin = .ok p) :
    ClassFactories s (p.file s) := by
  have hpaths := Scope.planPlugin_ok h
  have hmembers : ∀ name, (p.file s).members.flatMap (Member.callsOf name) =
      Stmt.collectAll (Code.callsTo name) (p.accessors.map (register s)) := by
    intro name
    simp [Code.File.members, file, traitMethod]
  obtain ⟨hdeclarations, hfactories⟩ := callsOf_register s p.accessors
  have hclasses : s.model.classes.map (fun c => s.classifierPath c.ident) =
      p.accessors.map Except.ok :=
    (map_eq_of_forall₂ (fun _ _ hpath => hpath.symm) hpaths).symm
  have hok : Function.Injective (Except.ok : Path → Except GenerateError Path) := fun _ _ =>
    Except.ok.inj
  refine ⟨?_, ?_, ?_, ?_, fun c hc d hd hpath => ?_⟩
  · rw [registrations_file, List.forall₂_map_right_iff]
    exact hpaths.imp fun c path hpath => ⟨path, hpath, rfl⟩
  · rw [hmembers, registrations_file, List.map_map]
    exact hdeclarations
  · rw [hmembers, registrations_file, List.map_map]
    exact hfactories
  · rw [registrations_file, List.map_map, ← List.nodup_map_iff_inj_on hnames.of_map, hclasses,
      List.nodup_map_iff hok]
    exact List.nodup_map_iff (registration_injective s)
  · by_cases hname : c.name = d.name
    · exact .inl (List.inj_on_of_nodup_map hnames hc hd hname)
    · obtain ⟨path, -, hcpath⟩ := exists_right hpaths hc
      exact .inr ⟨hname, Scope.identifier_eq_of_path hcpath (hpath.symm.trans hcpath)⟩

/-! ## The order of artifacts -/

/-- What an artifact is known by: its kind, its name and its package. -/
def Artifact.heading (x : Artifact) : ArtifactKind × String × Option String :=
  (x.kind, x.name, x.package)

/-- The heading of what is made for a classifier. -/
def ownHeading? : Classifier → Option (ArtifactKind × String × Option String)
  | .ofEnum e => some (.enumeration, e.ident.name, e.ident.modulePackage)
  | .ofClass c => some (.entity, c.name, c.ident.modulePackage)
  | .ofIndex _ => none

def indexHeading (package : List String) : ArtifactKind × String × Option String :=
  (.moduleIndex, package.getLast?.getD moduleIndexName,
    if package.isEmpty then none else some (".".intercalate package))

namespace Scope

/-- The headings of all artifacts before the module indexes. -/
def headings (s : Scope) : List (ArtifactKind × String × Option String) :=
  s.model.classifiers.filterMap ownHeading? ++
    [(.plugin, s.pluginName, s.targetPackage none), (.model, s.modelName, s.targetPackage none),
      (.taskApi, s.target.name ++ "TaskApi", s.taskPackage),
      (.action, otherWorldActionName, s.taskPackage)] ++
    s.model.classes.map (fun c => (.selection, "TaskFunctionSelect" ++ c.name, s.taskPackage)) ++
    [(.timeHelper, s.timeHelperName, s.targetPackage (some "time"))]

variable {s : Scope} {m : Model} {config : Config} {x : Artifact} {artifacts : List Artifact}

theorem heading_of_render {name : String} {package : Option String} {kind : ArtifactKind}
    {file : Code.File} (h : Artifact.render name package kind file = .ok x) :
    x.heading = (kind, name, package) := by
  rw [Artifact.render_ok h]
  rfl

theorem heading_classifierArtifact {f : Classifier} {made : Option Artifact}
    (h : (s.classifierArtifact f).outcome = .ok made) :
    made.map Artifact.heading = ownHeading? f := by
  cases f with
  | ofEnum e =>
    simp only [classifierArtifact, Traced.outcome_of, map_eq_pure_bind, bind_eq_ok] at h
    obtain ⟨y, hy, hmade⟩ := h
    obtain ⟨plan, -, hy⟩ := bind_eq_ok.mp hy
    rw [← Except.ok.inj hmade]
    exact congrArg some (heading_of_render hy)
  | ofClass c =>
    obtain ⟨y, hy, rfl⟩ := Traced.outcome_some_map.mp h
    obtain ⟨a, -, rfl⟩ := entityArtifact_ok hy
    rfl
  | ofIndex i =>
    rw [← Except.ok.inj h]
    rfl

theorem headings_classifierArtifacts {fs : List Classifier} {own : List Artifact}
    (h : (s.classifierArtifacts fs).outcome = .ok own) :
    own.map Artifact.heading = fs.filterMap ownHeading? := by
  induction fs generalizing own with
  | nil =>
    rw [← Except.ok.inj h]
    rfl
  | cons f rest ih =>
    simp only [classifierArtifacts, Traced.outcome_bind, bind_eq_ok] at h
    obtain ⟨made, hmade, others, hothers, h⟩ := h
    rw [← Except.ok.inj h, List.map_append, ih hothers]
    have hheading := heading_classifierArtifact hmade
    cases made with
    | none =>
      rw [List.filterMap_cons_none hheading.symm]
      rfl
    | some x =>
      rw [List.filterMap_cons_some hheading.symm]
      rfl

theorem heading_facade (h : s.facadeArtifact = .ok x) :
    x.heading = (.model, s.modelName, s.targetPackage none) := by
  obtain ⟨facade, hfacade, hx⟩ := bind_eq_ok.mp h
  simp only [planFacade, bind_eq_ok] at hfacade
  obtain ⟨_, -, _, -, _, -, _, -, _, -, hfacade⟩ := hfacade
  rw [heading_of_render hx, ← Except.ok.inj hfacade]

theorem heading_plugin (h : s.pluginArtifact = .ok x) :
    x.heading = (.plugin, s.pluginName, s.targetPackage none) := by
  obtain ⟨plugin, hplugin, hx⟩ := bind_eq_ok.mp h
  simp only [planPlugin, bind_eq_ok] at hplugin
  obtain ⟨_, -, _, -, hplugin⟩ := hplugin
  rw [heading_of_render hx, ← Except.ok.inj hplugin]

theorem heading_selection {c : Schema.Class} (h : s.selectionArtifact c = .ok x) :
    x.heading = (.selection, "TaskFunctionSelect" ++ c.name, s.taskPackage) := by
  obtain ⟨selection, hselection, hx⟩ := bind_eq_ok.mp h
  simp only [planSelection, bind_eq_ok] at hselection
  obtain ⟨_, -, _, -, _, -, _, -, hselection⟩ := hselection
  rw [heading_of_render hx, ← Except.ok.inj hselection]

/-- The artifacts before the module indexes are those of classifiers and the global
ones, each in its place. -/
theorem headings_of_parts {own global : List Artifact}
    (hown : (s.classifierArtifacts s.model.classifiers).outcome = .ok own)
    (hglobal : s.globalArtifacts = .ok global) :
    (own ++ global).map Artifact.heading = s.headings := by
  obtain ⟨plugin, facade, api, action, selections, time, hplugin, hfacade, hapi, haction,
    hselections, htime, rfl⟩ := globalArtifacts_eq hglobal
  obtain ⟨functions, -, hapi⟩ := bind_eq_ok.mp hapi
  obtain ⟨path, -, haction⟩ := bind_eq_ok.mp haction
  obtain ⟨typeName, -, htime⟩ := bind_eq_ok.mp htime
  have hselected : selections.map Artifact.heading = s.model.classes.map fun c =>
      (.selection, "TaskFunctionSelect" ++ c.name, s.taskPackage) :=
    map_eq_of_forall₂ (fun _ _ hx => heading_selection hx) hselections
  simp only [headings, List.map_append, List.map_cons, List.map_nil, heading_plugin hplugin,
    heading_facade hfacade, heading_of_render hapi, heading_of_render haction,
    heading_of_render htime, hselected, headings_classifierArtifacts hown, List.append_assoc]

theorem headings_moduleIndexes {indexes : List Artifact}
    (h : moduleIndexes artifacts = .ok indexes) :
    ∃ packages : PackageMap, packages.Lists artifacts ∧
      indexes.map Artifact.heading = packages.keys.map indexHeading := by
  simp only [moduleIndexes, bind_eq_ok] at h
  obtain ⟨packages, hpackages, _, -, h⟩ := h
  refine ⟨packages, PackageMap.lists_ofArtifacts hpackages, ?_⟩
  rw [← Std.TreeMap.map_fst_toList_eq_keys, List.map_map]
  refine map_eq_of_forall₂ (fun entry x hx => ?_) (mapM_eq_ok.mp h)
  obtain ⟨names, -, hx⟩ := bind_eq_ok.mp hx
  exact heading_of_render hx

end Scope

/-- The artifacts are those of enumerations and classes in the order of their names,
the plugin, the facade, the task api, the action that changes worlds, the selections of
classes, the time helper, and an index for each package, in the order of packages. -/
structure IsListing (s : Scope) (artifacts : List Artifact) (packages : List (List String)) :
    Prop where
  headings : artifacts.map Artifact.heading = s.headings ++ packages.map indexHeading
  classifiers_ascend : (s.model.classifiers.map Classifier.fqn).Pairwise fun a b =>
    compare a b = .lt
  packages_ascend : packages.Pairwise fun p q => orderSegments p q = .lt
  mem_packages : ∀ p, p ∈ packages ↔
    p = [] ∨ ∃ x ∈ artifacts, x.isModuleIndex = false ∧ p <+: x.segments

/-- Stores know no two classes by one name, and each accessor has one constant for the
name of its class. -/
structure HasNodeNames (s : Scope) (artifacts : List Artifact) : Prop where
  distinct : (s.model.classes.map fun c => Scope.nodeName c.ident).Nodup
  declared : ∀ c ∈ s.model.classes, ∃ a, Scope.EntityOf s artifacts c a ∧
    (a.file s).constantsNamed nodeNameConstant =
      [textConstant "pub " nodeNameConstant (Scope.nodeName c.ident)]

/-! ## Runs -/

namespace Scope

variable {m : Model} {config : Config} {artifacts : List Artifact} {s : Scope}

theorem hasNodeNames_of_generate (hparsed : m.NamesParsed)
    (h : (generate m config).outcome = .ok artifacts) (hs : Scope.of m config = .ok s) :
    HasNodeNames s artifacts := by
  obtain ⟨own, global, indexes, -, hglobal, -, -⟩ := parts_of_generate h hs
  obtain rfl := (of_eq_ok hs).1
  refine ⟨nodup_nodeNames hparsed (nodup_names hglobal), fun c hc => ?_⟩
  obtain ⟨a, ha⟩ := exists_entityOf h hs hc
  exact ⟨a, ha, ha.nodeName⟩

theorem classFactories_of_generate (h : (generate m config).outcome = .ok artifacts)
    (hs : Scope.of m config = .ok s) :
    ∃ plugin, IsOnlyFile artifacts .plugin plugin ∧ ClassFactories s plugin := by
  obtain ⟨own, global, indexes, -, hglobal, -, -⟩ := parts_of_generate h hs
  obtain ⟨plugin, hplugin, honly⟩ := exists_plugin h hs
  obtain ⟨plan, hplan, hrendered⟩ := bind_eq_ok.mp hplugin
  exact ⟨plan.file s, honly.file hrendered, Plugin.classFactories (nodup_names hglobal) hplan⟩

theorem isListing_of_generate (h : (generate m config).outcome = .ok artifacts)
    (hs : Scope.of m config = .ok s) : ∃ packages, IsListing s artifacts packages := by
  obtain ⟨own, global, indexes, hown, hglobal, hindexes, rfl⟩ := parts_of_generate h hs
  obtain rfl := (of_eq_ok hs).1
  obtain ⟨packages, hlists, hheadings⟩ := headings_moduleIndexes hindexes
  refine ⟨packages.keys, ?_, s.model.ascending_classifiers, Std.TreeMap.ordered_keys, fun p => ?_⟩
  · rw [List.map_append, headings_of_parts hown hglobal, hheadings]
  · rw [Std.TreeMap.mem_keys, hlists.mem]
    refine or_congr_right ⟨?_, ?_⟩
    · rintro ⟨x, hx, hbelow⟩
      exact ⟨x, List.mem_append_left _ hx, not_index_made hown hglobal x hx, hbelow⟩
    · rintro ⟨x, hx, hkind, hbelow⟩
      rcases List.mem_append.mp hx with hx | hx
      · exact ⟨x, hx, hbelow⟩
      · rw [Artifact.isModuleIndex, kind_moduleIndexes hindexes x hx] at hkind
        exact absurd hkind (by decide)

end Scope

variable {m : Model} {config : Config} {artifacts : List Artifact}

/-- Where the classifiers of a model are named by texts, the node names of classes are
distinct, the plugin registers one factory for each class, and the artifacts stand in
their order.  A registration takes the place of another only where two classes have one
type path, as they may when their names are two spellings of one identifier. -/
theorem classes_have_factories (hparsed : m.NamesParsed)
    (h : (generate m config).outcome = .ok artifacts) :
    ∃ s plugin packages, Scope.of m config = .ok s ∧ s.model = m ∧ HasNodeNames s artifacts ∧
      IsOnlyFile artifacts .plugin plugin ∧ ClassFactories s plugin ∧
      IsListing s artifacts packages := by
  obtain ⟨s, -, -, -, hs, -⟩ := Scope.generate_ok h
  obtain ⟨plugin, honly, hfactories⟩ := Scope.classFactories_of_generate h hs
  obtain ⟨packages, hlisting⟩ := Scope.isListing_of_generate h hs
  exact ⟨s, plugin, packages, hs, (Scope.of_eq_ok hs).1, Scope.hasNodeNames_of_generate hparsed h hs,
    honly, hfactories, hlisting⟩

/-! ## Names that are identifiers, and others -/

/-- Classes that are called by identifiers have factories under names of their own. -/
theorem ClassFactories.nodup_of_identifiers {s : Scope} {file : Code.File}
    (h : ClassFactories s file)
    (hnames : ∀ c ∈ s.model.classes, Code.identifier? c.name = some c.name) :
    (file.registrations.map Prod.fst).Nodup := by
  refine h.nodup_iff.mpr fun c hc d hd hpath => ?_
  rcases h.shared c hc d hd hpath with heq | ⟨hne, hidentifier⟩
  · exact heq
  · rw [hnames c hc, hnames d hd] at hidentifier
    exact absurd (Option.some.inj hidentifier) hne

theorem town_has_factories :
    town.NamesParsed ∧ ∃ artifacts s plugin packages,
      (generate town {}).outcome = .ok artifacts ∧ Scope.of town {} = .ok s ∧
      HasNodeNames s artifacts ∧ ClassFactories s plugin ∧
      (plugin.registrations.map Prod.fst).Nodup ∧ IsListing s artifacts packages := by
  have hcomputed : town.NamesParsed ∧
      ∀ name ∈ town.classes.map Schema.Class.name, Code.identifier? name = some name := by
    decide +kernel
  obtain ⟨hparsed, hidentifiers⟩ := hcomputed
  obtain ⟨artifacts, h, -⟩ := town_generates
  obtain ⟨s, plugin, packages, hs, hm, hnodes, -, hfactories, hlisting⟩ :=
    classes_have_factories hparsed h
  refine ⟨hparsed, artifacts, s, plugin, packages, h, hs, hnodes, hfactories,
    hfactories.nodup_of_identifiers fun c hc => ?_, hlisting⟩
  rw [hm] at hc
  exact hidentifiers c.name (List.mem_map_of_mem hc)

/-- Two classes of different names, one of which has a comment behind the identifier. -/
def twins : Model :=
  (Model.empty.add (.ofClass { ident := .of none "X" })).add (.ofClass { ident := .of none "X//c" })

/-- The accessors of both are of one type as paths have it, and the second factory takes
the place of the first. -/
theorem twins_share_factory :
    twins.NamesParsed ∧ ∃ artifacts s plugin, (generate twins {}).outcome = .ok artifacts ∧
      Scope.of twins {} = .ok s ∧ IsOnlyFile artifacts .plugin plugin ∧
      plugin.registrations.length = 2 ∧ ¬ (plugin.registrations.map Prod.fst).Nodup := by
  have hcomputed : (generate twins {}).outcome.isOk = true ∧ twins.NamesParsed ∧
      twins.classes.length = 2 ∧ Code.identifier? "X" = Code.identifier? "X//c" ∧
      Code.identifier? (Text.snakeCase "X") = Code.identifier? (Text.snakeCase "X//c") := by
    decide +kernel
  obtain ⟨hok, hparsed, hlength, htype, hmodule⟩ := hcomputed
  obtain ⟨artifacts, h⟩ := exists_ok_of_isOk hok
  obtain ⟨s, -, -, -, hs, -⟩ := Scope.generate_ok h
  obtain ⟨plugin, honly, hfactories⟩ := Scope.classFactories_of_generate h hs
  have hm := (Scope.of_eq_ok hs).1
  refine ⟨hparsed, artifacts, s, plugin, h, hs, honly, ?_, fun hnodup => ?_⟩
  · rw [← hfactories.registrations.length_eq, hm, hlength]
  · have hfirst : ({ ident := .of none "X" } : Schema.Class) ∈ s.model.classes := by
      rw [hm]
      exact Model.mem_classes.mpr rfl
    have hsecond : ({ ident := .of none "X//c" } : Schema.Class) ∈ s.model.classes := by
      rw [hm]
      exact Model.mem_classes.mpr rfl
    obtain ⟨_, -, path, hpath, -⟩ := exists_right hfactories.registrations hfirst
    have hpackage : (QualifiedName.of none "X").modulePackage =
        (QualifiedName.of none "X//c").modulePackage := rfl
    have hsame : s.classifierPath (.of none "X//c") = .ok path :=
      Scope.classifierPath_of_identifiers hpackage hmodule htype hpath
    have heq := hfactories.nodup_iff.mp hnodup _ hfirst _ hsecond (hpath.trans hsame.symm)
    exact absurd (congrArg Schema.Class.name heq) (by decide)

end Generate
end TypedGraph
