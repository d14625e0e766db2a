/-
The names of the functions of the task api.

Such a name is a verb and a subject (`TaskName`).  No verb is the start of
another, so that names differ exactly when the pairs do, and whether all names
differ is a matter of the subjects under each verb.  A subject runs together what
a class and its property are called: `b_c` of `a` and `c` of `a_b` are one.
-/
import Mathlib.Data.List.Nodup
import TypedGraph.Proofs.Artifacts
import TypedGraph.Proofs.Identifiers

namespace TypedGraph

/-! ## Verbs and subjects -/

/-- A text is cut in one way after texts of which none is the start of another. -/
theorem eq_of_append_eq {α : Type} {text : α → String}
    (hstarts : ∀ v w, (text v).toList <+: (text w).toList → v = w) {v w : α} {a b : String}
    (h : text v ++ a = text w ++ b) : v = w ∧ a = b := by
  have hlist : (text v).toList ++ a.toList = (text w).toList ++ b.toList := by
    rw [← String.toList_append, ← String.toList_append]
    exact congrArg String.toList h
  have hverb : v = w := by
    have hv : (text v).toList <+: (text w).toList ++ b.toList :=
      hlist ▸ List.prefix_append (text v).toList a.toList
    have hw : (text w).toList <+: (text w).toList ++ b.toList := List.prefix_append _ _
    rcases List.prefix_or_prefix_of_prefix hv hw with hstart | hstart
    · exact hstarts v w hstart
    · exact (hstarts w v hstart).symm
  subst hverb
  exact ⟨rfl, String.toList_inj.mp (List.append_cancel_left hlist)⟩

/-- What the name of a task function starts with. -/
inductive TaskVerb
  | travel
  | create
  | set
  | get
  | add
  | traverse
  | findAll
  | index
deriving DecidableEq, Repr

namespace TaskVerb

def all : List TaskVerb := [.travel, .create, .set, .get, .add, .traverse, .findAll, .index]

def text : TaskVerb → String
  | .travel => "travel_in_"
  | .create => "create_"
  | .set => "set_"
  | .get => "get_"
  | .add => "add_to_"
  | .traverse => "traverse_"
  | .findAll => "find_all_"
  | .index => "index_"

/-- The kind of the properties that a verb is for. -/
def kind? : TaskVerb → Option Schema.PropertyKind
  | .set | .get => some .attribute
  | .add | .traverse => some .relation
  | _ => none

theorem mem_all (v : TaskVerb) : v ∈ all := by cases v <;> decide

theorem isVerb_text (v : TaskVerb) : Code.isVerb v.text = true := by cases v <;> decide

/-- No verb is the start of another. -/
theorem eq_of_starts {v w : TaskVerb} (h : v.text.toList <+: w.text.toList) : v = w := by
  have hall : ∀ v ∈ all, ∀ w ∈ all, v.text.toList.isPrefixOf w.text.toList = true → v = w := by
    decide
  exact hall v (mem_all v) w (mem_all w) (List.isPrefixOf_iff_prefix.mpr h)

end TaskVerb

structure TaskName where
  verb : TaskVerb
  subject : String
deriving DecidableEq, Repr

namespace TaskName

def text (n : TaskName) : String := n.verb.text ++ n.subject

theorem text_injective : Function.Injective text := by
  rintro ⟨v, a⟩ ⟨w, b⟩ h
  obtain ⟨rfl, rfl⟩ := eq_of_append_eq (fun _ _ => TaskVerb.eq_of_starts) h
  rfl

/-- The subjects that stand under a verb. -/
def subjects (v : TaskVerb) (names : List TaskName) : List String :=
  names.filterMap fun n => if n.verb = v then some n.subject else none

theorem subjects_nil (v : TaskVerb) : subjects v [] = [] := rfl

theorem subjects_cons (v : TaskVerb) (n : TaskName) (names : List TaskName) :
    subjects v (n :: names) =
      if n.verb = v then n.subject :: subjects v names else subjects v names := by
  by_cases hv : n.verb = v
  · rw [if_pos hv]
    exact List.filterMap_cons_some (if_pos hv)
  · rw [if_neg hv]
    exact List.filterMap_cons_none (if_neg hv)

theorem subjects_append (v : TaskVerb) (names names' : List TaskName) :
    subjects v (names ++ names') = subjects v names ++ subjects v names' :=
  List.filterMap_append

theorem subjects_flatMap {α : Type} (v : TaskVerb) (as : List α) (f : α → List TaskName) :
    subjects v (as.flatMap f) = as.flatMap fun a => subjects v (f a) := by
  induction as with
  | nil => rfl
  | cons a as ih => rw [List.flatMap_cons, subjects_append, ih, List.flatMap_cons]

theorem mem_subjects {v : TaskVerb} {names : List TaskName} {subject : String} :
    subject ∈ subjects v names ↔ ⟨v, subject⟩ ∈ names := by
  induction names with
  | nil => simp [subjects_nil]
  | cons n names ih =>
    obtain ⟨w, text⟩ := n
    rw [subjects_cons, List.mem_cons, TaskName.mk.injEq, ← ih]
    by_cases hv : w = v
    · simp [hv]
    · rw [if_neg hv]
      exact ⟨.inr, fun h => h.resolve_left fun heq => hv heq.1.symm⟩

/-- Names differ when the subjects under each verb do. -/
theorem nodup_iff {names : List TaskName} :
    (names.map text).Nodup ↔ ∀ v, (subjects v names).Nodup := by
  rw [List.nodup_map_iff text_injective]
  induction names with
  | nil => simp [subjects_nil]
  | cons n names ih =>
    rw [List.nodup_cons, ih]
    constructor
    · rintro ⟨hnew, hrest⟩ v
      rw [subjects_cons]
      by_cases hv : n.verb = v
      · rw [if_pos hv, List.nodup_cons, mem_subjects, ← hv]
        exact ⟨hnew, hrest _⟩
      · rw [if_neg hv]
        exact hrest v
    · intro h
      refine ⟨?_, fun v => ?_⟩
      · have hv := h n.verb
        rw [subjects_cons, if_pos rfl, List.nodup_cons, mem_subjects] at hv
        exact hv.1
      · have hv := h v
        rw [subjects_cons] at hv
        split at hv
        · exact (List.nodup_cons.mp hv).2
        · exact hv

end TaskName

/-! ## The names that a model asks for -/

namespace Schema

/-- What the actions on a property of a class are about. -/
def Class.taskSubject (c : Class) (p : Property) : String :=
  Code.spelled (Text.snakeCase c.name ++ "_" ++ Text.snakeCase p.name)

def Class.createSubject (c : Class) : String := Code.spelled (Text.snakeCase c.name ++ "_node")

def Index.spelledName (i : Index) : String := Code.spelled (Text.snakeCase i.name)

def Class.propertyTaskNames (c : Class) (p : Property) : List TaskName :=
  match p.kind with
  | .attribute => [⟨.set, c.taskSubject p⟩, ⟨.get, c.taskSubject p⟩]
  | .relation => [⟨.add, c.taskSubject p⟩, ⟨.traverse, c.taskSubject p⟩]

def Class.taskNames (c : Class) : List TaskName :=
  ⟨.create, c.createSubject⟩ :: c.properties.flatMap c.propertyTaskNames

def Index.taskNames (i : Index) : List TaskName :=
  [⟨.findAll, i.spelledName⟩, ⟨.index, i.spelledName⟩]

namespace Model

/-- The functions of the task api, in the order they are written. -/
def taskNames (m : Model) : List TaskName :=
  [⟨.travel, "real_world"⟩, ⟨.travel, "planned_world"⟩] ++ m.classes.flatMap Class.taskNames ++
    m.indexes.flatMap Index.taskNames ++
    [⟨.get, "planned_version_node"⟩, ⟨.get, "real_version_node"⟩]

/-- The subjects of all properties of one kind. -/
def taskSubjects (m : Model) (kind : PropertyKind) : List String :=
  m.classes.flatMap fun c => (c.properties.filter (kind == ·.kind)).map c.taskSubject

/-- No two functions of the task api are about the same. -/
structure TasksApart (m : Model) : Prop where
  created : (m.classes.map Class.createSubject).Nodup
  attributes : (m.taskSubjects .attribute).Nodup
  relations : (m.taskSubjects .relation).Nodup
  indexes : (m.indexes.map Index.spelledName).Nodup
  planned : "planned_version_node" ∉ m.taskSubjects .attribute
  real : "real_version_node" ∉ m.taskSubjects .attribute

end Model
end Schema

namespace TaskName

open Schema (Index Model Property PropertyKind)

variable {v : TaskVerb}

theorem subjects_property (c : Schema.Class) (p : Property) :
    subjects v (c.propertyTaskNames p) =
      if v.kind? = some p.kind then [c.taskSubject p] else [] := by
  rw [Schema.Class.propertyTaskNames]
  cases p.kind <;> cases v <;> rfl

theorem subjects_properties (c : Schema.Class) (ps : List Property) :
    subjects v (ps.flatMap c.propertyTaskNames) =
      (ps.filter fun p => v.kind? == some p.kind).map c.taskSubject := by
  induction ps with
  | nil => rfl
  | cons p ps ih =>
    rw [List.flatMap_cons, subjects_append, subjects_property, ih, List.filter_cons]
    by_cases hkind : v.kind? = some p.kind
    · simp [hkind]
    · simp [hkind]

theorem subjects_class (c : Schema.Class) :
    subjects v c.taskNames = (if .create = v then [c.createSubject] else []) ++
      (c.properties.filter fun p => v.kind? == some p.kind).map c.taskSubject := by
  rw [Schema.Class.taskNames, subjects_cons, subjects_properties]
  split <;> rfl

theorem subjects_index (i : Index) :
    subjects v i.taskNames = if v = .findAll ∨ v = .index then [i.spelledName] else [] := by
  cases v <;> rfl

theorem subjects_taskNames (m : Model) :
    subjects v m.taskNames =
      match v with
      | .travel => ["real_world", "planned_world"]
      | .create => m.classes.map Schema.Class.createSubject
      | .set => m.taskSubjects .attribute
      | .get => m.taskSubjects .attribute ++ ["planned_version_node", "real_version_node"]
      | .add | .traverse => m.taskSubjects .relation
      | .findAll | .index => m.indexes.map Index.spelledName := by
  have hnone : m.indexes.flatMap (fun _ => ([] : List String)) = [] :=
    List.flatMap_eq_nil_iff.mpr fun _ _ => rfl
  simp only [Model.taskNames, subjects_append, subjects_flatMap, subjects_class, subjects_index]
  cases v <;>
    simp [TaskVerb.kind?, subjects_cons, subjects_nil, List.map_eq_flatMap, Model.taskSubjects,
      hnone]

/-- The names of a model's tasks differ when no two tasks are about the same. -/
theorem nodup_taskNames (m : Model) : (m.taskNames.map text).Nodup ↔ m.TasksApart := by
  have hget : (m.taskSubjects .attribute ++ ["planned_version_node", "real_version_node"]).Nodup ↔
      (m.taskSubjects .attribute).Nodup ∧ "planned_version_node" ∉ m.taskSubjects .attribute ∧
        "real_version_node" ∉ m.taskSubjects .attribute := by
    rw [List.nodup_append_comm]
    simp
    tauto
  rw [nodup_iff]
  constructor
  · intro h
    have hsubjects := fun v => subjects_taskNames (v := v) m ▸ h v
    obtain ⟨hattributes, hplanned, hreal⟩ := hget.mp (hsubjects .get)
    exact ⟨hsubjects .create, hattributes, hsubjects .add, hsubjects .index, hplanned, hreal⟩
  · intro h v
    rw [subjects_taskNames]
    cases v with
    | travel => exact (by decide : ["real_world", "planned_world"].Nodup)
    | create => exact h.created
    | set => exact h.attributes
    | get => exact hget.mpr ⟨h.attributes, h.planned, h.real⟩
    | add | traverse => exact h.relations
    | findAll | index => exact h.indexes

end TaskName

/-! ## The functions of the task api -/

namespace Code

def Item.functionName? : Item → Option String
  | .function _ _ signature _ => some signature.name
  | _ => none

/-- The functions that a file declares, apart from those of its types. -/
def File.functionNames (f : File) : List String := f.items.filterMap Item.functionName?

end Code

namespace Generate

open Schema (Index Model Property)
open Code (Path)

/-- The names of what a traversal plans, when each step plans what its element
asks for. -/
theorem map_flatten_of_mapM {ε α β γ δ : Type} {plan : α → Except ε (List β)} {f : β → γ}
    {g : α → List δ} {t : δ → γ} {as : List α} {planned : List (List β)}
    (hplan : ∀ a bs, plan a = .ok bs → bs.map f = (g a).map t) (h : as.mapM plan = .ok planned) :
    planned.flatten.map f = (as.flatMap g).map t := by
  rw [List.map_flatten, ← List.flatMap_def, flatMap_of_mapM hplan h, List.map_flatMap]

/-- A checked name that starts with a verb is that of the verb and what is
spelled after it. -/
theorem checkedIdent_verb {verb text context name : String} (hverb : Code.isVerb verb = true)
    (h : checkedIdent (verb ++ text) context = .ok name) : name = verb ++ Code.spelled text :=
  Code.identifier?_verb hverb (checkedIdent_eq_ok.mp h)

theorem TaskFunction.functionName?_item (s : Scope) (f : TaskFunction) :
    (f.item s).functionName? = some f.name := by
  cases f <;> rfl

namespace Scope

variable {s : Scope} {m : Model} {config : Config} {c : Schema.Class} {p : Property} {i : Index}
  {functions : List TaskFunction} {accessor : Path}

theorem planPropertyTasks_names
    (h : planPropertyTasks (Text.snakeCase c.name) accessor p = .ok functions) :
    functions.map TaskFunction.name = (c.propertyTaskNames p).map TaskName.text := by
  unfold planPropertyTasks at h
  unfold Schema.Class.propertyTaskNames
  match hkind : p.kind with
  | .attribute =>
    simp only [hkind, bind_eq_ok] at h
    obtain ⟨constant, -, typeConstant, -, set, hset, get, hget, h⟩ := h
    rw [← Except.ok.inj h]
    show [set, get] = _
    rw [checkedIdent_verb (TaskVerb.isVerb_text .set) hset,
      checkedIdent_verb (TaskVerb.isVerb_text .get) hget]
    rfl
  | .relation =>
    simp only [hkind, bind_eq_ok] at h
    obtain ⟨constant, -, add, hadd, traverse, htraverse, h⟩ := h
    rw [← Except.ok.inj h]
    show [add, traverse] = _
    rw [checkedIdent_verb (TaskVerb.isVerb_text .add) hadd,
      checkedIdent_verb (TaskVerb.isVerb_text .traverse) htraverse]
    rfl

theorem planClassTasks_names (h : s.planClassTasks c = .ok functions) :
    functions.map TaskFunction.name = c.taskNames.map TaskName.text := by
  simp only [planClassTasks, bind_eq_ok] at h
  obtain ⟨accessor, -, create, hcreate, tasks, htasks, h⟩ := h
  have hrest := map_flatten_of_mapM (fun p fs hfs => planPropertyTasks_names (c := c) hfs) htasks
  rw [String.append_assoc] at hcreate
  rw [← Except.ok.inj h, List.map_cons, hrest, Schema.Class.taskNames, List.map_cons]
  show create :: _ = _
  rw [checkedIdent_verb (TaskVerb.isVerb_text .create) hcreate]
  rfl

theorem planIndexTasks_names (h : s.planIndexTasks i = .ok functions) :
    functions.map TaskFunction.name = i.taskNames.map TaskName.text := by
  simp only [planIndexTasks, bind_eq_ok] at h
  obtain ⟨facade, -, constant, -, findAll, hfindAll, add, hadd, _, -, accessor, -, members, -,
    h⟩ := h
  rw [← Except.ok.inj h]
  show [findAll, add] = _
  rw [checkedIdent_verb (TaskVerb.isVerb_text .findAll) hfindAll,
    checkedIdent_verb (TaskVerb.isVerb_text .index) hadd]
  rfl

theorem planTaskApi_names (h : s.planTaskApi = .ok functions) :
    functions.map TaskFunction.name = s.model.taskNames.map TaskName.text := by
  simp only [planTaskApi, bind_eq_ok] at h
  obtain ⟨facade, -, action, -, classes, hclasses, indexes, hindexes, h⟩ := h
  have hofClasses := map_flatten_of_mapM (fun c fs hfs => planClassTasks_names hfs) hclasses
  have hofIndexes := map_flatten_of_mapM (fun i fs hfs => planIndexTasks_names hfs) hindexes
  rw [← Except.ok.inj h]
  simp only [List.map_append, hofClasses, hofIndexes, Model.taskNames]
  rfl

end Scope

variable {m : Model} {config : Config} {artifacts : List Artifact}

theorem functionNames_taskApiFile (s : Scope) (functions : List TaskFunction) :
    (s.taskApiFile functions).functionNames = functions.map TaskFunction.name := by
  have hitem : Code.Item.functionName? ∘ TaskFunction.item s = some ∘ TaskFunction.name :=
    funext fun f => TaskFunction.functionName?_item s f
  rw [Code.File.functionNames, Scope.taskApiFile, List.filterMap_map, hitem, List.filterMap_eq_map]

theorem taskApi_of_generate (h : (generate m config).outcome = .ok artifacts) :
    ∃ file, IsOnlyFile artifacts .taskApi file ∧ file.functionNames = m.taskNames.map TaskName.text := by
  obtain ⟨s, facade, api, hs, -, hapi, -, honly⟩ := Scope.generate_globals h
  simp only [Scope.taskApiArtifact, bind_eq_ok] at hapi
  obtain ⟨functions, hfunctions, hrender⟩ := hapi
  refine ⟨_, honly.file hrender, ?_⟩
  have hnames := Scope.planTaskApi_names hfunctions
  rw [(Scope.of_eq_ok hs).1] at hnames
  rw [functionNames_taskApiFile, hnames]

/-- A run declares each function of the task api once exactly when no two of them
are about the same. -/
theorem task_functions_distinct_iff (h : (generate m config).outcome = .ok artifacts) :
    ∃ file, IsOnlyFile artifacts .taskApi file ∧ file.functionNames = m.taskNames.map TaskName.text ∧
      (file.functionNames.Nodup ↔ m.TasksApart) := by
  obtain ⟨file, hfile, hnames⟩ := taskApi_of_generate h
  refine ⟨file, hfile, hnames, ?_⟩
  rw [hnames]
  exact TaskName.nodup_taskNames m

theorem garage_tasks_distinct :
    ∃ artifacts file, (generate garage {}).outcome = .ok artifacts ∧ IsOnlyFile artifacts .taskApi file ∧
      file.functionNames.Nodup := by
  obtain ⟨artifacts, h⟩ := garage_generates
  obtain ⟨file, hfile, -, hdistinct⟩ := task_functions_distinct_iff h
  refine ⟨artifacts, file, h, hfile, hdistinct.mpr ?_⟩
  constructor <;> decide +kernel

/-- `b_c` of `A` and `c` of `A_b`. -/
def crossed : Model :=
  let a := ({ ident := .of none "A" } : Schema.Class).addProperty
    { name := "b_c", type := "String", kind := .attribute }
  let ab := ({ ident := .of none "A_b" } : Schema.Class).addProperty
    { name := "c", type := "String", kind := .attribute }
  (Model.empty.add (.ofClass a)).add (.ofClass ab)

/-- The task api sets both as `set_a_b_c`. -/
theorem crossed_tasks_clash :
    ∃ artifacts file, (generate crossed {}).outcome = .ok artifacts ∧ IsOnlyFile artifacts .taskApi file ∧
      ¬ file.functionNames.Nodup := by
  have h : (generate crossed {}).outcome.isOk = true := by decide +kernel
  obtain ⟨artifacts, h⟩ := exists_ok_of_isOk h
  obtain ⟨file, hfile, hnames⟩ := taskApi_of_generate h
  refine ⟨artifacts, file, h, hfile, ?_⟩
  rw [hnames]
  decide +kernel

end Generate
end TypedGraph
