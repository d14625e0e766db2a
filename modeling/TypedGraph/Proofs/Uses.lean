/-
What generated code takes from other types.

`uses` lists the constants of types whose values a piece of code takes.  Of each kind
of file it is known from the plan of the file: accessors, selections and enumerations
take none, the plugin and the facade the node names of classes, and a function of the
task api what `TaskFunction.uses` says.
-/
import TypedGraph.Proofs.CallSites

namespace TypedGraph
namespace Code

/-- The items `<t>::n` whose values code takes.  What it only calls is not among them. -/
def itemsTaken : Collector (Ty × String) where
  item t segments := (segments.getLast?.map fun last => (t, last.name)).toList

abbrev Member.uses (f : Member) : List (Ty × String) := f.collect itemsTaken

abbrev Item.uses (i : Item) : List (Ty × String) := i.collect itemsTaken

def File.uses (f : File) : List (Ty × String) := f.items.flatMap Item.uses

@[simp] theorem itemsTaken_item (t : Ty) (n : String) :
    itemsTaken.item t [.plain n] = [(t, n)] := rfl

@[simp] theorem itemsTaken_call (n : Option String) (args : List Expr) :
    itemsTaken.call n args = [] := rfl

theorem passes_itemsTaken (names : List String) : ∀ n ∈ names, itemsTaken.Passes n :=
  fun _ _ _ => rfl

end Code

namespace Generate

open Code (Expr Stmt Member Item Path Ty itemsTaken passes_itemsTaken)

/-! ## What each file takes -/

theorem EnumPlan.uses_file (p : EnumPlan) : p.file.uses = [] := by
  simp [Code.File.uses, EnumPlan.file, Expr.collectAll_map, Code.Arm.collectAll_map]

theorem Selection.uses_file (s : Scope) (p : Selection) : (p.file s).uses = [] := by
  simp [Code.File.uses, Selection.file]

theorem Plugin.uses_file (s : Scope) (p : Plugin) :
    (p.file s).uses = p.accessors.map (·.ty, nodeNameConstant) := by
  have hregister : ∀ accessor : Path,
      (register s accessor).collect itemsTaken = [(accessor.ty, nodeNameConstant)] := by
    intro accessor
    simp [register]
  have hregisters : Stmt.collectAll itemsTaken (p.accessors.map (register s)) =
      p.accessors.map (·.ty, nodeNameConstant) := by
    rw [Stmt.collectAll_map, List.map_eq_flatMap]
    exact List.flatMap_congr fun accessor _ => hregister accessor
  simp [Code.File.uses, file, hregisters]

/-! ### The facade -/

/-- The facade asks for the names of the nodes that it makes. -/
theorem Facade.uses_file (s : Scope) (f : Facade) :
    (f.file s).uses = f.factories.map fun factory => (factory.accessor.ty, nodeNameConstant) := by
  have hconstants : f.constantMembers.flatMap Member.uses = [] :=
    List.flatMap_eq_nil_iff.mpr fun _ hf => collect_constantMembers hf
  have hconstructor : (f.constructor s).uses = [] :=
    (collect_constructor (fun _ => rfl) f).trans (ite_self _)
  have hmethods : (ownMethods s).flatMap Member.uses = [] :=
    List.flatMap_eq_nil_iff.mpr fun _ hf => collect_ownMethods (passes_itemsTaken _) hf
  have hfactories : (f.factories.map factoryMethod).flatMap Member.uses =
      f.factories.map fun factory => (factory.accessor.ty, nodeNameConstant) := by
    rw [List.flatMap_map, List.map_eq_flatMap]
    exact List.flatMap_congr fun factory _ => collect_factoryMethod (passes_itemsTaken _) factory
  have hqueries : (f.queries.flatMap (queryMethods s)).flatMap Member.uses = [] := by
    refine List.flatMap_eq_nil_iff.mpr fun _ hf => ?_
    obtain ⟨q, -, hf⟩ := List.mem_flatMap.mp hf
    exact collect_queryMethods (passes_itemsTaken _) hf
  have hmembers : (f.file s).uses = (f.file s).members.flatMap Member.uses := by
    simp only [Code.File.uses, Code.File.members, file, List.flatMap_cons, List.flatMap_nil,
      Item.collect, Expr.collect, Expr.collectAll, Code.itemsTaken_call, ite_self, List.nil_append,
      List.append_nil]
  rw [hmembers, members_file, List.flatMap_append, List.flatMap_append, List.flatMap_append,
    List.flatMap_append, List.flatMap_singleton, hconstants, hconstructor, hmethods, hfactories,
    hqueries, List.append_nil]
  rfl

theorem uses_otherWorldFile (s : Scope) (facade : Path) :
    (s.otherWorldFile facade).uses = [(facade.ty, "REAL_WORLD"), (facade.ty, "REAL_WORLD")] := by
  simp [Code.File.uses, Scope.otherWorldFile, Scope.evalBody, TaskFunction.plannedOrReal,
    moveClosure]

/-! ### Accessors -/

/-- An accessor takes constants from the facade alone, and by its path. -/
theorem Accessor.uses_file (s : Scope) (a : Accessor) : (a.file s).uses = [] := by
  have hmembers : (a.file s).uses = (a.file s).members.flatMap Member.uses := by
    simp only [Code.File.uses, Code.File.members, file, List.flatMap_cons, List.flatMap_nil,
      Item.collect, List.flatMap_append, List.nil_append, List.append_nil]
  rw [hmembers, List.flatMap_eq_nil_iff]
  intro f hf
  rcases isOwn_or_index hf with hown | ⟨m, -, rfl⟩
  · cases hown with
    | constant _ hf => exact collect_constants hf
    | access _ hf => exact collect_accessMethods (passes_itemsTaken _) (passes_itemsTaken _) hf
    | fixed _ hcollect => exact hcollect itemsTaken (fun _ => rfl) (fun _ => rfl)
  · exact collect_indexMethod (passes_itemsTaken _) m

/-! ### The task api -/

/-- The constants that a function of the task api takes from types. -/
def TaskFunction.uses : TaskFunction → List (Ty × String)
  | .travelInRealWorld facade | .travelInPlannedWorld facade => [(facade.ty, "REAL_WORLD")]
  | .create _ accessor => [(accessor.ty, nodeNameConstant)]
  | .setAttribute _ accessor constant typeConstant =>
    [(accessor.ty, constant), (accessor.ty, typeConstant)]
  | .getAttribute _ accessor constant | .addToRelation _ accessor constant
  | .traverse _ accessor constant => [(accessor.ty, constant)]
  | .findAll _ facade constant => [(facade.ty, constant)]
  | .addToIndex _ facade constant accessor members =>
    (facade.ty, constant) :: members.map (accessor.ty, ·)
  | .plannedVersion _ | .realVersion _ => []

theorem usesAll_ofType (type : Ty) (names : List String) :
    Expr.collectAll itemsTaken (names.map (Expr.ofType type)) = names.map (type, ·) := by
  rw [Expr.collectAll_map, List.map_eq_flatMap]
  exact List.flatMap_congr fun name _ => Expr.collect_ofType type name

theorem TaskFunction.uses_item (s : Scope) (f : TaskFunction) : (f.item s).uses = f.uses := by
  cases f <;> simp [item, uses, plannedOrReal, callee?_hostValue, usesAll_ofType]

theorem uses_items (s : Scope) (functions : List TaskFunction) :
    (functions.map (TaskFunction.item s)).flatMap Code.Item.uses =
      functions.flatMap TaskFunction.uses := by
  rw [List.flatMap_map]
  exact List.flatMap_congr fun f _ => f.uses_item s

/-! ### Files without a plan of their own -/

theorem uses_timeFile (s : Scope) (typeName : String) : (s.timeFile typeName).uses = [] := by
  simp [Code.File.uses, Scope.timeFile, timeUnits, TimeUnit.constantMember, TimeUnit.functions]

theorem uses_indexFile (names : List String) : (indexFile names).uses = [] := by
  simp [Code.File.uses, indexFile]

end Generate
end TypedGraph
