/-
The types of attributes.

The declared type of an attribute is checked where its constants are, before its
flags are looked at, so that a run that succeeds has a primitive for every
attribute of every class (`HasType`).  No other step of a run fails over a type
(`TypeBlind`), and classes and properties are gone through in name order: a run
that fails so names the first attribute without a primitive.
-/
import TypedGraph.Proofs.AccessorNames

namespace TypedGraph

/-- An element of an ascending list stands before a given one, is that one or has a
greater key. -/
theorem mem_of_ascending {α : Type} {key : α → String} {before after : List α} {x y : α}
    (h : ((before ++ x :: after).map key).Pairwise fun a b => compare a b = .lt)
    (hy : y ∈ before ++ x :: after) : y ∈ before ∨ y = x ∨ compare (key x) (key y) = .lt := by
  rw [List.pairwise_map, List.pairwise_append, List.pairwise_cons] at h
  obtain ⟨-, ⟨hafter, -⟩, -⟩ := h
  rcases List.mem_append.mp hy with hy | hy
  · exact .inl hy
  · rcases List.mem_cons.mp hy with rfl | hy
    · exact .inr (.inl rfl)
    · exact .inr (.inr (hafter y hy))

namespace Schema

/-- The declared type is one of the primitives. -/
def Property.HasPrimitive (p : Property) : Prop := ∃ primitive : Primitive, p.type = primitive.name

/-- An attribute of a model whose declared type is none of the primitives. -/
structure Model.Untyped (m : Model) (c : Class) (p : Property) : Prop where
  class_mem : c ∈ m.classes
  property_mem : p ∈ c.properties
  isAttribute : p.isAttribute = true
  not_primitive : ∀ primitive : Primitive, p.type ≠ primitive.name

/-- Such an attribute, and all others come after it, by their class and then by their name. -/
structure Model.FirstUntyped (m : Model) (c : Class) (p : Property) : Prop where
  untyped : m.Untyped c p
  first : ∀ d q, m.Untyped d q → (d = c ∧ q = p) ∨
    ((compare c.fqn d.fqn).then (compare p.name q.name)) = .lt

end Schema

namespace Generate

open Schema (Classifier Enumeration Index Model Primitive Property QualifiedName)

/-! ## Steps that know nothing of types -/

def GenerateError.isUnresolved : GenerateError → Bool
  | .unresolvedAttributeType .. => true
  | _ => false

/-- The computation does not fail over the type of an attribute. -/
def TypeBlind {α : Type} (x : Except GenerateError α) : Prop :=
  ∀ e, x = .error e → e.isUnresolved = false

namespace TypeBlind

variable {α β : Type} {x : Except GenerateError α}

@[simp] theorem ok (a : α) : TypeBlind (.ok a) := fun _ h => nomatch h

@[simp] theorem pure (a : α) : TypeBlind (Pure.pure a) := ok a

@[simp] theorem error_iff {e : GenerateError} :
    TypeBlind (.error e : Except GenerateError α) ↔ e.isUnresolved = false :=
  ⟨fun h => h e rfl, fun h _ he => Except.error.inj he ▸ h⟩

@[simp] theorem bind_iff {f : α → Except GenerateError β} :
    TypeBlind (x >>= f) ↔ TypeBlind x ∧ ∀ a, x = .ok a → TypeBlind (f a) := by
  constructor
  · intro h
    exact ⟨fun e he => h e (bind_eq_error.mpr (.inl he)),
      fun a ha e he => h e (bind_eq_error.mpr (.inr ⟨a, ha, he⟩))⟩
  · rintro ⟨hx, hf⟩ e he
    rcases bind_eq_error.mp he with he | ⟨a, ha, he⟩
    · exact hx e he
    · exact hf a ha e he

/-- A type that fails a sequence fails what comes after a step that is blind to it. -/
theorem after {f : α → Except GenerateError β} {e : GenerateError} (hx : TypeBlind x)
    (he : e.isUnresolved = true) (h : (x >>= f) = .error e) : ∃ a, x = .ok a ∧ f a = .error e := by
  rcases bind_eq_error.mp h with h | h
  · rw [hx e h] at he
    exact nomatch he
  · exact h

/-- A type that fails a sequence fails its first step when the others are blind to it. -/
theorem first {f : α → Except GenerateError β} {e : GenerateError} (hf : ∀ a, TypeBlind (f a))
    (he : e.isUnresolved = true) (h : (x >>= f) = .error e) : x = .error e := by
  rcases bind_eq_error.mp h with h | ⟨a, -, h⟩
  · exact h
  · rw [hf a e h] at he
    exact nomatch he

@[simp] theorem map_iff {f : α → β} : TypeBlind (f <$> x) ↔ TypeBlind x := by
  rw [map_eq_pure_bind, bind_iff]
  exact ⟨fun h => h.1, fun h => ⟨h, fun a _ => pure (f a)⟩⟩

theorem mapM {f : α → Except GenerateError β} (h : ∀ a, TypeBlind (f a)) (as : List α) :
    TypeBlind (as.mapM f) := by
  induction as with
  | nil => exact ok []
  | cons a rest ih => simp [List.mapM_cons, h, ih]

theorem foldlM {f : β → α → Except GenerateError β} (h : ∀ b a, TypeBlind (f b a)) (as : List α)
    (b : β) : TypeBlind (as.foldlM f b) := by
  induction as generalizing b with
  | nil => exact ok b
  | cons a rest ih => simp [List.foldlM_cons, h, ih]

@[simp] theorem schema (x : Except Schema.SchemaError α) :
    TypeBlind (x.mapError GenerateError.schema) := by
  cases x with
  | ok a => exact ok a
  | error e => exact error_iff.mpr rfl

@[simp] theorem checkedIdent (value context : String) : TypeBlind (checkedIdent value context) := by
  unfold Generate.checkedIdent
  split <;> simp [GenerateError.isUnresolved]

@[simp] theorem checkedPath (value context : String) : TypeBlind (checkedPath value context) := by
  unfold Generate.checkedPath
  split <;> simp [GenerateError.isUnresolved]

@[simp] theorem render (name : String) (package : Option String) (kind : ArtifactKind)
    (file : Code.File) : TypeBlind (Artifact.render name package kind file) := by
  unfold Artifact.render
  split <;> simp [GenerateError.isUnresolved]

variable {s : Scope} {c : Schema.Class} {p : Property}

@[simp] theorem scope (m : Model) (config : Config) : TypeBlind (Scope.of m config) := by
  simp [Scope.of]

@[simp] theorem artifactPath (package : Option String) (name : String) :
    TypeBlind (s.artifactPath package name) := by
  simp [Scope.artifactPath, mapM]

@[simp] theorem classifierPath (ident : QualifiedName) : TypeBlind (s.classifierPath ident) :=
  artifactPath _ _

@[simp] theorem modelPath : TypeBlind s.modelPath := artifactPath _ _

@[simp] theorem indexedIdent (i : Index) : TypeBlind (s.indexedIdent i) := by
  unfold Scope.indexedIdent
  split <;> simp

/-! ### Accessors -/

@[simp] theorem declare (c : Schema.Class) (p : Property) (constant : String)
    (declared : List String) : TypeBlind (Scope.declare c p constant declared) := by
  unfold Scope.declare
  split <;> simp [GenerateError.isUnresolved]

theorem relationTarget (p : Property) : TypeBlind (s.relationTarget p).outcome := by
  unfold Scope.relationTarget
  cases p.typeRef with
  | primitive _ => simp
  | classifier fqn =>
    simp only
    cases s.model.get? fqn <;> simp

theorem oppositeCalls (p : Property) (target : String) :
    TypeBlind (s.oppositeCalls p target).outcome := by
  unfold Scope.oppositeCalls
  cases p.opposite with
  | none => simp
  | some opposite => cases s.storedOpposite p target <;> simp

theorem internalCalls (c : Schema.Class) (p : Property) : TypeBlind (s.internalCalls c p) := by
  unfold Scope.internalCalls
  split <;> simp

theorem planRelation (c : Schema.Class) (p : Property) :
    TypeBlind (s.planRelation c p).outcome := by
  unfold Scope.planRelation
  simp only [Traced.outcome_bind, bind_iff, relationTarget, true_and]
  intro target _
  cases target with
  | none => simp
  | some found => simp [oppositeCalls, internalCalls]

theorem cover (c : Schema.Class) (p : Property) : TypeBlind (s.cover c p) := by
  unfold Scope.cover
  split <;> simp

theorem planAttribute (c : Schema.Class) (p : Property) :
    TypeBlind (s.planAttribute c p).outcome := by
  unfold Scope.planAttribute
  cases p.isStored <;> cases p.algorithm <;> simp [cover]

theorem base : TypeBlind ((s.resolvedParent c).mapM fun parent =>
    (Traced.of (s.classifierPath parent.ident) : Traced GenerateError Code.Path)).outcome := by
  rw [Traced.outcome_mapM_of]
  cases s.resolvedParent c <;> simp

theorem planIndexMethod (group : IndexGroup) : TypeBlind (s.planIndexMethod group) := by
  simp [Scope.planIndexMethod]

/-! ### The other artifacts -/

theorem planVariants (fqn : String) (seen literals : List String) :
    TypeBlind (EnumPlan.planVariants fqn seen literals) := by
  induction literals generalizing seen with
  | nil => simp [EnumPlan.planVariants]
  | cons literal rest ih =>
    simp only [EnumPlan.planVariants]
    split <;> simp [GenerateError.isUnresolved, ih]

theorem enumArtifact (e : Enumeration) : TypeBlind (enumArtifact e) := by
  simp [Generate.enumArtifact, EnumPlan.of, planVariants]

theorem pluginArtifact : TypeBlind s.pluginArtifact := by
  simp [Scope.pluginArtifact, Scope.planPlugin, mapM]

theorem planIndexConstants (seen : List String) (indexes : List Index) :
    TypeBlind (Scope.planIndexConstants seen indexes) := by
  induction indexes generalizing seen with
  | nil => simp [Scope.planIndexConstants]
  | cons i rest ih =>
    simp only [Scope.planIndexConstants]
    split <;> simp [GenerateError.isUnresolved, ih]

theorem facadeArtifact : TypeBlind s.facadeArtifact := by
  simp [Scope.facadeArtifact, Scope.planFacade, Scope.pluginPath, planIndexConstants, mapM,
    Scope.planFactory, Scope.planQuery]

theorem planPropertyTasks (className : String) (accessor : Code.Path) (p : Property) :
    TypeBlind (Scope.planPropertyTasks className accessor p) := by
  unfold Scope.planPropertyTasks
  cases p.kind <;> simp [Scope.constantIdent]

theorem taskApiArtifact : TypeBlind s.taskApiArtifact := by
  simp [Scope.taskApiArtifact, Scope.planTaskApi, Scope.planClassTasks, Scope.planIndexTasks,
    planPropertyTasks, mapM]

theorem checkClassNames (seen : List String) (classes : List Schema.Class) :
    TypeBlind (Scope.checkClassNames seen classes) := by
  induction classes generalizing seen with
  | nil => simp [Scope.checkClassNames]
  | cons c rest ih =>
    simp only [Scope.checkClassNames]
    split <;> simp [GenerateError.isUnresolved, ih]

theorem globalArtifacts : TypeBlind s.globalArtifacts := by
  simp [Scope.globalArtifacts, pluginArtifact, facadeArtifact, Scope.taskArtifacts, checkClassNames,
    taskApiArtifact, Scope.otherWorldArtifact, mapM, Scope.selectionArtifact, Scope.planSelection,
    Scope.timeArtifact]

theorem addArtifact (m : PackageMap) (a : Artifact) : TypeBlind (m.addArtifact a) := by
  unfold PackageMap.addArtifact
  simp only
  split <;> simp [GenerateError.isUnresolved]

theorem checkShadowing (packages : List (List String × PackageContents)) :
    TypeBlind (checkShadowing packages) := by
  induction packages with
  | nil => simp [Generate.checkShadowing]
  | cons entry rest ih =>
    unfold Generate.checkShadowing
    split <;> simp [GenerateError.isUnresolved, ih]

theorem moduleIndexes (artifacts : List Artifact) : TypeBlind (moduleIndexes artifacts) := by
  simp [Generate.moduleIndexes, PackageMap.ofArtifacts, foldlM, addArtifact, checkShadowing, mapM,
    Generate.moduleIndex]

end TypeBlind

/-! ## The check of an attribute -/

theorem attributePrimitive_eq_ok {c : Schema.Class} {p : Property} {primitive : Primitive} :
    Scope.attributePrimitive c p = .ok primitive ↔ p.type = primitive.name := by
  unfold Scope.attributePrimitive Property.typeRef Schema.TypeRef.resolve
  constructor
  · intro h
    cases hname : Primitive.ofName? p.type with
    | none =>
      rw [hname] at h
      exact nomatch h
    | some found =>
      rw [hname] at h
      rw [← Except.ok.inj h]
      exact (Primitive.name_of_ofName? hname).symm
  · intro h
    rw [h, Primitive.ofName?_name]
    rfl

theorem attributePrimitive_eq_error {c : Schema.Class} {p : Property} {e : GenerateError}
    (h : Scope.attributePrimitive c p = .error e) :
    e = .unresolvedAttributeType c.fqn p.name p.type ∧
      ∀ primitive : Primitive, p.type ≠ primitive.name := by
  constructor
  · unfold Scope.attributePrimitive at h
    split at h
    · exact nomatch h
    · exact (Except.error.inj h).symm
  · intro primitive hname
    rw [attributePrimitive_eq_ok.mpr hname] at h
    exact nomatch h

namespace Scope

variable {s : Scope} {c : Schema.Class} {p : Property} {e : PropertyPlan}
  {declared declared' : List String} {error : GenerateError}

theorem planProperty_primitive (hp : p.isAttribute = true)
    (h : (s.planProperty c declared p).outcome = .ok (e, declared')) :
    ∃ t, e.typeConstant = some t ∧ Code.identifier? (typeConstantName p.name) = some t.name ∧
      p.type = t.primitive.name := by
  have hkind : p.kind = .attribute := beq_iff_eq.mp hp
  unfold planProperty at h
  simp only [hkind, Traced.outcome_bind, Traced.outcome_lift, bind_eq_ok, checkedIdent_eq_ok] at h
  obtain ⟨_, -, _, -, primitive, hprimitive, name, hname, _, -, access, -, h⟩ := h
  obtain ⟨rfl, -⟩ := Prod.mk.inj (Except.ok.inj h)
  exact ⟨_, rfl, hname, attributePrimitive_eq_ok.mp hprimitive⟩

/-- Only the check of its type fails a property over a type. -/
theorem planProperty_unresolved (herror : error.isUnresolved = true)
    (h : (s.planProperty c declared p).outcome = .error error) :
    p.isAttribute = true ∧ attributePrimitive c p = .error error := by
  unfold planProperty at h
  simp only [Traced.outcome_bind, Traced.outcome_lift] at h
  obtain ⟨constant, -, h⟩ := TypeBlind.after (TypeBlind.checkedIdent _ _) herror h
  obtain ⟨declared₁, -, h⟩ := TypeBlind.after (TypeBlind.declare _ _ _ _) herror h
  match hkind : p.kind with
  | .attribute =>
    simp only [hkind, Traced.outcome_bind, Traced.outcome_lift] at h
    refine ⟨beq_iff_eq.mpr hkind, TypeBlind.first (fun primitive => ?_) herror h⟩
    simp [TypeBlind.planAttribute]
  | .relation =>
    have hblind : TypeBlind (.error error : Except GenerateError (PropertyPlan × List String)) := by
      rw [← h, hkind]
      cases p.isStored <;> simp [TypeBlind.planRelation]
    rw [TypeBlind.error_iff.mp hblind] at herror
    exact nomatch herror

theorem planProperties_primitive {ps : List Property} {plans : List PropertyPlan}
    (h : (s.planProperties c declared ps).outcome = .ok plans) (hp : p ∈ ps)
    (hattribute : p.isAttribute = true) : p.HasPrimitive := by
  obtain ⟨hmap, hplanned⟩ := planProperties_ok h
  rw [← hmap] at hp
  obtain ⟨e, he, rfl⟩ := List.mem_map.mp hp
  obtain ⟨before, after, hplan⟩ := hplanned e he
  obtain ⟨t, -, -, htype⟩ := planProperty_primitive hattribute hplan
  exact ⟨t.primitive, htype⟩

theorem planAccessor_primitive {a : Accessor} (h : (s.planAccessor c).outcome = .ok a)
    (hp : p ∈ c.properties) (hattribute : p.isAttribute = true) : p.HasPrimitive :=
  planProperties_primitive (planAccessor_ok h).2 hp hattribute

/-! ## Where a run fails -/

/-- A list of properties fails over the first attribute without a primitive. -/
theorem planProperties_unresolved {ps : List Property} (herror : error.isUnresolved = true)
    (h : (s.planProperties c declared ps).outcome = .error error) :
    ∃ before p after, ps = before ++ p :: after ∧
      (∀ q ∈ before, q.isAttribute = true → q.HasPrimitive) ∧ p.isAttribute = true ∧
      attributePrimitive c p = .error error := by
  induction ps generalizing declared with
  | nil => exact nomatch h
  | cons p rest ih =>
    simp only [planProperties, Traced.outcome_bind] at h
    rcases bind_eq_error.mp h with h | ⟨⟨e, declared'⟩, hp, h⟩
    · exact ⟨[], p, rest, rfl, fun q hq => absurd hq List.not_mem_nil,
        planProperty_unresolved herror h⟩
    · obtain ⟨before, q, after, rfl, hbefore, hq⟩ := ih (TypeBlind.first (fun _ => .pure _) herror h)
      refine ⟨p :: before, q, after, rfl, fun r hr hattribute => ?_, hq⟩
      rcases List.mem_cons.mp hr with rfl | hr
      · obtain ⟨t, -, -, htype⟩ := planProperty_primitive hattribute hp
        exact ⟨t.primitive, htype⟩
      · exact hbefore r hr hattribute

theorem entityArtifact_unresolved (herror : error.isUnresolved = true)
    (h : (s.entityArtifact c).outcome = .error error) :
    (s.planProperties c [nodeNameConstant] c.properties).outcome = .error error := by
  simp only [entityArtifact, Traced.outcome_bind, Traced.outcome_of] at h
  have hplan := TypeBlind.first (fun a => TypeBlind.render _ _ _ _) herror h
  have hevents : ((s.parentEvents c).forM Traced.log : Traced GenerateError Unit).outcome = .ok () :=
    Traced.outcome_forM_log _ id
  simp only [planAccessor, Traced.outcome_bind, Traced.outcome_lift, hevents] at hplan
  obtain ⟨typeName, -, hplan⟩ := TypeBlind.after (TypeBlind.checkedIdent _ _) herror hplan
  obtain ⟨_, -, hplan⟩ := TypeBlind.after (.ok ()) herror hplan
  obtain ⟨base, -, hplan⟩ := TypeBlind.after TypeBlind.base herror hplan
  refine TypeBlind.first (fun properties => ?_) herror hplan
  simp [TypeBlind.mapM, TypeBlind.planIndexMethod]

theorem classifierArtifact_unresolved {f : Classifier} (herror : error.isUnresolved = true)
    (h : (s.classifierArtifact f).outcome = .error error) :
    ∃ c, f = .ofClass c ∧
      (s.planProperties c [nodeNameConstant] c.properties).outcome = .error error := by
  cases f with
  | ofClass c =>
    -- mapping the artifact is a sequence whose last step cannot fail
    have hmade : ((s.entityArtifact c).outcome >>= fun x => .ok (some x)) = .error error :=
      (Traced.outcome_bind ..).symm.trans h
    exact ⟨c, rfl,
      entityArtifact_unresolved herror (TypeBlind.first (fun _ => .ok _) herror hmade)⟩
  | ofEnum e =>
    have hblind : TypeBlind (s.classifierArtifact (.ofEnum e)).outcome := by
      simp [classifierArtifact, TypeBlind.enumArtifact]
    rw [hblind error h] at herror
    exact absurd herror Bool.false_ne_true
  | ofIndex i => cases h

/-- Classifiers fail over the first class that has an attribute without a primitive. -/
theorem classifierArtifacts_unresolved {fs : List Classifier} (herror : error.isUnresolved = true)
    (h : (s.classifierArtifacts fs).outcome = .error error) :
    ∃ before c after, fs = before ++ .ofClass c :: after ∧
      (∀ d, .ofClass d ∈ before → ∀ q ∈ d.properties, q.isAttribute = true → q.HasPrimitive) ∧
      (s.planProperties c [nodeNameConstant] c.properties).outcome = .error error := by
  induction fs with
  | nil => exact nomatch h
  | cons f rest ih =>
    simp only [classifierArtifacts, Traced.outcome_bind] at h
    rcases bind_eq_error.mp h with h | ⟨made, hmade, h⟩
    · obtain ⟨c, rfl, hc⟩ := classifierArtifact_unresolved herror h
      exact ⟨[], c, rest, rfl, fun d hd => absurd hd List.not_mem_nil, hc⟩
    · obtain ⟨before, c, after, rfl, hbefore, hc⟩ := ih (TypeBlind.first (fun _ => .pure _) herror h)
      refine ⟨f :: before, c, after, rfl, fun d hd q hq hattribute => ?_, hc⟩
      rcases List.mem_cons.mp hd with rfl | hd
      · obtain ⟨x, hx, -⟩ := Traced.outcome_some_map.mp hmade
        obtain ⟨a, ha, -⟩ := entityArtifact_ok hx
        exact planAccessor_primitive ha hq hattribute
      · exact hbefore d hd q hq hattribute

theorem generate_unresolved {m : Model} {config : Config} (herror : error.isUnresolved = true)
    (h : (generate m config).outcome = .error error) :
    ∃ s, Scope.of m config = .ok s ∧
      (s.classifierArtifacts m.classifiers).outcome = .error error := by
  simp only [generate, Scope.artifacts, Traced.outcome_bind, Traced.outcome_of,
    Traced.outcome_forM_log] at h
  obtain ⟨s, hs, h⟩ := TypeBlind.after (TypeBlind.scope m config) herror h
  refine ⟨s, hs, ?_⟩
  rw [← (of_eq_ok hs).1]
  refine TypeBlind.first (fun own => ?_) herror h
  simp [TypeBlind.globalArtifacts, TypeBlind.moduleIndexes]

end Scope

/-! ## Runs -/

/-- The type of an attribute is one primitive, and an accessor has one constant for
it, which holds the tag of that primitive. -/
structure HasType (s : Scope) (file : Code.File) (p : Property) (primitive : Primitive) : Prop where
  type_eq : p.type = primitive.name
  constant : ∃ name, Code.identifier? (typeConstantName p.name) = some name ∧
    file.constantsNamed name =
      [.constant "pub " name (.name "u8") (s.hostValue ["Type", primitive.tag])]

/-- The constants of each property stand on the accessor type itself. -/
theorem Accessor.mem_inherentMembers {s : Scope} {a : Accessor} {e : PropertyPlan}
    {member : Code.Member} (he : e ∈ a.properties) (h : member ∈ constants e s) :
    member ∈ (a.file s).inherentMembers := by
  have hmember : member ∈ a.properties.flatMap (constants · s) := List.mem_flatMap.mpr ⟨e, he, h⟩
  simp only [Code.File.inherentMembers, file, List.flatMap_cons, List.mem_append]
  exact .inr (.inl (.inl (.inl (.inl (.inr hmember)))))

namespace Scope

variable {s : Scope} {c : Schema.Class} {p : Property} {a : Accessor} {artifacts : List Artifact}

theorem EntityOf.hasType (h : EntityOf s artifacts c a) (hp : p ∈ c.properties)
    (hattribute : p.isAttribute = true) : ∃ primitive, HasType s (a.file s) p primitive := by
  have hplan := (planAccessor_ok h.planned).2
  obtain ⟨hmap, hplanned⟩ := planProperties_ok hplan
  rw [← hmap] at hp
  obtain ⟨e, he, rfl⟩ := List.mem_map.mp hp
  obtain ⟨before, after, hplanned⟩ := hplanned e he
  obtain ⟨t, ht, hname, htype⟩ := planProperty_primitive hattribute hplanned
  have hdistinct : (a.file s).inherentConstants.Nodup := by
    rw [Accessor.inherentConstants_file]
    exact planProperties_declare hplan (List.nodup_singleton _)
  refine ⟨t.primitive, htype, t.name, hname, Code.File.constantsNamed_eq hdistinct ?_ rfl⟩
  have hmember : .constant "pub " t.name (.name "u8") (s.hostValue ["Type", t.primitive.tag]) ∈
      Accessor.constants e s := by
    rw [Accessor.constants, ht]
    exact List.mem_cons_of_mem _ (List.mem_singleton.mpr rfl)
  exact Accessor.mem_inherentMembers he hmember

end Scope

variable {m : Model} {config : Config}

/-- The class and the attribute that a run fails over are the first without a
primitive. -/
theorem firstUntyped_of_generate {className name type : String}
    (h : (generate m config).outcome = .error (.unresolvedAttributeType className name type)) :
    ∃ c p, m.FirstUntyped c p ∧ c.fqn = className ∧ p.name = name ∧ p.type = type := by
  obtain ⟨s, -, hclasses⟩ := Scope.generate_unresolved rfl h
  obtain ⟨before, c, after, hm, hbefore, hc⟩ := Scope.classifierArtifacts_unresolved rfl hclasses
  obtain ⟨front, p, back, hps, hfront, hattribute, hp⟩ := Scope.planProperties_unresolved rfl hc
  obtain ⟨herror, hnone⟩ := attributePrimitive_eq_error hp
  obtain ⟨rfl, rfl, rfl⟩ := GenerateError.unresolvedAttributeType.inj herror
  have hmem : c ∈ m.classes :=
    List.mem_filterMap.mpr ⟨.ofClass c, by rw [hm]; simp, rfl⟩
  have hproperty : p ∈ c.properties := by
    rw [hps]
    simp
  refine ⟨c, p, ⟨⟨hmem, hproperty, hattribute, hnone⟩, fun d q hq => ?_⟩, rfl, rfl, rfl⟩
  have hd : .ofClass d ∈ before ++ .ofClass c :: after :=
    hm ▸ Model.mem_classifiers_of_class hq.class_mem
  rcases mem_of_ascending (hm ▸ m.ascending_classifiers) hd with hd | hd | hlt
  · obtain ⟨primitive, hprimitive⟩ := hbefore d hd q hq.property_mem hq.isAttribute
    exact absurd hprimitive (hq.not_primitive primitive)
  · obtain rfl := Classifier.ofClass.inj hd
    rcases mem_of_ascending (hps ▸ d.ascending_properties) (hps ▸ hq.property_mem)
      with hfront' | rfl | hlt
    · obtain ⟨primitive, hprimitive⟩ := hfront q hfront' hq.isAttribute
      exact absurd hprimitive (hq.not_primitive primitive)
    · exact .inl ⟨rfl, rfl⟩
    · have hself : compare d.fqn d.fqn = .eq := Std.ReflCmp.compare_self
      rw [hself, hlt]
      exact .inr rfl
  · have hfqn : compare c.fqn d.fqn = .lt := hlt
    rw [hfqn]
    exact .inr rfl

/-- A run that succeeds has a primitive for every attribute of every class, however
it is flagged, and one that fails over a type names the first attribute without one. -/
theorem attribute_types_resolved (m : Model) (config : Config) :
    (∀ artifacts, (generate m config).outcome = .ok artifacts →
      ∃ s, Scope.of m config = .ok s ∧ ∀ c ∈ m.classes, ∃ a, Scope.EntityOf s artifacts c a ∧
        ∀ p ∈ c.properties, p.isAttribute = true → ∃ primitive, HasType s (a.file s) p primitive) ∧
    ∀ className name type,
      (generate m config).outcome = .error (.unresolvedAttributeType className name type) →
      ∃ c p, m.FirstUntyped c p ∧ c.fqn = className ∧ p.name = name ∧ p.type = type := by
  refine ⟨fun artifacts h => ?_, fun className name type => firstUntyped_of_generate⟩
  obtain ⟨s, hs, hclasses⟩ := Scope.entityOf_generate h
  refine ⟨s, hs, fun c hc => ?_⟩
  obtain ⟨a, ha⟩ := hclasses c hc
  exact ⟨a, ha, fun p hp hattribute => ha.hasType hp hattribute⟩

/-! ## Attributes of every flag -/

/-- Persons, and places after them, with derived attributes of other types. -/
def tinted : Model :=
  let hue (name : String) : Property :=
    { name, type := "s.Color", kind := .attribute, derived := true }
  let place : Schema.Class := ({ ident := .of "s" "Place" } : Schema.Class).addProperty (hue "area")
  (Model.empty.add (.ofClass place)).add
    (.ofClass ((measured.addProperty (hue "tone")).addProperty (hue "color")))

theorem tinted_unresolved :
    (∃ s artifacts a, (generate town {}).outcome = .ok artifacts ∧
      Scope.EntityOf s artifacts resident a ∧ ∀ p ∈ resident.properties, p.isAttribute = true →
        ∃ primitive, HasType s (a.file s) p primitive) ∧
    ∃ c p, tinted.FirstUntyped c p ∧ c.fqn = "s.Person" ∧ p.name = "color" ∧
      p.type = "s.Color" := by
  have hfailed : failure? (generate tinted {}).outcome =
      some (.unresolvedAttributeType "s.Person" "color" "s.Color") := by decide +kernel
  have hclass : resident ∈ town.classes := Model.mem_classes.mpr rfl
  obtain ⟨artifacts, h, -⟩ := town_generates
  obtain ⟨s, -, hclasses⟩ := (attribute_types_resolved _ _).1 artifacts h
  obtain ⟨a, ha, htypes⟩ := hclasses resident hclass
  exact ⟨⟨s, artifacts, a, h, ha, htypes⟩,
    (attribute_types_resolved tinted {}).2 _ _ _ (eq_error_of_failure? hfailed)⟩

end Generate
end TypedGraph
