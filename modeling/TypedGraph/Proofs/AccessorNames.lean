/-
The constants and the methods of an accessor.

Each constant is checked as it is declared (`planProperties_declare`).  Nothing
checks the methods.  They differ because the constants do, here and on the facade:
for names made of words, two properties or two indexes of one snake form would
have one constant.  No verb is the start of another, so that methods with
different verbs differ anyhow.
-/
import Mathlib.Data.List.Flatten
import TypedGraph.Proofs.AsciiNames
import TypedGraph.Proofs.IndexKeys

namespace TypedGraph

namespace Schema

def Property.spelledName (p : Property) : String := Code.spelled (Text.snakeCase p.name)

/-- All names of a model are made of ASCII letters, digits and underscores. -/
structure Model.HasWordNames (m : Model) : Prop where
  classifiers : ∀ f ∈ m.classifiers, Text.IsWord f.ident.name
  properties : ∀ c ∈ m.classes, ∀ p ∈ c.properties, Text.IsWord p.name

theorem Model.mem_indexes_of_indexesOf {m : Model} {className property : String} {i : Index}
    (h : i ∈ m.indexesOf className property) : i ∈ m.indexes := by
  obtain ⟨row, -, hrow⟩ := List.mem_filterMap.mp h
  have hfqn : i.fqn = row.index := Model.fqn_of_get? (Model.index?_eq_some.mp hrow)
  rw [Model.mem_indexes, hfqn]
  exact hrow

end Schema

namespace Generate

open Schema (Index Model Property)

/-! ## Verbs -/

/-- What the name of a method starts with. -/
inductive AccessVerb
  | get
  | set
  | addTo
  | removeFrom
  | internalAddTo
  | internalRemoveFrom
  | index
deriving DecidableEq, Repr

namespace AccessVerb

def all : List AccessVerb :=
  [.get, .set, .addTo, .removeFrom, .internalAddTo, .internalRemoveFrom, .index]

def text : AccessVerb → String
  | .get => "get_"
  | .set => "set_"
  | .addTo => "add_to_"
  | .removeFrom => "remove_from_"
  | .internalAddTo => "internal_add_to_"
  | .internalRemoveFrom => "internal_remove_from_"
  | .index => "index_"

theorem mem_all (v : AccessVerb) : v ∈ all := by cases v <;> decide

theorem isVerb_text (v : AccessVerb) : Code.isVerb v.text = true := by cases v <;> decide

/-- No verb is the start of another. -/
theorem eq_of_starts (v w : AccessVerb) (h : v.text.toList <+: w.text.toList) : v = w := by
  have hall : ∀ v ∈ all, ∀ w ∈ all, v.text.toList.isPrefixOf w.text.toList = true → v = w := by
    decide
  exact hall v (mem_all v) w (mem_all w) (List.isPrefixOf_iff_prefix.mpr h)

end AccessVerb

/-- A method for a property or an index. -/
structure MethodName where
  verb : AccessVerb
  subject : String
deriving DecidableEq, Repr

namespace MethodName

def text (n : MethodName) : String := n.verb.text ++ n.subject

theorem text_injective : Function.Injective text := by
  rintro ⟨v, a⟩ ⟨w, b⟩ h
  obtain ⟨rfl, rfl⟩ := eq_of_append_eq AccessVerb.eq_of_starts h
  rfl

/-- The methods that every accessor has. -/
def fixed : List String := ["new", "node"]

theorem text_not_fixed (n : MethodName) : n.text ∉ fixed := by
  have hall : ∀ v ∈ AccessVerb.all, ∀ name ∈ fixed, ¬ v.text.toList <+: name.toList := by decide
  intro hmem
  refine hall n.verb (AccessVerb.mem_all _) _ hmem ?_
  rw [text, String.toList_append]
  exact List.prefix_append _ _

theorem nodup_fixed_append {names : List MethodName} :
    (fixed ++ names.map text).Nodup ↔ names.Nodup := by
  rw [List.nodup_append, List.nodup_map_iff text_injective]
  constructor
  · exact fun h => h.2.1
  · refine fun h => ⟨by decide, h, ?_⟩
    rintro name hname _ hmem rfl
    obtain ⟨n, -, rfl⟩ := List.mem_map.mp hmem
    exact n.text_not_fixed hname

end MethodName

/-! ## The methods of a property -/

def Access.methods : Access → List String
  | .none => []
  | .plain a => [a.getter, a.setter]
  | .learned a => [a.getter, a.setter]
  | .relation a => [a.getter, a.add, a.remove] ++
      match a.internal with
      | some calls => [calls.add, calls.remove]
      | Option.none => []

def Access.verbs : Access → List AccessVerb
  | .none => []
  | .plain _ => [.get, .set]
  | .learned _ => [.get, .set]
  | .relation a => [.get, .addTo, .removeFrom] ++
      if a.internal.isSome then [.internalAddTo, .internalRemoveFrom] else []

theorem Access.nodup_verbs (a : Access) : a.verbs.Nodup := by
  cases a with
  | none => exact List.nodup_nil
  | plain a => exact (by decide : [AccessVerb.get, .set].Nodup)
  | learned a => exact (by decide : [AccessVerb.get, .set].Nodup)
  | relation a =>
    rw [verbs]
    cases a.internal.isSome <;> decide

theorem Access.index_not_verb (a : Access) : AccessVerb.index ∉ a.verbs := by
  cases a with
  | none => exact List.not_mem_nil
  | plain a => exact (by decide : AccessVerb.index ∉ [AccessVerb.get, .set])
  | learned a => exact (by decide : AccessVerb.index ∉ [AccessVerb.get, .set])
  | relation a =>
    rw [verbs]
    cases a.internal.isSome <;> decide

def PropertyPlan.methodNames (e : PropertyPlan) : List MethodName :=
  e.access.verbs.map (⟨·, e.property.spelledName⟩)

theorem mem_methodNames {e : PropertyPlan} {n : MethodName} (h : n ∈ e.methodNames) :
    n.verb ≠ .index ∧ n.subject = e.property.spelledName := by
  obtain ⟨v, hv, rfl⟩ := List.mem_map.mp h
  exact ⟨fun hindex => e.access.index_not_verb (hindex ▸ hv), rfl⟩

/-- The methods of properties differ when the properties do. -/
theorem nodup_methodNames {plans : List PropertyPlan}
    (h : (plans.map (·.property.spelledName)).Nodup) :
    (plans.flatMap PropertyPlan.methodNames).Nodup := by
  induction plans with
  | nil => exact List.nodup_nil
  | cons e rest ih =>
    obtain ⟨hnew, hrest⟩ := List.nodup_cons.mp h
    have hown : e.methodNames.Nodup :=
      (List.nodup_map_iff fun v w hvw => (MethodName.mk.inj hvw).1).mpr e.access.nodup_verbs
    rw [List.flatMap_cons, List.nodup_append]
    refine ⟨hown, ih hrest, ?_⟩
    rintro n hn _ hmem rfl
    obtain ⟨d, hd, hnd⟩ := List.mem_flatMap.mp hmem
    have hsame : e.property.spelledName = d.property.spelledName :=
      (mem_methodNames hn).2.symm.trans (mem_methodNames hnd).2
    exact hnew (List.mem_map.mpr ⟨d, hd, hsame.symm⟩)

namespace Scope

variable {s : Scope} {c : Schema.Class} {p : Property} {e : PropertyPlan} {access : Access}
  {declared declared' : List String} {context name : String}

theorem checkedMethod (v : AccessVerb) (h : checkedIdent (v.text ++ Text.snakeCase p.name) context =
    .ok name) : name = v.text ++ p.spelledName :=
  checkedIdent_verb v.isVerb_text h

theorem methods_planAttribute (h : (s.planAttribute c p).outcome = .ok access) :
    access.methods = access.verbs.map fun v => v.text ++ p.spelledName := by
  have hpair : ∀ {getter setter reading writing},
      checkedIdent (methodName "get" p.name) reading = .ok getter →
      checkedIdent (methodName "set" p.name) writing = .ok setter →
      [getter, setter] = [AccessVerb.get, .set].map fun v => v.text ++ p.spelledName := by
    intro getter setter reading writing hget hset
    rw [checkedMethod .get hget, checkedMethod .set hset]
    rfl
  unfold planAttribute at h
  by_cases hstored : p.isStored = true
  · simp only [hstored, Bool.not_true, Bool.false_eq_true, if_false] at h
    cases halgorithm : p.algorithm with
    | some algorithm =>
      simp only [halgorithm, Traced.outcome_bind, Traced.outcome_lift, bind_eq_ok] at h
      obtain ⟨getter, hget, setter, hset, h⟩ := h
      rw [← Except.ok.inj h]
      exact hpair hget hset
    | none =>
      simp only [halgorithm, Traced.outcome_bind, Traced.outcome_lift, bind_eq_ok] at h
      obtain ⟨cover, -, getter, hget, setter, hset, h⟩ := h
      rw [← Except.ok.inj h]
      exact hpair hget hset
  · simp only [Bool.eq_false_iff.mpr hstored, Bool.not_false, if_true, Traced.outcome_bind,
      bind_eq_ok] at h
    obtain ⟨_, -, h⟩ := h
    rw [← Except.ok.inj h]
    rfl

theorem internalCalls_names {internal : Option OppositeCalls}
    (h : s.internalCalls c p = .ok internal) :
    internal = none ∨ internal = some {
      add := AccessVerb.internalAddTo.text ++ p.spelledName
      remove := AccessVerb.internalRemoveFrom.text ++ p.spelledName } := by
  unfold internalCalls at h
  split at h
  · simp only [bind_eq_ok] at h
    obtain ⟨add, hadd, remove, hremove, h⟩ := h
    rw [← Except.ok.inj h, checkedMethod .internalAddTo hadd,
      checkedMethod .internalRemoveFrom hremove]
    exact .inr rfl
  · exact .inl (Except.ok.inj h).symm

theorem methods_planRelation (h : (s.planRelation c p).outcome = .ok access) :
    access.methods = access.verbs.map fun v => v.text ++ p.spelledName := by
  unfold planRelation at h
  simp only [Traced.outcome_bind, bind_eq_ok] at h
  obtain ⟨target, -, h⟩ := h
  cases target with
  | none =>
    rw [← Except.ok.inj h]
    rfl
  | some found =>
    simp only [Traced.outcome_bind, Traced.outcome_lift, bind_eq_ok] at h
    obtain ⟨getter, hgetter, add, hadd, remove, hremove, opposite, -, internal, hinternal, h⟩ := h
    rw [← Except.ok.inj h, checkedMethod .get hgetter, checkedMethod .addTo hadd,
      checkedMethod .removeFrom hremove]
    rcases internalCalls_names hinternal with rfl | rfl
    · rfl
    · rfl

theorem methods_planProperty (h : (s.planProperty c declared p).outcome = .ok (e, declared')) :
    e.access.methods = e.methodNames.map MethodName.text := by
  obtain ⟨rfl, -, ⟨-, haccess⟩ | ⟨-, -, haccess⟩ | ⟨-, -, haccess⟩⟩ := planProperty_cases h
  · rw [methods_planAttribute haccess, PropertyPlan.methodNames, List.map_map]
    rfl
  · rw [PropertyPlan.methodNames, haccess]
    rfl
  · rw [methods_planRelation haccess, PropertyPlan.methodNames, List.map_map]
    rfl

end Scope

/-! ## The constants of a property -/

def PropertyPlan.constants (e : PropertyPlan) : List String :=
  e.constant :: (e.typeConstant.map TypeConstant.name).toList

/-- The constants that a property asks for. -/
def propertyConstants (p : Property) : List String :=
  Text.constantCase p.name ::
    match p.kind with
    | .attribute => [typeConstantName p.name]
    | .relation => []

/-- The constants that a class asks for. -/
def classConstants (c : Schema.Class) : List String :=
  nodeNameConstant :: c.properties.flatMap propertyConstants

namespace Scope

variable {s : Scope} {c : Schema.Class} {p : Property} {e : PropertyPlan}
  {declared declared' : List String} {constant : String}

theorem declare_ok (h : declare c p constant declared = .ok declared') :
    constant ∉ declared ∧ declared' = constant :: declared := by
  unfold declare at h
  split at h
  · exact nomatch h
  · rename_i hnew
    exact ⟨fun hmem => hnew (List.contains_iff_mem.mpr hmem), (Except.ok.inj h).symm⟩

/-- A constant is new where it is declared. -/
theorem nodup_declare (h : declare c p constant declared = .ok declared') (hd : declared.Nodup) :
    declared'.Nodup := by
  obtain ⟨hnew, rfl⟩ := declare_ok h
  exact List.nodup_cons.mpr ⟨hnew, hd⟩

/-- What an entry declares: its constant, and after it that of its type when it is
one of an attribute. -/
theorem planProperty_constants (h : (s.planProperty c declared p).outcome = .ok (e, declared')) :
    constantIdent p = .ok e.constant ∧
    ∃ declared₁, declare c p e.constant declared = .ok declared₁ ∧
      ((p.kind = .attribute ∧ ∃ t context, e.typeConstant = some t ∧
          checkedIdent (typeConstantName p.name) context = .ok t.name ∧
          declare c p t.name declared₁ = .ok declared') ∨
        (p.kind = .relation ∧ e.typeConstant = none ∧ declared' = declared₁)) := by
  unfold planProperty at h
  simp only [Traced.outcome_bind, Traced.outcome_lift, bind_eq_ok] at h
  obtain ⟨constant, hconstant, declared₁, hfirst, h⟩ := h
  match hk : p.kind with
  | .attribute =>
    simp only [hk, Traced.outcome_bind, Traced.outcome_lift, bind_eq_ok] at h
    obtain ⟨primitive, -, name, hname, declared₂, hsecond, access, -, h⟩ := h
    obtain ⟨rfl, rfl⟩ := Prod.mk.inj (Except.ok.inj h)
    exact ⟨hconstant, declared₁, hfirst, .inl ⟨rfl, _, _, rfl, hname, hsecond⟩⟩
  | .relation =>
    rw [hk] at h
    by_cases hs : p.isStored = true
    · simp only [hs, Bool.not_true, Bool.false_eq_true, if_false, Traced.outcome_bind,
        bind_eq_ok] at h
      obtain ⟨access, -, h⟩ := h
      obtain ⟨rfl, rfl⟩ := Prod.mk.inj (Except.ok.inj h)
      exact ⟨hconstant, declared₁, hfirst, .inr ⟨rfl, rfl, rfl⟩⟩
    · simp only [hs, Bool.not_false, if_true, Traced.outcome_bind, bind_eq_ok] at h
      obtain ⟨_, -, h⟩ := h
      obtain ⟨rfl, rfl⟩ := Prod.mk.inj (Except.ok.inj h)
      exact ⟨hconstant, declared₁, hfirst, .inr ⟨rfl, rfl, rfl⟩⟩

theorem planProperty_declares (h : (s.planProperty c declared p).outcome = .ok (e, declared')) :
    declared' = e.constants.reverse ++ declared ∧ (declared.Nodup → declared'.Nodup) := by
  obtain ⟨-, declared₁, hfirst, ⟨-, t, _, ht, -, hsecond⟩ | ⟨-, hnone, rfl⟩⟩ :=
    planProperty_constants h
  · refine ⟨?_, fun hd => nodup_declare hsecond (nodup_declare hfirst hd)⟩
    rw [(declare_ok hsecond).2, (declare_ok hfirst).2, PropertyPlan.constants, ht]
    rfl
  · refine ⟨?_, nodup_declare hfirst⟩
    rw [(declare_ok hfirst).2, PropertyPlan.constants, hnone]
    rfl

/-- No constant of a plan stands twice, nor among those declared before. -/
theorem planProperties_declare {ps : List Property} {plans : List PropertyPlan}
    (h : (s.planProperties c declared ps).outcome = .ok plans) (hd : declared.Nodup) :
    (declared.reverse ++ plans.flatMap PropertyPlan.constants).Nodup := by
  induction ps generalizing declared plans with
  | nil =>
    rw [← Except.ok.inj h, List.flatMap_nil, List.append_nil]
    exact List.nodup_reverse.mpr hd
  | cons p rest ih =>
    simp only [planProperties, Traced.outcome_bind, bind_eq_ok] at h
    obtain ⟨⟨e, declared'⟩, he, plans', hrest, h⟩ := h
    obtain ⟨rfl, hkept⟩ := planProperty_declares he
    have hall := ih hrest (hkept hd)
    rw [List.reverse_append, List.reverse_reverse, List.append_assoc] at hall
    rw [← Except.ok.inj h, List.flatMap_cons]
    exact hall

theorem constants_planProperty (hp : Text.IsWord p.name)
    (h : (s.planProperty c declared p).outcome = .ok (e, declared')) :
    e.constants = propertyConstants p := by
  have hconstant := Text.isWord_constantCase hp
  have htype : Text.IsWord (typeConstantName p.name) :=
    Text.isWord_append hconstant (by decide)
  obtain ⟨hfirst, _, -, ⟨hk, t, _, ht, hsecond, -⟩ | ⟨hk, hnone, -⟩⟩ := planProperty_constants h
  · rw [PropertyPlan.constants, propertyConstants, hk, ht,
      Code.identifier?_word hconstant (checkedIdent_eq_ok.mp hfirst)]
    simp [Code.identifier?_word htype (checkedIdent_eq_ok.mp hsecond)]
  · rw [PropertyPlan.constants, propertyConstants, hk, hnone,
      Code.identifier?_word hconstant (checkedIdent_eq_ok.mp hfirst)]
    rfl

end Scope

/-! ## Casings -/

/-- The constant forms of words differ only if their snake forms do. -/
theorem constantCase_congr {a b : String} (ha : Text.IsWord a) (hb : Text.IsWord b)
    (h : Text.snakeCase a = Text.snakeCase b) : Text.constantCase a = Text.constantCase b := by
  rw [Text.constantCase_eq ha, Text.constantCase_eq hb, h]

theorem spelled_snakeCase {name : String} (h : Text.IsWord name) :
    Code.spelled (Text.snakeCase name) = Text.snakeCase name :=
  Code.spelled_word (Text.isWord_snakeCase h)

/-- Words of distinct constant forms have distinct snake forms. -/
theorem nodup_snake_of_constant {α : Type} {as : List α} {name : α → String}
    (hwords : ∀ a ∈ as, Text.IsWord (name a))
    (h : (as.map fun a => Text.constantCase (name a)).Nodup) :
    (as.map fun a => Code.spelled (Text.snakeCase (name a))).Nodup := by
  refine (List.nodup_map_iff_inj_on h.of_map).mpr fun a ha b hb heq => ?_
  rw [spelled_snakeCase (hwords a ha), spelled_snakeCase (hwords b hb)] at heq
  exact List.inj_on_of_nodup_map h ha hb (constantCase_congr (hwords a ha) (hwords b hb) heq)

/-! ## The methods of indexes -/

namespace Scope

variable {s : Scope} {c : Schema.Class} {a : Accessor} {artifacts : List Artifact} {x : IndexMethod}

/-- No two indexes have the same constant on the facade. -/
theorem planIndexConstants_nodup {seen : List String} {indexes : List Index}
    {constants : List IndexConstant} (h : planIndexConstants seen indexes = .ok constants)
    (hseen : seen.Nodup) :
    (seen.reverse ++ indexes.map fun i => indexConstantName i.name).Nodup := by
  induction indexes generalizing seen constants with
  | nil =>
    rw [List.map_nil, List.append_nil]
    exact List.nodup_reverse.mpr hseen
  | cons i rest ih =>
    simp only [planIndexConstants] at h
    split at h
    · exact nomatch h
    · rename_i hnew
      simp only [bind_eq_ok] at h
      obtain ⟨name, -, others, hothers, -⟩ := h
      have hkept : (indexConstantName i.name :: seen).Nodup :=
        List.nodup_cons.mpr ⟨fun hmem => hnew (List.contains_iff_mem.mpr hmem), hseen⟩
      have hall := ih hothers hkept
      rw [List.reverse_cons, List.append_assoc] at hall
      exact hall

theorem planFacade_indexes {facade : Facade} (h : s.planFacade = .ok facade) :
    (s.model.indexes.map fun i => indexConstantName i.name).Nodup := by
  simp only [planFacade, bind_eq_ok] at h
  obtain ⟨_, -, _, -, constants, hconstants, -⟩ := h
  exact planIndexConstants_nodup hconstants List.nodup_nil

/-- The index of a method is one of the model. -/
theorem EntityOf.index_mem (h : EntityOf s artifacts c a) (hx : x ∈ a.indexMethods) :
    x.group.index ∈ s.model.indexes := by
  obtain ⟨e, he, hcover⟩ := (grouped_indexGroups _).covers _ (h.mem_groups hx)
  have hindex := (h.coversFirst he).index
  rw [hcover] at hindex
  split at hindex
  · exact Model.mem_indexes_of_indexesOf (List.mem_of_mem_head? hindex.symm)
  · exact nomatch hindex

/-- The methods of an accessor have indexes of different names when all indexes
have. -/
theorem EntityOf.nodup_indexMethods (h : EntityOf s artifacts c a)
    (hnames : (s.model.indexes.map Index.spelledName).Nodup) :
    (a.indexMethods.map (·.group.index.spelledName)).Nodup := by
  have hindexes : (a.indexMethods.map (·.group.index)).Nodup := by
    have hdistinct := (grouped_indexGroups a.properties).distinct
    rw [← h.groups_planned, List.map_map] at hdistinct
    refine List.Nodup.of_map Index.fqn ?_
    rw [List.map_map]
    exact hdistinct
  have hmap : a.indexMethods.map (·.group.index.spelledName) =
      (a.indexMethods.map (·.group.index)).map Index.spelledName := by
    rw [List.map_map]
    rfl
  rw [hmap, List.nodup_map_iff_inj_on hindexes]
  intro i hi j hj
  obtain ⟨x, hx, rfl⟩ := List.mem_map.mp hi
  obtain ⟨y, hy, rfl⟩ := List.mem_map.mp hj
  exact List.inj_on_of_nodup_map hnames (h.index_mem hx) (h.index_mem hy)

end Scope

/-! ## Accessors -/

namespace Accessor

/-- The methods for properties and indexes, in the order they are written. -/
def methodNames (a : Accessor) : List MethodName :=
  a.properties.flatMap PropertyPlan.methodNames ++
    a.indexMethods.map fun x => ⟨.index, x.group.index.spelledName⟩

theorem constantName?_method (attributes : List Code.Attribute) (name : String)
    (params : List Code.Param) (output : Option Code.Ty) (body : List Code.Stmt) :
    (method attributes name params output body).constantName? = none := rfl

theorem functionName?_method (attributes : List Code.Attribute) (name : String)
    (params : List Code.Param) (output : Option Code.Ty) (body : List Code.Stmt) :
    (method attributes name params output body).functionName? = some name := rfl

theorem constantName?_text (visibility name text : String) :
    (textConstant visibility name text).constantName? = some name := rfl

theorem functionName?_text (visibility name text : String) :
    (textConstant visibility name text).functionName? = none := rfl

theorem inherentConstants_file (s : Scope) (a : Accessor) :
    (a.file s).inherentConstants =
      nodeNameConstant :: a.properties.flatMap PropertyPlan.constants := by
  have hproperty : ∀ e : PropertyPlan,
      (constants e s).filterMap Code.Member.constantName? = e.constants := by
    intro e
    rw [constants, PropertyPlan.constants]
    cases e.typeConstant <;> rfl
  have hmethods : ∀ e : PropertyPlan,
      (accessMethods s e).filterMap Code.Member.constantName? = [] := by
    intro e
    rw [accessMethods]
    cases e.access with
    | none => rfl
    | plain access => rfl
    | learned access => rfl
    | relation access =>
      show (relationMethods s e access).filterMap Code.Member.constantName? = []
      rw [relationMethods]
      cases access.internal <;> rfl
  have hindex : a.indexMethods.filterMap (Code.Member.constantName? ∘ indexMethod s) = [] :=
    List.filterMap_eq_nil_iff.mpr fun x _ => rfl
  have hnone : a.properties.flatMap (fun _ => ([] : List String)) = [] :=
    List.flatMap_eq_nil_iff.mpr fun _ _ => rfl
  simp only [Code.File.inherentConstants, file, List.flatMap_cons, List.flatMap_nil,
    List.filterMap_append, List.filterMap_map, List.filterMap_flatMap, List.filterMap_cons,
    List.filterMap_nil, constantName?_method, constantName?_text, hproperty, hmethods, hindex,
    hnone, List.nil_append, List.append_nil, List.cons_append]

theorem names_accessMethods (s : Scope) (e : PropertyPlan) :
    (accessMethods s e).filterMap Code.Member.functionName? = e.access.methods := by
  rw [accessMethods]
  cases e.access with
  | none => rfl
  | plain access => rfl
  | learned access => rfl
  | relation access =>
    show (relationMethods s e access).filterMap Code.Member.functionName? = _
    rw [relationMethods, Access.methods]
    cases access.internal <;> rfl

theorem inherentNames_file (s : Scope) (a : Accessor) :
    (a.file s).inherentNames = MethodName.fixed ++ a.properties.flatMap (·.access.methods) ++
      a.indexMethods.map (·.group.method) := by
  have hproperty : ∀ e : PropertyPlan,
      (constants e s).filterMap Code.Member.functionName? = [] := by
    intro e
    rw [constants]
    cases e.typeConstant <;> rfl
  have hindex : Code.Member.functionName? ∘ indexMethod s = some ∘ (·.group.method) := rfl
  have hnone : a.properties.flatMap (fun _ => ([] : List String)) = [] :=
    List.flatMap_eq_nil_iff.mpr fun _ _ => rfl
  simp only [Code.File.inherentNames, file, List.flatMap_cons, List.flatMap_nil,
    List.filterMap_append, List.filterMap_map, List.filterMap_flatMap, List.filterMap_cons,
    List.filterMap_nil, functionName?_method, functionName?_text, hproperty, names_accessMethods,
    hindex, hnone, List.filterMap_eq_map, List.nil_append, List.append_nil, MethodName.fixed]

end Accessor

/-! ## Runs -/

/-- What the methods of an accessor are called after: a property of its class, or
an index of the model. -/
inductive MethodName.IsOf (m : Model) (c : Schema.Class) : MethodName → Prop
  | property {v : AccessVerb} {p : Property} (hv : v ≠ .index) (hp : p ∈ c.properties) :
    IsOf m c ⟨v, Text.snakeCase p.name⟩
  | index {i : Index} (hi : i ∈ m.indexes) : IsOf m c ⟨.index, Text.snakeCase i.name⟩

/-- The file of an accessor declares no constant twice and no method twice. -/
structure NamesApart (m : Model) (c : Schema.Class) (file : Code.File) : Prop where
  constants : file.inherentConstants = classConstants c
  methods : ∃ names : List MethodName,
    file.inherentNames = MethodName.fixed ++ names.map MethodName.text ∧ ∀ n ∈ names, n.IsOf m c
  distinctConstants : file.inherentConstants.Nodup
  distinctMethods : file.inherentNames.Nodup

namespace Scope

variable {s : Scope} {c : Schema.Class} {a : Accessor} {artifacts : List Artifact}
  {m : Model} {config : Config}

theorem EntityOf.constants_eq (h : EntityOf s artifacts c a)
    (hwords : ∀ p ∈ c.properties, Text.IsWord p.name) :
    (a.file s).inherentConstants = classConstants c := by
  obtain ⟨hmap, hplanned⟩ := planProperties_ok (planAccessor_ok h.planned).2
  have hentry : ∀ e ∈ a.properties, e.constants = propertyConstants e.property := by
    intro e he
    obtain ⟨before, after, hplan⟩ := hplanned e he
    exact constants_planProperty (hwords _ (h.property_mem he)) hplan
  rw [Accessor.inherentConstants_file, classConstants, ← hmap, List.flatMap_map]
  exact congrArg (nodeNameConstant :: ·) (List.flatMap_congr hentry)

theorem EntityOf.methods_eq (h : EntityOf s artifacts c a) :
    (a.file s).inherentNames = MethodName.fixed ++ a.methodNames.map MethodName.text := by
  obtain ⟨-, hplanned⟩ := planProperties_ok (planAccessor_ok h.planned).2
  have hproperties : a.properties.flatMap (·.access.methods) =
      (a.properties.flatMap PropertyPlan.methodNames).map MethodName.text := by
    rw [List.map_flatMap]
    refine List.flatMap_congr fun e he => ?_
    obtain ⟨before, after, hplan⟩ := hplanned e he
    exact methods_planProperty hplan
  have hindexes : a.indexMethods.map (·.group.method) =
      (a.indexMethods.map fun x => (⟨.index, x.group.index.spelledName⟩ : MethodName)).map
        MethodName.text := by
    rw [List.map_map]
    exact List.map_congr_left fun x hx => (h.method_planned hx).2.2
  rw [Accessor.inherentNames_file, hproperties, hindexes, Accessor.methodNames, List.map_append,
    List.append_assoc]

/-- The properties of a class have different snake forms, since their constants
differ. -/
theorem nodup_spelled_properties (hwords : ∀ p ∈ c.properties, Text.IsWord p.name)
    (h : (classConstants c).Nodup) : (c.properties.map Property.spelledName).Nodup := by
  have hfirst : (c.properties.map fun p => Text.constantCase p.name).Nodup := by
    refine (List.nodup_cons.mp h).2.sublist ?_
    rw [List.map_eq_flatMap]
    exact List.Sublist.flatMap_right _ fun p _ => (List.nil_sublist _).cons_cons _
  exact nodup_snake_of_constant hwords hfirst

theorem nodup_spelled_indexes (hwords : ∀ i ∈ m.indexes, Text.IsWord i.name)
    (h : (m.indexes.map fun i => indexConstantName i.name).Nodup) :
    (m.indexes.map Index.spelledName).Nodup := by
  refine nodup_snake_of_constant hwords (List.Nodup.of_map ("IDX_" ++ ·) ?_)
  rw [List.map_map]
  exact h

theorem EntityOf.nodup_methods (h : EntityOf s artifacts c a)
    (hproperties : (c.properties.map Property.spelledName).Nodup)
    (hindexes : (s.model.indexes.map Index.spelledName).Nodup) : a.methodNames.Nodup := by
  have hplans : (a.properties.map (·.property.spelledName)).Nodup := by
    rw [← (planProperties_ok (planAccessor_ok h.planned).2).1, List.map_map] at hproperties
    exact hproperties
  have hmethods : (a.indexMethods.map
      fun x => (⟨.index, x.group.index.spelledName⟩ : MethodName)).Nodup := by
    refine List.Nodup.of_map MethodName.subject ?_
    rw [List.map_map]
    exact h.nodup_indexMethods hindexes
  rw [Accessor.methodNames, List.nodup_append]
  refine ⟨nodup_methodNames hplans, hmethods, ?_⟩
  rintro n hn _ hmem rfl
  obtain ⟨e, -, he⟩ := List.mem_flatMap.mp hn
  obtain ⟨x, -, rfl⟩ := List.mem_map.mp hmem
  exact (mem_methodNames he).1 rfl

theorem EntityOf.namesApart (h : EntityOf s artifacts c a) (hm : s.model.HasWordNames)
    (hc : c ∈ s.model.classes)
    (hindexes : (s.model.indexes.map fun i => indexConstantName i.name).Nodup) :
    NamesApart s.model c (a.file s) := by
  have hproperties := hm.properties c hc
  have hnames : ∀ i ∈ s.model.indexes, Text.IsWord i.name := by
    intro i hi
    refine hm.classifiers (.ofIndex i) (Model.mem_classifiers.mpr ?_)
    exact Model.index?_eq_some.mp (Model.mem_indexes.mp hi)
  have hconstants := h.constants_eq hproperties
  have hdistinct : (classConstants c).Nodup := by
    rw [← hconstants, Accessor.inherentConstants_file]
    exact planProperties_declare (planAccessor_ok h.planned).2 (List.nodup_singleton _)
  refine ⟨hconstants, ⟨_, h.methods_eq, fun n hn => ?_⟩, hconstants ▸ hdistinct, ?_⟩
  · rcases List.mem_append.mp hn with hn | hn
    · obtain ⟨e, he, hmem⟩ := List.mem_flatMap.mp hn
      have hp := h.property_mem he
      obtain ⟨v, hv, rfl⟩ := List.mem_map.mp hmem
      rw [Property.spelledName, spelled_snakeCase (hproperties _ hp)]
      exact .property (fun heq => e.access.index_not_verb (heq ▸ hv)) hp
    · obtain ⟨x, hx, rfl⟩ := List.mem_map.mp hn
      have hi := h.index_mem hx
      rw [Index.spelledName, spelled_snakeCase (hnames _ hi)]
      exact .index hi
  · rw [h.methods_eq, MethodName.nodup_fixed_append]
    exact h.nodup_methods (nodup_spelled_properties hproperties hdistinct)
      (nodup_spelled_indexes hnames hindexes)

end Scope

variable {m : Model} {config : Config} {artifacts : List Artifact}

/-- A run over names made of words gives an accessor to every class, and to none
else, and no accessor declares a constant or a method twice. -/
theorem accessor_names_apart (h : (generate m config).outcome = .ok artifacts)
    (hm : m.HasWordNames) :
    ∃ s, Scope.of m config = .ok s ∧
      (∀ c ∈ m.classes, ∃ a, Scope.EntityOf s artifacts c a ∧ NamesApart m c (a.file s)) ∧
      ∀ x ∈ artifacts, x.kind = .entity → ∃ c ∈ m.classes, ∃ a, Scope.EntityOf s artifacts c a ∧
        x.body = (a.file s).text ∧ NamesApart m c (a.file s) := by
  obtain ⟨s, facade, api, hs, hfacade, -, -, -⟩ := Scope.generate_globals h
  obtain ⟨s', hs', hclasses, hentities⟩ := Scope.entities_of_generate h
  obtain rfl : s = s' := Except.ok.inj (hs.symm.trans hs')
  obtain rfl : s.model = m := (Scope.of_eq_ok hs).1
  obtain ⟨plan, hplan, -⟩ := bind_eq_ok.mp hfacade
  have hapart : ∀ c ∈ s.model.classes, ∀ a, Scope.EntityOf s artifacts c a →
      NamesApart s.model c (a.file s) := fun c hc a ha =>
    ha.namesApart hm hc (Scope.planFacade_indexes hplan)
  refine ⟨s, hs, fun c hc => ?_, fun x hx hkind => ?_⟩
  · obtain ⟨a, ha⟩ := hclasses c hc
    exact ⟨a, ha, hapart c hc a ha⟩
  · obtain ⟨c, hc, a, ha, hbody⟩ := hentities x hx hkind
    exact ⟨c, hc, a, ha, hbody, hapart c hc a ha⟩

theorem contacts_names_apart :
    (Model.empty.run contacts).HasWordNames ∧
      ∃ artifacts s, (generate (Model.empty.run contacts) {}).outcome = .ok artifacts ∧
        ∀ c ∈ (Model.empty.run contacts).classes, ∃ a, Scope.EntityOf s artifacts c a ∧
          (a.file s).inherentConstants.Nodup ∧ (a.file s).inherentNames.Nodup := by
  obtain ⟨⟨artifacts, h⟩, -⟩ := contacts_generate
  have hwords : (Model.empty.run contacts).HasWordNames := by constructor <;> decide +kernel
  obtain ⟨s, -, hclasses, -⟩ := accessor_names_apart h hwords
  refine ⟨hwords, artifacts, s, h, fun c hc => ?_⟩
  obtain ⟨a, ha, hapart⟩ := hclasses c hc
  exact ⟨a, ha, hapart.distinctConstants, hapart.distinctMethods⟩

end Generate
end TypedGraph
