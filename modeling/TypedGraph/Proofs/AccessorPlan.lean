/-
What planning an accessor decides, when it succeeds.

Each planning step has one lemma that says what its result consists of, and the
proofs about accessors draw on these and not on the steps.
-/
import TypedGraph.Generate.AccessorFile

namespace TypedGraph
namespace Generate

open Schema (Model Property TypeRef)
open Code (Path)

theorem checkedIdent_eq_ok {value context name : String} :
    checkedIdent value context = .ok name ↔ Code.identifier? value = some name := by
  unfold checkedIdent
  cases Code.identifier? value with
  | none => exact ⟨fun h => (nomatch h), fun h => (nomatch h)⟩
  | some found => rw [Except.ok.injEq, Option.some.injEq]

/-- The names of the internal mutators of a relation. -/
def helperNames? (relation : String) : Option OppositeCalls := do
  let add ← Code.identifier? (methodName "internal_add_to" relation)
  let remove ← Code.identifier? (methodName "internal_remove_from" relation)
  return { add, remove }

theorem helperNames?_eq_some {relation : String} {calls : OppositeCalls}
    (hadd : Code.identifier? (methodName "internal_add_to" relation) = some calls.add)
    (hremove : Code.identifier? (methodName "internal_remove_from" relation) = some calls.remove) :
    helperNames? relation = some calls := by
  unfold helperNames?
  rw [hadd, hremove]
  rfl

namespace Scope

variable {s : Scope} {c : Schema.Class} {p : Property}

theorem of_eq_ok {model : Model} {config : Config} (h : Scope.of model config = .ok s) :
    s.model = model ∧ s.config = config := by
  simp only [Scope.of, bind_eq_ok] at h
  obtain ⟨target, -, _, -, host, -, root, -, h⟩ := h
  rw [← Except.ok.inj h]
  exact ⟨rfl, rfl⟩

/-! ## Relations -/

/-- A declared type that is no primitive is the name of the target. -/
theorem resolve_classifier {declared fqn : String}
    (h : TypeRef.resolve declared = .classifier fqn) : fqn = declared := by
  unfold TypeRef.resolve at h
  split at h
  · exact nomatch h
  · exact (TypeRef.classifier.inj h).symm

theorem relationTarget_ok {target : Option (String × Path)}
    (h : (s.relationTarget p).outcome = .ok target) :
    (∃ primitive, p.typeRef = .primitive primitive ∧ target = none) ∨
    (∃ path, p.typeRef = .classifier p.type ∧ target = some (p.type, path) ∧
      ∀ found, s.model.get? p.type = some found → s.classifierPath found.ident = .ok path) := by
  unfold relationTarget at h
  cases ht : p.typeRef with
  | primitive primitive =>
    rw [ht] at h
    exact .inl ⟨primitive, rfl, (Except.ok.inj h).symm⟩
  | classifier fqn =>
    have hfqn : fqn = p.type := resolve_classifier ht
    subst hfqn
    rw [ht] at h
    cases hget : s.model.get? p.type with
    | none =>
      simp only [hget, Traced.outcome_bind, bind_eq_ok] at h
      obtain ⟨_, -, _, -, path, -, h⟩ := h
      exact .inr ⟨path, rfl, (Except.ok.inj h).symm, fun found hfound => (nomatch hfound)⟩
    | some classifier =>
      simp only [hget, Traced.outcome_bind, bind_eq_ok] at h
      obtain ⟨ident, hident, path, hpath, h⟩ := h
      refine .inr ⟨path, rfl, (Except.ok.inj h).symm, ?_⟩
      intro found hfound
      rw [← Option.some.inj hfound, show classifier.ident = ident from Except.ok.inj hident]
      exact hpath

theorem storedOpposite_eq_some {target opposite : String}
    (h : s.storedOpposite p target = some opposite) :
    p.opposite = some opposite ∧ ∃ owner found,
      s.model.findProperty target opposite = some (owner, found) ∧ found.isRelation = true ∧
        found.isStored = true := by
  obtain ⟨ho, hf⟩ := Option.filter_eq_some_iff.mp h
  refine ⟨ho, ?_⟩
  cases hfind : s.model.findProperty target opposite with
  | none =>
    rw [hfind] at hf
    exact nomatch hf
  | some entry =>
    obtain ⟨owner, found⟩ := entry
    rw [hfind] at hf
    rw [Bool.and_eq_true] at hf
    exact ⟨owner, found, rfl, hf⟩

theorem oppositeCalls_ok {target : String} {calls : OppositeCalls}
    (h : (s.oppositeCalls p target).outcome = .ok (some calls)) :
    ∃ opposite, s.storedOpposite p target = some opposite ∧
      helperNames? opposite = some calls := by
  unfold oppositeCalls at h
  cases ho : p.opposite with
  | none =>
    rw [ho] at h
    exact nomatch h
  | some opposite =>
    rw [ho] at h
    cases hs : s.storedOpposite p target with
    | none =>
      rw [hs] at h
      exact nomatch h
    | some stored =>
      rw [hs] at h
      simp only [Traced.outcome_bind, Traced.outcome_lift, bind_eq_ok, checkedIdent_eq_ok] at h
      obtain ⟨add, hadd, remove, hremove, h⟩ := h
      have hcalls : { add, remove } = calls := Option.some.inj (Except.ok.inj h)
      have heq : opposite = stored := Option.some.inj (ho.symm.trans (storedOpposite_eq_some hs).1)
      subst hcalls heq
      exact ⟨opposite, rfl, helperNames?_eq_some hadd hremove⟩

/-- A relation that takes part in a pair gets its internal mutators. -/
theorem internalCalls_ok {internal : Option OppositeCalls} (hneeds : s.needsInternal c p = true)
    (h : s.internalCalls c p = .ok internal) :
    ∃ calls, internal = some calls ∧ helperNames? p.name = some calls := by
  unfold internalCalls at h
  rw [if_pos hneeds] at h
  simp only [bind_eq_ok, checkedIdent_eq_ok] at h
  obtain ⟨add, hadd, remove, hremove, h⟩ := h
  exact ⟨_, (Except.ok.inj h).symm, helperNames?_eq_some hadd hremove⟩

theorem planRelation_ok {access : Access} (h : (s.planRelation c p).outcome = .ok access) :
    (∃ primitive, p.typeRef = .primitive primitive ∧ access = .none) ∨
    (∃ a, access = .relation a ∧ p.typeRef = .classifier p.type ∧
      (∀ found, s.model.get? p.type = some found → s.classifierPath found.ident = .ok a.target) ∧
      (s.oppositeCalls p p.type).outcome = .ok a.opposite ∧
      s.internalCalls c p = .ok a.internal) := by
  unfold planRelation at h
  simp only [Traced.outcome_bind, bind_eq_ok] at h
  obtain ⟨target, htarget, h⟩ := h
  rcases relationTarget_ok htarget with ⟨primitive, hp, rfl⟩ | ⟨path, hp, rfl, hpath⟩
  · exact .inl ⟨primitive, hp, (Except.ok.inj h).symm⟩
  · simp only [Traced.outcome_bind, Traced.outcome_lift, bind_eq_ok] at h
    obtain ⟨getter, -, add, -, remove, -, opposite, hopposite, internal, hinternal, h⟩ := h
    exact .inr ⟨_, (Except.ok.inj h).symm, hp, hpath, hopposite, hinternal⟩

/-! ## Properties -/

theorem cover_ok {cover : Option Cover} (h : s.cover c p = .ok cover) :
    cover.map Cover.index = (s.model.indexesOf c.fqn p.name).head? ∧
    ∀ x, cover = some x → Code.identifier? (methodName "index" x.index.name) = some x.method := by
  unfold Scope.cover at h
  cases hindexes : s.model.indexesOf c.fqn p.name with
  | nil =>
    rw [hindexes] at h
    rw [← Except.ok.inj h]
    exact ⟨rfl, fun x hx => nomatch hx⟩
  | cons index rest =>
    simp only [hindexes, bind_eq_ok, checkedIdent_eq_ok] at h
    obtain ⟨method, hmethod, h⟩ := h
    rw [← Except.ok.inj h]
    refine ⟨rfl, fun x hx => ?_⟩
    rw [← Option.some.inj hx]
    exact hmethod

/-- An attribute is left out, learned, or stored and covered. -/
theorem planAttribute_cases {access : Access} (h : (s.planAttribute c p).outcome = .ok access) :
    (p.isStored = false ∧ access = .none) ∨
    (p.isStored = true ∧ p.algorithm.isSome ∧ ∃ a, access = .learned a) ∨
    (p.isStored = true ∧ p.algorithm = none ∧
      ∃ a, access = .plain a ∧ s.cover c p = .ok a.cover) := by
  unfold planAttribute at h
  by_cases hstored : p.isStored = true
  · simp only [hstored, Bool.not_true, Bool.false_eq_true, if_false] at h
    cases halgorithm : p.algorithm with
    | some algorithm =>
      simp only [halgorithm, Traced.outcome_bind, Traced.outcome_lift, bind_eq_ok] at h
      obtain ⟨getter, -, setter, -, h⟩ := h
      exact .inr (.inl ⟨hstored, rfl, _, (Except.ok.inj h).symm⟩)
    | none =>
      simp only [halgorithm, Traced.outcome_bind, Traced.outcome_lift, bind_eq_ok] at h
      obtain ⟨cover, hcover, getter, -, setter, -, h⟩ := h
      exact .inr (.inr ⟨hstored, rfl, _, (Except.ok.inj h).symm, hcover⟩)
  · have hfalse : p.isStored = false := Bool.eq_false_iff.mpr hstored
    simp only [hfalse, Bool.not_false, if_true, Traced.outcome_bind, bind_eq_ok] at h
    obtain ⟨_, -, h⟩ := h
    exact .inl ⟨hfalse, (Except.ok.inj h).symm⟩

/-- The entry of a property has its constant, and the access that its kind calls
for. -/
theorem planProperty_cases {declared declared' : List String} {e : PropertyPlan}
    (h : (s.planProperty c declared p).outcome = .ok (e, declared')) :
    e.property = p ∧ constantIdent p = .ok e.constant ∧
    ((p.isAttribute = true ∧ (s.planAttribute c p).outcome = .ok e.access) ∨
      (p.isRelation = true ∧ p.isStored = false ∧ e.access = .none) ∨
      (p.isRelation = true ∧ p.isStored = true ∧ (s.planRelation c p).outcome = .ok e.access)) := by
  unfold planProperty at h
  simp only [Traced.outcome_bind, Traced.outcome_lift, bind_eq_ok] at h
  obtain ⟨constant, hconstant, declared₁, -, h⟩ := h
  match hk : p.kind with
  | .attribute =>
    simp only [hk, Traced.outcome_bind, Traced.outcome_lift, bind_eq_ok] at h
    obtain ⟨primitive, -, name, -, declared₂, -, access, haccess, h⟩ := h
    obtain ⟨rfl, -⟩ := Prod.mk.inj (Except.ok.inj h)
    refine ⟨rfl, hconstant, .inl ⟨?_, haccess⟩⟩
    rw [Property.isAttribute, hk]
    rfl
  | .relation =>
    have hr : p.isRelation = true := by
      rw [Property.isRelation, hk]
      rfl
    rw [hk] at h
    by_cases hs : p.isStored = true
    · simp only [hs, Bool.not_true, Bool.false_eq_true, if_false, Traced.outcome_bind,
        bind_eq_ok] at h
      obtain ⟨access, haccess, h⟩ := h
      obtain ⟨rfl, -⟩ := Prod.mk.inj (Except.ok.inj h)
      exact ⟨rfl, hconstant, .inr (.inr ⟨hr, hs, haccess⟩)⟩
    · simp only [hs, Bool.not_false, if_true, Traced.outcome_bind, bind_eq_ok] at h
      obtain ⟨_, -, h⟩ := h
      obtain ⟨rfl, -⟩ := Prod.mk.inj (Except.ok.inj h)
      exact ⟨rfl, hconstant, .inr (.inl ⟨hr, Bool.eq_false_iff.mpr hs, rfl⟩)⟩

/-- The entry of a property is its own, and only that of a stored relation may
hold the methods of one. -/
theorem planProperty_ok {declared declared' : List String} {e : PropertyPlan}
    (h : (s.planProperty c declared p).outcome = .ok (e, declared')) :
    e.property = p ∧
    (p.isRelation = true → p.isStored = true → (s.planRelation c p).outcome = .ok e.access) ∧
    (∀ a, e.access = .relation a → p.isRelation = true ∧ p.isStored = true) := by
  obtain ⟨he, -, ⟨hattribute, haccess⟩ | ⟨-, hstored, haccess⟩ | ⟨hrelation, hstored, haccess⟩⟩ :=
    planProperty_cases h
  · refine ⟨he, fun hrelation => ?_, fun a ha => ?_⟩
    · rw [Property.isAttribute, beq_iff_eq] at hattribute
      rw [Property.isRelation, hattribute] at hrelation
      exact nomatch hrelation
    · rcases planAttribute_cases haccess with ⟨-, hnone⟩ | ⟨-, -, l, hlearned⟩ |
        ⟨-, -, l, hplain, -⟩
      · exact nomatch hnone.symm.trans ha
      · exact nomatch hlearned.symm.trans ha
      · exact nomatch hplain.symm.trans ha
  · refine ⟨he, fun _ hs => ?_, fun a ha => nomatch haccess.symm.trans ha⟩
    rw [hstored] at hs
    exact nomatch hs
  · exact ⟨he, fun _ _ => haccess, fun _ _ => ⟨hrelation, hstored⟩⟩

/-- One entry per property, in order, each planned for its property. -/
theorem planProperties_ok {declared : List String} {ps : List Property} {plans : List PropertyPlan}
    (h : (s.planProperties c declared ps).outcome = .ok plans) :
    plans.map PropertyPlan.property = ps ∧
    ∀ e ∈ plans, ∃ before after, (s.planProperty c before e.property).outcome = .ok (e, after) := by
  induction ps generalizing declared plans with
  | nil =>
    have hplans := Except.ok.inj h
    subst hplans
    exact ⟨rfl, fun e he => absurd he List.not_mem_nil⟩
  | cons p rest ih =>
    simp only [planProperties, Traced.outcome_bind, bind_eq_ok] at h
    obtain ⟨⟨e, after⟩, he, plans', hrest, h⟩ := h
    have hplans := Except.ok.inj h
    subst hplans
    obtain ⟨hmap, hall⟩ := ih hrest
    have hp : e.property = p := (planProperty_ok he).1
    refine ⟨by rw [List.map_cons, hmap, hp], fun e' he' => ?_⟩
    rcases List.mem_cons.mp he' with rfl | he'
    · rw [hp]
      exact ⟨declared, after, he⟩
    · exact hall e' he'

/-! ## Accessors -/

theorem planAccessor_ok {a : Accessor} (h : (s.planAccessor c).outcome = .ok a) :
    (s.resolvedParent c).mapM (fun parent => s.classifierPath parent.ident) = .ok a.base ∧
    (s.planProperties c [nodeNameConstant] c.properties).outcome = .ok a.properties := by
  unfold planAccessor at h
  simp only [Traced.outcome_bind, Traced.outcome_lift, bind_eq_ok] at h
  obtain ⟨typeName, -, _, -, base, hbase, properties, hproperties, methods, -, h⟩ := h
  have ha := Except.ok.inj h
  subst ha
  rw [Traced.outcome_mapM_of] at hbase
  exact ⟨hbase, hproperties⟩

theorem planIndexMethod_ok {group : IndexGroup} {m : IndexMethod}
    (h : s.planIndexMethod group = .ok m) :
    m.group = group ∧ s.modelPath = .ok m.facade ∧
      Code.identifier? (indexConstantName group.index.name) = some m.constant := by
  simp only [planIndexMethod, bind_eq_ok, checkedIdent_eq_ok] at h
  obtain ⟨facade, hfacade, constant, hconstant, h⟩ := h
  rw [← Except.ok.inj h]
  exact ⟨rfl, hfacade, hconstant⟩

theorem planAccessor_indexMethods {a : Accessor} (h : (s.planAccessor c).outcome = .ok a) :
    (indexGroups a.properties).mapM s.planIndexMethod = .ok a.indexMethods := by
  unfold planAccessor at h
  simp only [Traced.outcome_bind, Traced.outcome_lift, bind_eq_ok] at h
  obtain ⟨typeName, -, _, -, base, -, properties, -, methods, hmethods, h⟩ := h
  rw [← Except.ok.inj h]
  exact hmethods

end Scope

end Generate
end TypedGraph
