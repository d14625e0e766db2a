/-
Calls to the other end of a relation.

The mutators of a relation with an opposite call helpers of the target's
accessor, which are methods of the class that has the opposite.  Where that class
is found, whether it makes helpers, and which accessor is built over which are
decided apart from each other.  In a model without diagnostics they agree: every
such call is to a method on the target's chain of bases
(`opposite_calls_are_generated`).
-/
import TypedGraph.Proofs.Artifacts
import TypedGraph.Proofs.BaseForest

namespace TypedGraph

namespace Schema
namespace Model

variable {m : Model}

theorem findProperty_eq_some {fqn name : String} {owner : Class} {p : Property}
    (h : m.findProperty fqn name = some (owner, p)) :
    ∃ c, m.class? fqn = some c ∧ Relation.ReflTransGen m.ParentStep c owner ∧
      p ∈ owner.properties ∧ p.name = name := by
  obtain ⟨d, hd, hp⟩ := List.exists_of_findSome?_eq_some h
  obtain ⟨q, hq, hdq⟩ := Option.map_eq_some_iff.mp hp
  obtain ⟨rfl, rfl⟩ := Prod.mk.inj hdq
  obtain ⟨c, hc, hsteps⟩ := mem_parentChain.mp hd
  have hname := Class.name_of_property? hq
  rw [← hname] at hq
  exact ⟨c, hc, hsteps, Class.mem_properties.mpr hq, hname⟩

/-- A relation of a model without diagnostics leads to a registered class. -/
theorem relation_target_of_clean (h : m.diagnostics = []) {c : Class} {p : Property}
    (hc : c ∈ m.classes) (hp : p ∈ c.properties) (hr : p.isRelation = true) :
    p.typeRef = .classifier p.type ∧ ∃ t, m.class? p.type = some t := by
  have hfinding := (findings_of_clean h hc).2 p hp hr
  unfold relationFinding? at hfinding
  cases ht : p.typeRef with
  | primitive q => simp [ht] at hfinding
  | classifier target =>
    have htarget : target = p.type := Generate.Scope.resolve_classifier ht
    subst htarget
    refine ⟨rfl, ?_⟩
    cases hget : m.get? p.type with
    | none => simp [ht, hget] at hfinding
    | some f =>
      cases f with
      | ofClass t => exact ⟨t, class?_eq_some.mpr hget⟩
      | ofEnum e => simp [ht, hget] at hfinding
      | ofIndex i => simp [ht, hget] at hfinding

end Model
end Schema

namespace Code

/-- Everything that a file implements for types. -/
def File.members (file : File) : List Member :=
  file.items.flatMap fun
    | .impl _ _ _ members => members
    | _ => []

/-- The member is a method of that name. -/
def Member.IsMethod (f : Member) (name : String) : Prop :=
  ∃ attributes visibility signature body,
    f = .function attributes visibility signature (some body) ∧ signature.name = name

/-- The file implements a method of that name for the type, of no trait. -/
def File.Offers (file : File) (type : Ty) (name : String) : Prop :=
  ∃ generics members,
    .impl generics none type members ∈ file.items ∧ ∃ f ∈ members, f.IsMethod name

/-- The member calls a method of that name on its argument, of the given type,
and hands it the receiver. -/
def Member.HandsBack (f : Member) (type : Ty) (name : String) : Prop :=
  ∃ attributes visibility signature body,
    f = .function attributes visibility signature (some body) ∧
    .typed "value" (.borrowed type) ∈ signature.params ∧
    .run (.dot (.name "value") name [.name "self"]) ∈ body

end Code

namespace Generate

open Schema (Model Property)
open Code (Ty Member Stmt Expr)

/-- The calls that a planned property makes to the other end. -/
def PropertyPlan.opposite? (e : PropertyPlan) : Option OppositeCalls :=
  match e.access with
  | .relation r => r.opposite
  | _ => none

theorem PropertyPlan.opposite?_eq_some {e : PropertyPlan} {calls : OppositeCalls} :
    e.opposite? = some calls ↔
      ∃ r, e.access = .relation r ∧ r.opposite = some calls := by
  unfold PropertyPlan.opposite?
  cases e.access <;> simp

/-! ## Methods of a file -/

section Methods

variable {s : Scope} {e : PropertyPlan} {f : Member} {type : Ty} {name : String}

theorem handsBack_function {attributes : List Code.Attribute} {visibility : String}
    {signature : Code.Signature} {body : List Stmt} :
    (Member.function attributes visibility signature (some body)).HandsBack type name ↔
      .typed "value" (.borrowed type) ∈ signature.params ∧
      .run (.dot (.name "value") name [.name "self"]) ∈ body := by
  constructor
  · rintro ⟨_, _, _, _, hf, h⟩
    cases hf
    exact h
  · intro h
    exact ⟨_, _, _, _, rfl, h⟩

/-- A method that only has a value hands nothing back. -/
theorem not_handsBack_value {attributes : List Code.Attribute} {visibility : String}
    {signature : Code.Signature} {value : Expr} :
    ¬ (Member.function attributes visibility signature (some [.value value])).HandsBack
      type name := by
  rw [handsBack_function]
  simp [Stmt.run, Stmt.value]

theorem not_handsBack_textConstant {visibility constant text : String} :
    ¬ (textConstant visibility constant text).HandsBack type name := by
  rintro ⟨_, _, _, _, hf, -⟩
  exact nomatch hf

theorem not_handsBack_constants (hf : f ∈ Accessor.constants e s) : ¬ f.HandsBack type name := by
  rintro ⟨_, _, _, _, rfl, -⟩
  unfold Accessor.constants at hf
  cases h : e.typeConstant <;> simp [h, textConstant] at hf

theorem not_handsBack_plainMethods {a : PlainAccess} (hf : f ∈ Accessor.plainMethods s e a) :
    ¬ f.HandsBack type name := by
  intro h
  simp only [Accessor.plainMethods, List.mem_cons, List.not_mem_nil, or_false] at hf
  rcases hf with rfl | rfl
  · exact not_handsBack_value h
  · have hbody := (handsBack_function.mp h).2
    cases hcover : a.cover with
    | none => simp [hcover, Stmt.run, Stmt.value, Expr.dot, selfName] at hbody
    | some cover =>
      by_cases hr : s.config.reindexOnWrite = true
      · simp [hcover, hr, Stmt.run, Stmt.value, Expr.dot, selfName] at hbody
      · simp [hcover, hr, Stmt.run, Stmt.value, Expr.dot, selfName] at hbody

theorem not_handsBack_learnedMethods {a : LearnedAccess} (hf : f ∈ Accessor.learnedMethods s e a) :
    ¬ f.HandsBack type name := by
  intro h
  simp only [Accessor.learnedMethods, List.mem_cons, List.not_mem_nil, or_false] at hf
  rcases hf with rfl | rfl
  · have hbody := (handsBack_function.mp h).2
    simp [Accessor.gateStatements, Stmt.bindTo, Stmt.run, Stmt.value, Expr.dot] at hbody
  · have hbody := (handsBack_function.mp h).2
    simp [Accessor.gateStatements, Stmt.bindTo, Stmt.run, Stmt.value, Expr.dot] at hbody

theorem not_handsBack_indexMethod {m : IndexMethod} :
    ¬ (Accessor.indexMethod s m).HandsBack type name := by
  intro h
  have hbody := (handsBack_function.mp h).2
  simp [Accessor.gateStatements, Stmt.bindTo, Stmt.run, Expr.dot] at hbody

theorem handsBack_mutator {member change : String} {target : Ty} {output : Option Ty}
    {opposite : Option OppositeCalls} {helper : OppositeCalls → String}
    (h : (method [] member [refSelf, .typed "value" (.borrowed target)] output
      ([Accessor.changeEnd change e] ++
        (opposite.map fun calls => Stmt.run (.dot (.name "value") (helper calls) [selfName])).toList
        ++ [.value selfName])).HandsBack type name) :
    type = target ∧ ∃ calls, opposite = some calls ∧ name = helper calls := by
  obtain ⟨hparams, hbody⟩ := handsBack_function.mp h
  have htype : type = target := by
    simpa [refSelf, Ty.borrowed] using hparams
  refine ⟨htype, ?_⟩
  cases opposite with
  | none => simp [Accessor.changeEnd, Stmt.run, Stmt.value, Expr.dot, selfName] at hbody
  | some calls =>
    refine ⟨calls, rfl, ?_⟩
    simpa [Accessor.changeEnd, Stmt.run, Stmt.value, Expr.dot, selfName] using hbody

/-- Of the methods of a relation only the mutators call the other end, and they
call the helpers that the plan has for it. -/
theorem handsBack_relationMethods {r : RelationAccess} (hf : f ∈ Accessor.relationMethods s e r)
    (h : f.HandsBack type name) :
    type = r.target.ty ∧
      ∃ calls, r.opposite = some calls ∧ (name = calls.add ∨ name = calls.remove) := by
  simp only [Accessor.relationMethods, List.mem_append, List.mem_cons, List.not_mem_nil,
    or_false] at hf
  rcases hf with (rfl | rfl | rfl) | hf
  · have hbody := (handsBack_function.mp h).2
    simp [Scope.callbackFound, Stmt.run, Expr.dot] at hbody
  · obtain ⟨htype, calls, hcalls, hname⟩ := handsBack_mutator h
    exact ⟨htype, calls, hcalls, .inl hname⟩
  · obtain ⟨htype, calls, hcalls, hname⟩ := handsBack_mutator h
    exact ⟨htype, calls, hcalls, .inr hname⟩
  · cases hi : r.internal with
    | none =>
      rw [hi] at hf
      exact absurd hf List.not_mem_nil
    | some calls =>
      rw [hi] at hf
      simp only [List.mem_cons, List.not_mem_nil, or_false] at hf
      rcases hf with rfl | rfl
      · have hbody := (handsBack_function.mp h).2
        simp [Accessor.changeEnd, Stmt.run, Expr.dot, selfName] at hbody
      · have hbody := (handsBack_function.mp h).2
        simp [Accessor.changeEnd, Stmt.run, Expr.dot, selfName] at hbody

/-- The mutators of a relation with an opposite do call its helpers. -/
theorem exists_handsBack {r : RelationAccess} {calls : OppositeCalls}
    (hr : e.access = .relation r) (ho : r.opposite = some calls) :
    ∃ f ∈ Accessor.accessMethods s e, f.HandsBack r.target.ty calls.add := by
  rw [Accessor.accessMethods, hr]
  refine ⟨_, List.mem_append_left _ (List.mem_cons_of_mem _ List.mem_cons_self), ?_⟩
  refine handsBack_function.mpr ⟨List.mem_cons_of_mem _ List.mem_cons_self, ?_⟩
  rw [ho]
  exact List.mem_append_left _ (List.mem_append_right _ List.mem_cons_self)

theorem handsBack_accessMethods (hf : f ∈ Accessor.accessMethods s e)
    (h : f.HandsBack type name) :
    ∃ r calls, e.access = .relation r ∧ type = r.target.ty ∧ r.opposite = some calls ∧
      (name = calls.add ∨ name = calls.remove) := by
  unfold Accessor.accessMethods at hf
  split at hf
  · exact absurd hf List.not_mem_nil
  · exact absurd h (not_handsBack_plainMethods hf)
  · exact absurd h (not_handsBack_learnedMethods hf)
  · rename_i r hr
    obtain ⟨htype, calls, hcalls, hname⟩ := handsBack_relationMethods hf h
    exact ⟨r, calls, hr, htype, hcalls, hname⟩

/-- Every call to another end in the file of an accessor is planned as the
opposite of one of its relations. -/
theorem handsBack_file {a : Accessor} (hf : f ∈ (a.file s).members) (h : f.HandsBack type name) :
    ∃ e ∈ a.properties, ∃ r calls, e.access = .relation r ∧ type = r.target.ty ∧
      r.opposite = some calls ∧ (name = calls.add ∨ name = calls.remove) := by
  simp only [Code.File.members, Accessor.file, List.flatMap_cons, List.flatMap_nil, List.nil_append,
    List.append_nil, List.mem_append, List.mem_flatMap, List.mem_map, List.mem_cons,
    List.not_mem_nil, or_false] at hf
  rcases hf with ((((rfl | ⟨e, -, hf⟩) | rfl | rfl) | ⟨e, he, hf⟩) | ⟨m, -, rfl⟩) |
    (rfl | rfl) | rfl | rfl
  · exact absurd h not_handsBack_textConstant
  · exact absurd h (not_handsBack_constants hf)
  · exact absurd h not_handsBack_value
  · exact absurd h not_handsBack_value
  · exact ⟨e, he, handsBack_accessMethods hf h⟩
  · exact absurd h not_handsBack_indexMethod
  · exact absurd h (fun ⟨_, _, _, _, hf, _⟩ => nomatch hf)
  · exact absurd h not_handsBack_value
  · exact absurd h not_handsBack_textConstant
  · exact absurd h not_handsBack_value

theorem isMethod_relationMethods {r : RelationAccess} {calls : OppositeCalls}
    (hi : r.internal = some calls) :
    (∃ f ∈ Accessor.relationMethods s e r, f.IsMethod calls.add) ∧
      ∃ f ∈ Accessor.relationMethods s e r, f.IsMethod calls.remove := by
  unfold Accessor.relationMethods
  rw [hi]
  constructor
  · exact ⟨_, List.mem_append_right _ List.mem_cons_self, _, _, _, _, rfl, rfl⟩
  · exact ⟨_, List.mem_append_right _ (List.mem_cons_of_mem _ List.mem_cons_self),
      _, _, _, _, rfl, rfl⟩

/-- The methods of a property are in the implementation of the type itself. -/
theorem mem_own_impl {a : Accessor} (he : e ∈ a.properties)
    (hf : f ∈ Accessor.accessMethods s e) :
    ∃ own, .impl {} none (.name a.typeName) own ∈ (a.file s).items ∧ f ∈ own := by
  refine ⟨_, List.mem_cons_of_mem _ List.mem_cons_self, ?_⟩
  exact List.mem_append_left _ (List.mem_append_right _ (List.mem_flatMap.mpr ⟨e, he, hf⟩))

/-- The internal mutators that an accessor plans are in its file. -/
theorem offers_internal {a : Accessor} {r : RelationAccess} {calls : OppositeCalls}
    (he : e ∈ a.properties) (hr : e.access = .relation r) (hi : r.internal = some calls) :
    (a.file s).Offers (.name a.typeName) calls.add ∧
      (a.file s).Offers (.name a.typeName) calls.remove := by
  have hmethods : ∀ name, (∃ f ∈ Accessor.relationMethods s e r, f.IsMethod name) →
      (a.file s).Offers (.name a.typeName) name := by
    rintro name ⟨f, hf, hname⟩
    have haccess : Accessor.accessMethods s e = Accessor.relationMethods s e r := by
      rw [Accessor.accessMethods, hr]
    rw [← haccess] at hf
    obtain ⟨own, hitem, hown⟩ := mem_own_impl he hf
    exact ⟨_, own, hitem, f, hown, hname⟩
  obtain ⟨hadd, hremove⟩ := isMethod_relationMethods (s := s) (e := e) hi
  exact ⟨hmethods _ hadd, hmethods _ hremove⟩

end Methods

namespace Scope

variable {s : Scope} {c d t : Schema.Class} {p : Property} {a : Accessor} {e : PropertyPlan}
  {artifacts : List Artifact}

/-! ## Bases of a model without diagnostics -/

/-- Without cycles every declared parent is a base. -/
theorem baseSteps_of_clean (h : s.model.diagnostics = []) (hc : s.model.class? c.fqn = some c)
    (hsteps : Relation.ReflTransGen s.model.ParentStep c d) :
    Relation.ReflTransGen s.BaseStep c d := by
  induction hsteps with
  | refl => exact .refl
  | tail hpath hstep ih =>
    have hreg := Model.registered_of_steps hc hpath
    exact ih.tail ((resolvedParent_eq_some hreg).mpr ⟨hstep, Model.not_onCycle_of_clean h hreg⟩)

/-! ## Entries of an accessor -/

theorem EntityOf.property_mem (h : EntityOf s artifacts c a) (he : e ∈ a.properties) :
    e.property ∈ c.properties := by
  rw [← (planProperties_ok (planAccessor_ok h.planned).2).1]
  exact List.mem_map_of_mem he

theorem EntityOf.exists_plan (h : EntityOf s artifacts c a) (hp : p ∈ c.properties) :
    ∃ e ∈ a.properties, e.property = p := by
  rw [← (planProperties_ok (planAccessor_ok h.planned).2).1] at hp
  exact List.mem_map.mp hp

theorem EntityOf.planProperty (h : EntityOf s artifacts c a) (he : e ∈ a.properties) :
    (e.property.isRelation = true → e.property.isStored = true →
      (s.planRelation c e.property).outcome = .ok e.access) ∧
    ∀ r, e.access = .relation r → e.property.isRelation = true ∧ e.property.isStored = true := by
  obtain ⟨before, after, hplan⟩ := (planProperties_ok (planAccessor_ok h.planned).2).2 e he
  exact (planProperty_ok hplan).2

/-- A stored relation that some relation finds as its opposite is generated with
the helpers of its name. -/
theorem EntityOf.offers_helpers (h : EntityOf s artifacts d a) (hclean : s.model.diagnostics = [])
    (hd : d ∈ s.model.classes) (hp : p ∈ d.properties) (hr : p.isRelation = true)
    (hs : p.isStored = true) (hnamed : s.namedAsOpposite d p = true) :
    ∃ calls, helperNames? p.name = some calls ∧
      (a.file s).Offers (.name a.typeName) calls.add ∧
      (a.file s).Offers (.name a.typeName) calls.remove := by
  obtain ⟨e, he, rfl⟩ := h.exists_plan hp
  have hplan := (h.planProperty he).1 hr hs
  rcases planRelation_ok hplan with ⟨primitive, hprimitive, -⟩ | ⟨r, haccess, -, -, -, hinternal⟩
  · rw [(Model.relation_target_of_clean hclean hd hp hr).1] at hprimitive
    exact nomatch hprimitive
  · have hneeds : s.needsInternal d e.property = true := by
      rw [needsInternal, hnamed, Bool.or_true]
    obtain ⟨calls, hi, hnames⟩ := internalCalls_ok hneeds hinternal
    exact ⟨calls, hnames, offers_internal he haccess hi⟩

/-- In a model without diagnostics every call that a generated accessor makes to
the other end of a relation is to a method that is generated on the target's
chain of bases. -/
theorem opposite_calls_are_generated {m : Model} {config : Config} {artifacts : List Artifact}
    (hclean : m.diagnostics = []) (hrun : (generate m config).outcome = .ok artifacts) :
    ∃ s, Scope.of m config = .ok s ∧ ∀ c ∈ m.classes, ∃ a, EntityOf s artifacts c a ∧
      ∀ f ∈ (a.file s).members, ∀ type name, f.HandsBack type name →
        ∃ p ∈ c.properties, p.isRelation = true ∧ p.isStored = true ∧
        ∃ opposite calls, p.opposite = some opposite ∧ helperNames? opposite = some calls ∧
          (name = calls.add ∨ name = calls.remove) ∧
        ∃ t path, m.class? p.type = some t ∧ s.classifierPath t.ident = .ok path ∧
          type = path.ty ∧
        ∃ d b, Relation.ReflTransGen s.BaseStep t d ∧ EntityOf s artifacts d b ∧
          (b.file s).Offers (.name b.typeName) calls.add ∧
          (b.file s).Offers (.name b.typeName) calls.remove := by
  obtain ⟨s, hs, hall⟩ := entityOf_generate hrun
  have hmodel : s.model = m := (of_eq_ok hs).1
  refine ⟨s, hs, fun c hc => ?_⟩
  obtain ⟨a, ha⟩ := hall c hc
  refine ⟨a, ha, fun f hf type name hcall => ?_⟩
  obtain ⟨e, he, r, calls, haccess, htype, hcalls, hname⟩ := handsBack_file hf hcall
  have hp := ha.property_mem he
  obtain ⟨hr, hstored⟩ := (ha.planProperty he).2 r haccess
  refine ⟨e.property, hp, hr, hstored, ?_⟩
  have hplan := (ha.planProperty he).1 hr hstored
  rw [haccess] at hplan
  rcases planRelation_ok hplan with ⟨_, _, h⟩ | ⟨r', h, -, htarget, hopposite, -⟩
  · exact nomatch h
  cases h
  rw [hcalls] at hopposite
  obtain ⟨opposite, hfound, hnames⟩ := oppositeCalls_ok hopposite
  obtain ⟨hdeclared, d, q, hfind, hqr, hqs⟩ := storedOpposite_eq_some hfound
  refine ⟨opposite, calls, hdeclared, hnames, hname, ?_⟩
  -- The lookup of the opposite goes up declared parents from the target.
  obtain ⟨t, ht, hsteps, hq, hqname⟩ := Model.findProperty_eq_some hfind
  have htreg : s.model.class? t.fqn = some t := by
    rw [Model.fqn_of_class? ht]
    exact ht
  rw [← hmodel] at hclean hc hall
  have hpath : s.classifierPath t.ident = .ok r.target :=
    htarget (.ofClass t) (Model.class?_eq_some.mp ht)
  refine ⟨t, r.target, by rw [← hmodel]; exact ht, hpath, htype, d, ?_⟩
  have hd : d ∈ s.model.classes :=
    Model.mem_classes.mpr (Model.registered_of_steps htreg hsteps)
  obtain ⟨b, hb⟩ := hall d hd
  refine ⟨b, baseSteps_of_clean hclean htreg hsteps, hb, ?_⟩
  -- The relation at hand is one that makes the opposite need its helpers.
  have hnamed : s.namedAsOpposite d q = true := by
    simp only [namedAsOpposite, List.any_eq_true]
    refine ⟨c, hc, e.property, hp, ?_⟩
    simp [hqname, hr, hdeclared, hfind]
  obtain ⟨calls', hnames', hoffers⟩ := hb.offers_helpers hclean hd hq hqr hqs hnamed
  rw [hqname, hnames] at hnames'
  rw [Option.some.inj hnames']
  exact hoffers

/-! ## A pair declared above the target -/

/-- The accessor of persons calls a method that the accessor of vehicles has. -/
theorem garage_calls_are_generated :
    garage.diagnostics = [] ∧ ∃ artifacts, (generate garage {}).outcome = .ok artifacts ∧
      ∃ s a, EntityOf s artifacts owner a ∧
      ∃ f ∈ (a.file s).members, ∃ type, f.HandsBack type "internal_add_to_owned_by" ∧
      ∃ t d b, garage.class? "s.Car" = some t ∧ Relation.ReflTransGen s.BaseStep t d ∧
        EntityOf s artifacts d b ∧
        (b.file s).Offers (.name b.typeName) "internal_add_to_owned_by" := by
  have hclean : garage.diagnostics = [] := by decide +kernel
  obtain ⟨artifacts, hrun⟩ := garage_generates
  refine ⟨hclean, artifacts, hrun, ?_⟩
  obtain ⟨s, hs, hall⟩ := opposite_calls_are_generated hclean hrun
  obtain ⟨a, ha, hcalls⟩ := hall owner (Model.mem_classes.mpr rfl)
  have hplan : (Scope.of garage {} >>= fun s => (s.planAccessor owner).outcome).toOption.map
      (·.properties.map PropertyPlan.opposite?) =
      some [some ⟨"internal_add_to_owned_by", "internal_remove_from_owned_by"⟩] := by
    decide +kernel
  rw [hs] at hplan
  change (s.planAccessor owner).outcome.toOption.map _ = _ at hplan
  rw [ha.planned] at hplan
  obtain ⟨e, he, hopposite⟩ : ∃ e ∈ a.properties, e.opposite? =
      some ⟨"internal_add_to_owned_by", "internal_remove_from_owned_by"⟩ := by
    refine List.mem_map.mp ?_
    rw [show a.properties.map PropertyPlan.opposite? = _ from Option.some.inj hplan]
    exact List.mem_cons_self
  obtain ⟨r, hr, ho⟩ := PropertyPlan.opposite?_eq_some.mp hopposite
  obtain ⟨f, hf, hback : f.HandsBack _ "internal_add_to_owned_by"⟩ :=
    exists_handsBack (s := s) hr ho
  obtain ⟨own, hitem, hown⟩ := mem_own_impl he hf
  have hf' : f ∈ (a.file s).members := List.mem_flatMap.mpr ⟨_, hitem, hown⟩
  refine ⟨s, a, ha, f, hf', _, hback, ?_⟩
  obtain ⟨p, hp, -, -, _, calls, -, -, hname, t, _, ht, -, -, d, b, hsteps, hb, hadd, hremove⟩ :=
    hcalls f hf' _ _ hback
  have htype : p.type = "s.Car" := by
    have hall : owner.properties.all (·.type == "s.Car") = true := by decide +kernel
    exact beq_iff_eq.mp (List.all_eq_true.mp hall p hp)
  rw [htype] at ht
  refine ⟨t, d, b, ht, hsteps, hb, ?_⟩
  rcases hname with hname | hname
  · rw [hname]
    exact hadd
  · rw [hname]
    exact hremove

end Scope

end Generate
end TypedGraph
