/-
How properties are reached.

A method reaches a property when it hands the property's constant to a function of
the node.  All methods of an accessor that reach one property are of one kind, which
the property alone decides.  The facade looks for properties that learn before any
accessor is made, and it adds the learning plugin exactly when some accessor has a
getter that extrapolates and a setter that learns.
-/
import TypedGraph.Proofs.AttributeGroups

namespace TypedGraph

namespace Schema

/-- How the methods of an accessor reach a property. -/
inductive AccessKind
  | none
  | plain
  | learned
  | relation
deriving DecidableEq, Repr

/-- What a property asks for.  A type that names a primitive is no target of a relation. -/
def Property.accessKind (p : Property) : AccessKind :=
  if p.derived || p.learned then .none
  else match p.kind with
    | .attribute => if p.algorithm.isSome then .learned else .plain
    | .relation => if p.typeRef.primitive?.isSome then .none else .relation

end Schema

namespace Code

/-- The constant of the type itself that an expression names. -/
def Expr.ownConstant? : Expr → Option String
  | .path ⟨false, [.plain "Self", .plain n]⟩ => some n
  | _ => none

@[simp] theorem Expr.ownConstant?_ofSelf (n : String) : (ofSelf n).ownConstant? = some n := rfl

/-- Some call has the constant for its first argument. -/
def startsWithConstant (constant : String) (calls : List (List Expr)) : Bool :=
  calls.any fun args => (args.head?.bind Expr.ownConstant?) == some constant

/-- The functions of a node that take the name of a property. -/
def nodeFunctions : List String :=
  ["get", "set", "relation", "add_to_relation", "remove_from_relation"]

/-- The member hands a constant to a function of the node. -/
def Member.reaches (constant : String) (f : Member) : Bool :=
  nodeFunctions.any fun name => startsWithConstant constant (f.callsOf name)

section
variable {constant : String} {calls calls' : List (List Expr)} {args : List Expr}

@[simp] theorem startsWithConstant_nil : startsWithConstant constant [] = false := rfl

@[simp] theorem startsWithConstant_append : startsWithConstant constant (calls ++ calls') =
    (startsWithConstant constant calls || startsWithConstant constant calls') :=
  List.any_append

@[simp] theorem startsWithConstant_cons : startsWithConstant constant (args :: calls) =
    ((args.head?.bind Expr.ownConstant? == some constant) || startsWithConstant constant calls) :=
  rfl

@[simp] theorem startsWithConstant_ite (p : Prop) [Decidable p] :
    startsWithConstant constant (if p then calls else []) =
      (decide p && startsWithConstant constant calls) := by
  by_cases hp : p
  · simp [hp]
  · simp [hp]

end

theorem Member.reaches_eq_false {constant : String} {f : Member}
    (h : ∀ name ∈ nodeFunctions, f.callsOf name = []) : f.reaches constant = false := by
  rw [reaches, List.any_eq_false]
  intro name hname
  rw [h name hname]
  exact Bool.false_ne_true

end Code

namespace Generate

open Schema (AccessKind Model Property)
open Code (Expr Member Stmt nodeFunctions passes_all passes_callsTo)

variable {s : Scope} {c : Schema.Class} {a : Accessor} {artifacts : List Artifact}
  {e : PropertyPlan} {f : Member} {constant : String}

/-! ## Kinds of methods -/

/-- The learners that methods look for. -/
def learnerArguments (s : Scope) : List Expr := s.downcastTo (s.hostType ["ml", "RegressionNode"])

/-- The method asks the learner that a property leads to for a value. -/
structure Extrapolates (s : Scope) (constant : String) (f : Member) : Prop where
  relation : ∃ action, f.callsOf "relation" = [[.ofSelf constant, action]]
  learner : f.callsOf "find_map" = [learnerArguments s]
  extrapolates : ∃ action, f.callsOf "extrapolate" = [[action]]

/-- The method teaches its value to the learner that a property leads to. -/
structure Learns (s : Scope) (constant : String) (f : Member) : Prop where
  relation : ∃ action, f.callsOf "relation" = [[.ofSelf constant, action]]
  learner : f.callsOf "find_map" = [learnerArguments s]
  learns : ∃ action, f.callsOf "learn" = [[.name "value", action]]

/-- A method of the file extrapolates a property, and one learns it. -/
def HasLearnedAccess (s : Scope) (file : Code.File) : Prop :=
  ∃ constant, ∃ getter ∈ file.members, ∃ setter ∈ file.members,
    Extrapolates s constant getter ∧ Learns s constant setter

/-- The method reads an attribute of the node, and looks for no other node. -/
structure Reads (constant : String) (f : Member) : Prop where
  reads : f.callsOf "get" = [[.ofSelf constant]]
  direct : f.callsOf "relation" = []

/-- The method changes one end of a relation. -/
def ChangesEnd (change constant : String) (f : Member) : Prop :=
  f.callsOf change = [[.ofSelf constant, .dot (.name "value") "node" []]]

/-- The methods of a property, named after it, for each kind. -/
def Describes (s : Scope) (constant subject : String) (methods : List Member) : AccessKind → Prop
  | .none => methods = []
  | .plain => ∃ getter setter, methods = [getter, setter] ∧
      getter.IsMethod ("get_" ++ subject) ∧ Reads constant getter ∧
      setter.Stores ("set_" ++ subject) constant
  | .learned => ∃ getter setter, methods = [getter, setter] ∧
      getter.IsMethod ("get_" ++ subject) ∧ Extrapolates s constant getter ∧
      setter.IsMethod ("set_" ++ subject) ∧ Learns s constant setter
  | .relation => ∃ getter add remove internal, methods = [getter, add, remove] ++ internal ∧
      getter.IsMethod ("get_" ++ subject) ∧
      (∃ action, getter.callsOf "relation" = [[.ofSelf constant, action]]) ∧
      add.IsMethod ("add_to_" ++ subject) ∧ ChangesEnd "add_to_relation" constant add ∧
      remove.IsMethod ("remove_from_" ++ subject) ∧
      ChangesEnd "remove_from_relation" constant remove ∧
      ∀ f ∈ internal, ChangesEnd "add_to_relation" constant f ∨
        ChangesEnd "remove_from_relation" constant f

section
variable {subject : String} {methods : List Member} {k k' : AccessKind}

theorem Describes.length (h : Describes s constant subject methods k) :
    match k with
    | .none => methods.length = 0
    | .plain | .learned => methods.length = 2
    | .relation => 3 ≤ methods.length := by
  cases k with
  | none => exact List.length_eq_zero_iff.mpr h
  | plain =>
    obtain ⟨getter, setter, rfl, -⟩ := h
    rfl
  | learned =>
    obtain ⟨getter, setter, rfl, -⟩ := h
    rfl
  | relation =>
    obtain ⟨getter, add, remove, internal, rfl, -⟩ := h
    exact Nat.le_add_left 3 _

theorem not_plain_and_learned (h : Describes s constant subject methods .plain)
    (h' : Describes s constant subject methods .learned) : False := by
  obtain ⟨getter, setter, rfl, -, hreads, -⟩ := h
  obtain ⟨getter', setter', heq, -, hextrapolates, -⟩ := h'
  obtain ⟨action, hrelation⟩ := hextrapolates.relation
  rw [← (List.cons.inj heq).1, hreads.direct] at hrelation
  cases hrelation

/-- No methods are of two kinds. -/
theorem Describes.unique (h : Describes s constant subject methods k)
    (h' : Describes s constant subject methods k') : k = k' := by
  have hlength := h.length
  have hlength' := h'.length
  cases k <;> cases k' <;> dsimp only at hlength hlength'
  case plain.learned => exact absurd h' (not_plain_and_learned h)
  case learned.plain => exact absurd h (not_plain_and_learned h')
  all_goals first | rfl | omega

end

/-! ## The methods of an entry -/

theorem reaches_plainMethods {access : PlainAccess} (hf : f ∈ Accessor.plainMethods s e access)
    (constant : String) : f.reaches constant = (e.constant == constant) := by
  rcases List.mem_pair.mp hf with rfl | rfl
  · simp [Member.reaches, nodeFunctions, method]
  · cases hcover : access.cover with
    | none => simp [Member.reaches, nodeFunctions, method]
    | some cover =>
      cases s.config.reindexOnWrite <;> simp [Member.reaches, nodeFunctions, method]

theorem reaches_learnedMethods {access : LearnedAccess}
    (hf : f ∈ Accessor.learnedMethods s e access) (constant : String) :
    f.reaches constant = (e.constant == constant) := by
  rcases List.mem_pair.mp hf with rfl | rfl
  · simp [Member.reaches, nodeFunctions, method, Accessor.gateStatements, moveClosure]
  · simp [Member.reaches, nodeFunctions, method, Accessor.gateStatements, moveClosure,
      Stmt.collectAll_map_eq_nil]

theorem reaches_relationMethods {access : RelationAccess}
    (hf : f ∈ Accessor.relationMethods s e access) (constant : String) :
    f.reaches constant = (e.constant == constant) := by
  have hother : (selfName.ownConstant? == some constant) = false := rfl
  simp only [Accessor.relationMethods, List.mem_append, List.mem_cons, List.not_mem_nil,
    or_false] at hf
  rcases hf with (rfl | rfl | rfl) | hf
  · simp [Member.reaches, nodeFunctions, callbackMethod, moveClosure, Scope.callbackFound]
  · cases access.opposite <;>
      simp [Member.reaches, nodeFunctions, method, Accessor.changeEnd, hother]
  · cases access.opposite <;>
      simp [Member.reaches, nodeFunctions, method, Accessor.changeEnd, hother]
  · cases hi : access.internal with
    | none =>
      rw [hi] at hf
      exact absurd hf List.not_mem_nil
    | some calls =>
      rw [hi] at hf
      rcases List.mem_pair.mp hf with rfl | rfl
      · simp [Member.reaches, nodeFunctions, Accessor.changeEnd]
      · simp [Member.reaches, nodeFunctions, Accessor.changeEnd]

/-- The methods of a property reach it, and no other. -/
theorem reaches_accessMethods (hf : f ∈ Accessor.accessMethods s e) (constant : String) :
    f.reaches constant = (e.constant == constant) := by
  unfold Accessor.accessMethods at hf
  cases haccess : e.access with
  | none =>
    rw [haccess] at hf
    exact absurd hf List.not_mem_nil
  | plain access =>
    rw [haccess] at hf
    exact reaches_plainMethods hf constant
  | learned access =>
    rw [haccess] at hf
    exact reaches_learnedMethods hf constant
  | relation access =>
    rw [haccess] at hf
    exact reaches_relationMethods hf constant

theorem reaches_indexMethod (m : IndexMethod) (constant : String) :
    (Accessor.indexMethod s m).reaches constant = false := by
  refine Member.reaches_eq_false fun name hname => collect_indexMethod (passes_all ?_) m
  exact (by decide : ∀ name ∈ nodeFunctions, ∀ n ∈ indexCalls, n ≠ name) name hname

theorem describes_plainMethods {access : PlainAccess} {subject : String}
    (hnames : [access.getter, access.setter] = ["get_" ++ subject, "set_" ++ subject])
    (hcover : ∀ x, access.cover = some x → x.method ≠ "set") :
    Describes s e.constant subject (Accessor.plainMethods s e access) .plain := by
  simp only [List.cons.injEq, and_true] at hnames
  obtain ⟨hgetter, hsetter⟩ := hnames
  refine ⟨_, _, rfl, ⟨_, _, _, _, rfl, hgetter⟩, ⟨?_, ?_⟩, ⟨_, _, _, _, rfl, hsetter⟩, ?_⟩
  · simp [method]
  · simp [method]
  · cases hx : access.cover with
    | none => simp [method]
    | some x => cases s.config.reindexOnWrite <;> simp [method, hcover x hx]

theorem describes_learnedMethods {access : LearnedAccess} {subject : String}
    (hnames : [access.getter, access.setter] = ["get_" ++ subject, "set_" ++ subject]) :
    Describes s e.constant subject (Accessor.learnedMethods s e access) .learned := by
  simp only [List.cons.injEq, and_true] at hnames
  obtain ⟨hgetter, hsetter⟩ := hnames
  refine ⟨_, _, rfl, ⟨_, _, _, _, rfl, hgetter⟩, ⟨?_, ?_, ?_⟩, ⟨_, _, _, _, rfl, hsetter⟩,
    ⟨?_, ?_, ?_⟩⟩
  all_goals
    simp [method, Accessor.gateStatements, moveClosure, Stmt.collectAll_map_eq_nil, learnerArguments]

theorem describes_relationMethods {access : RelationAccess} {subject : String}
    (hnames : [access.getter, access.add, access.remove] =
      ["get_" ++ subject, "add_to_" ++ subject, "remove_from_" ++ subject])
    (hopposite : ∀ calls, access.opposite = some calls →
      calls.add ≠ "add_to_relation" ∧ calls.remove ≠ "remove_from_relation") :
    Describes s e.constant subject (Accessor.relationMethods s e access) .relation := by
  simp only [List.cons.injEq, and_true] at hnames
  obtain ⟨hgetter, hadd, hremove⟩ := hnames
  refine ⟨_, _, _, _, rfl, ⟨_, _, _, _, rfl, hgetter⟩, ?_, ⟨_, _, _, _, rfl, hadd⟩, ?_,
    ⟨_, _, _, _, rfl, hremove⟩, ?_, fun f hf => ?_⟩
  · simp [callbackMethod, moveClosure, Scope.callbackFound]
  · cases hcalls : access.opposite with
    | none => simp [ChangesEnd, method, Accessor.changeEnd]
    | some calls => simp [ChangesEnd, method, Accessor.changeEnd, (hopposite calls hcalls).1]
  · cases hcalls : access.opposite with
    | none => simp [ChangesEnd, method, Accessor.changeEnd]
    | some calls => simp [ChangesEnd, method, Accessor.changeEnd, (hopposite calls hcalls).2]
  · cases hi : access.internal with
    | none =>
      rw [hi] at hf
      exact absurd hf List.not_mem_nil
    | some calls =>
      rw [hi] at hf
      rcases List.mem_pair.mp hf with rfl | rfl
      · exact .inl (by simp [ChangesEnd, Accessor.changeEnd])
      · exact .inr (by simp [ChangesEnd, Accessor.changeEnd])

/-! ## The members of a file that reach a property -/

theorem filter_reaches_constants (e : PropertyPlan) (s : Scope) (constant : String) :
    (Accessor.constants e s).filter (Member.reaches constant) = [] := by
  rw [List.filter_eq_nil_iff]
  intro f hf
  rw [Member.reaches_eq_false fun name _ => collect_constants hf]
  exact Bool.false_ne_true

theorem filter_reaches_accessMethods (s : Scope) (e : PropertyPlan) (constant : String) :
    (Accessor.accessMethods s e).filter (Member.reaches constant) =
      if e.constant == constant then Accessor.accessMethods s e else [] := by
  split
  · next heq => exact List.filter_eq_self.mpr fun f hf => (reaches_accessMethods hf _).trans heq
  · next hne =>
    rw [List.filter_eq_nil_iff]
    intro f hf
    rw [reaches_accessMethods hf]
    exact hne

theorem filter_reaches_indexMethods (s : Scope) (ms : List IndexMethod) (constant : String) :
    (ms.map (Accessor.indexMethod s)).filter (Member.reaches constant) = [] := by
  rw [List.filter_eq_nil_iff]
  intro f hf
  obtain ⟨m, -, rfl⟩ := List.mem_map.mp hf
  rw [reaches_indexMethod]
  exact Bool.false_ne_true

/-- The members of an accessor that reach a property are the methods of its entry. -/
theorem filter_reaches_file (s : Scope) (a : Accessor) (constant : String) :
    (a.file s).members.filter (Member.reaches constant) =
      (a.properties.filter (·.constant == constant)).flatMap (Accessor.accessMethods s) := by
  have hnone : a.properties.flatMap (fun _ => ([] : List Member)) = [] :=
    List.flatMap_eq_nil_iff.mpr fun _ _ => rfl
  have hchosen : a.properties.flatMap (fun e =>
      if e.constant == constant then Accessor.accessMethods s e else []) =
      (a.properties.filter (·.constant == constant)).flatMap (Accessor.accessMethods s) := by
    induction a.properties with
    | nil => rfl
    | cons e rest ih =>
      rw [List.flatMap_cons, ih, List.filter_cons]
      cases e.constant == constant <;> simp
  simp only [Code.File.members, Accessor.file, List.flatMap_cons, List.flatMap_nil,
    List.filter_append, List.filter_flatMap, filter_reaches_constants,
    filter_reaches_accessMethods, filter_reaches_indexMethods, hnone, hchosen]
  cases a.base <;> simp [Member.reaches, nodeFunctions, method, traitMethod, textConstant]

/-! ## What an entry is planned as -/

def Access.kind : Access → AccessKind
  | .none => .none
  | .plain _ => .plain
  | .learned _ => .learned
  | .relation _ => .relation

theorem accessKind_of_not_stored {p : Property} (h : p.isStored = false) :
    p.accessKind = .none := by
  rw [Property.isStored, ← Bool.not_or, Bool.not_eq_false'] at h
  exact if_pos h

theorem accessKind_of_stored {p : Property} (h : p.isStored = true) :
    p.accessKind = match p.kind with
      | .attribute => if p.algorithm.isSome then .learned else .plain
      | .relation => if p.typeRef.primitive?.isSome then .none else .relation := by
  rw [Property.isStored, ← Bool.not_or, Bool.not_eq_true'] at h
  exact if_neg (Bool.eq_false_iff.mp h)

namespace Scope

variable {p : Property} {access : Access} {declared declared' : List String}

theorem kind_planAttribute (hp : p.isAttribute = true)
    (h : (s.planAttribute c p).outcome = .ok access) : access.kind = p.accessKind := by
  rw [Property.isAttribute, beq_iff_eq] at hp
  cases hstored : p.isStored with
  | false =>
    rcases planAttribute_cases h with ⟨-, rfl⟩ | ⟨htrue, -⟩ | ⟨htrue, -⟩
    · exact (accessKind_of_not_stored hstored).symm
    · exact absurd (htrue.symm.trans hstored) (by decide)
    · exact absurd (htrue.symm.trans hstored) (by decide)
  | true =>
    rw [accessKind_of_stored hstored, hp]
    rcases planAttribute_cases h with ⟨hfalse, -⟩ | ⟨-, hsome, a, rfl⟩ |
      ⟨-, hnone, a, rfl, -⟩
    · exact absurd (hfalse.symm.trans hstored) (by decide)
    · exact (if_pos hsome).symm
    · dsimp only
      rw [hnone]
      rfl

theorem kind_planRelation (hp : p.isRelation = true) (hstored : p.isStored = true)
    (h : (s.planRelation c p).outcome = .ok access) : access.kind = p.accessKind := by
  rw [Property.isRelation, beq_iff_eq] at hp
  rw [accessKind_of_stored hstored, hp]
  rcases planRelation_ok h with ⟨primitive, hprimitive, rfl⟩ | ⟨a, rfl, hclassifier, -⟩
  · rw [hprimitive]
    rfl
  · rw [hclassifier]
    rfl

/-- A property alone decides how it is reached. -/
theorem kind_planProperty (h : (s.planProperty c declared p).outcome = .ok (e, declared')) :
    e.access.kind = p.accessKind := by
  obtain ⟨-, -, ⟨hattribute, haccess⟩ | ⟨-, hstored, haccess⟩ | ⟨hrelation, hstored, haccess⟩⟩ :=
    planProperty_cases h
  · exact kind_planAttribute hattribute haccess
  · rw [haccess, accessKind_of_not_stored hstored]
    rfl
  · exact kind_planRelation hrelation hstored haccess

/-! ## Accessors -/

theorem EntityOf.filter_constant (h : EntityOf s artifacts c a) (he : e ∈ a.properties) :
    a.properties.filter (·.constant == e.constant) = [e] := by
  have hnodup : (a.properties.filterMap (some ∘ PropertyPlan.constant)).Nodup := by
    rw [List.filterMap_eq_map]
    exact h.nodup_constants
  have hone := filter_eq_singleton hnodup he (b := e.constant) rfl
  simpa using hone

/-- Methods of other ends have names of their own. -/
theorem EntityOf.not_called_of_plain_name (h : EntityOf s artifacts c a) (he : e ∈ a.properties)
    {name : String} (hindex : ¬ "index_".toList <+: name.toList)
    (hinternal : ¬ "internal_".toList <+: name.toList) : name ∉ e.called := by
  intro hcalled
  rcases h.called_cases he hcalled with ⟨x, -, -, hstart⟩ | hstart
  · exact hindex hstart
  · exact hinternal hstart

theorem EntityOf.describes (h : EntityOf s artifacts c a) (he : e ∈ a.properties) :
    Describes s e.constant e.property.spelledName (Accessor.accessMethods s e)
      e.property.accessKind := by
  obtain ⟨before, after, hplan⟩ := (planProperties_ok (planAccessor_ok h.planned).2).2 e he
  have hnames := methods_planProperty hplan
  rw [← kind_planProperty hplan, Accessor.accessMethods]
  rw [PropertyPlan.methodNames, List.map_map] at hnames
  cases haccess : e.access with
  | none => rfl
  | plain access =>
    rw [haccess] at hnames
    exact describes_plainMethods hnames fun x hx =>
      h.not_set_of_cover he ((cover_of_plain haccess).trans hx)
  | learned access =>
    rw [haccess] at hnames
    exact describes_learnedMethods hnames
  | relation access =>
    rw [haccess, Access.methods, Access.verbs, List.map_append] at hnames
    refine describes_relationMethods (List.append_inj hnames rfl).1 fun calls hcalls => ?_
    have hadd : calls.add ∈ e.called := by simp [PropertyPlan.called, haccess, hcalls]
    have hremove : calls.remove ∈ e.called := by simp [PropertyPlan.called, haccess, hcalls]
    exact ⟨fun heq => h.not_called_of_plain_name he (by decide) (by decide) (heq ▸ hadd),
      fun heq => h.not_called_of_plain_name he (by decide) (by decide) (heq ▸ hremove)⟩

/-- The members that reach a property are its methods, and of the kind that it asks for
alone. -/
theorem EntityOf.reached_as_asked (h : EntityOf s artifacts c a) {p : Property}
    (hp : p ∈ c.properties) :
    ∃ constant, Code.identifier? (Text.constantCase p.name) = some constant ∧
      ∀ k, Describes s constant p.spelledName
        ((a.file s).members.filter (Member.reaches constant)) k ↔ k = p.accessKind := by
  rw [← (planProperties_ok (planAccessor_ok h.planned).2).1] at hp
  obtain ⟨e, he, rfl⟩ := List.mem_map.mp hp
  have hreached : (a.file s).members.filter (Member.reaches e.constant) =
      Accessor.accessMethods s e := by
    rw [filter_reaches_file, h.filter_constant he, List.flatMap_cons, List.flatMap_nil,
      List.append_nil]
  refine ⟨e.constant, h.constant he, fun k => ?_⟩
  rw [hreached]
  constructor
  · exact fun hk => hk.unique (h.describes he)
  · rintro rfl
    exact h.describes he

/-! ## Learning -/

/-- Only the methods of learned properties extrapolate. -/
theorem EntityOf.learned_of_extrapolate (h : EntityOf s artifacts c a)
    (hf : f ∈ (a.file s).members) (hcalls : f.callsOf "extrapolate" ≠ []) :
    ∃ e ∈ a.properties, e.access.kind = .learned := by
  rcases isOwn_or_index hf with hown | ⟨m, -, rfl⟩
  · cases hown with
    | constant _ hf => exact absurd (collect_constants hf) hcalls
    | fixed _ hfixed =>
      exact absurd (hfixed _ (passes_callsTo (by decide)) (passes_callsTo (by decide))) hcalls
    | @access e he hf =>
      have hnot : "extrapolate" ∉ e.called :=
        h.not_called_of_plain_name he (by decide) (by decide)
      unfold Accessor.accessMethods at hf
      cases haccess : e.access with
      | none =>
        rw [haccess] at hf
        exact absurd hf List.not_mem_nil
      | plain access =>
        rw [haccess] at hf
        refine absurd (collect_plainMethods (passes_all (by decide))
          (fun x hx => passes_callsTo fun heq => hnot ?_) hf) hcalls
        simp [PropertyPlan.called, haccess, hx, heq]
      | learned access => exact ⟨e, he, congrArg Access.kind haccess⟩
      | relation access =>
        rw [haccess] at hf
        refine absurd (collect_relationMethods (passes_all (by decide)) (fun calls hr =>
          ⟨passes_callsTo fun heq => hnot ?_, passes_callsTo fun heq => hnot ?_⟩) hf) hcalls
        · simp [PropertyPlan.called, haccess, hr, heq]
        · simp [PropertyPlan.called, haccess, hr, heq]
  · exact absurd (collect_indexMethod (passes_all (by decide)) m) hcalls

theorem EntityOf.hasLearnedAccess_iff (h : EntityOf s artifacts c a) :
    HasLearnedAccess s (a.file s) ↔ ∃ p ∈ c.properties, p.accessKind = .learned := by
  obtain ⟨hmap, hplanned⟩ := planProperties_ok (planAccessor_ok h.planned).2
  constructor
  · rintro ⟨constant, getter, hgetter, setter, -, hextrapolates, -⟩
    obtain ⟨action, hcalls⟩ := hextrapolates.extrapolates
    obtain ⟨e, he, hkind⟩ := h.learned_of_extrapolate hgetter (by
      rw [hcalls]
      exact List.cons_ne_nil _ _)
    obtain ⟨before, after, hplan⟩ := hplanned e he
    exact ⟨e.property, h.property_mem he, (kind_planProperty hplan).symm.trans hkind⟩
  · rintro ⟨p, hp, hkind⟩
    obtain ⟨constant, -, hkinds⟩ := h.reached_as_asked hp
    obtain ⟨getter, setter, hmethods, -, hextrapolates, -, hlearns⟩ := (hkinds _).mpr hkind.symm
    have hmem : ∀ f ∈ [getter, setter], f ∈ (a.file s).members := by
      intro f hf
      rw [← hmethods] at hf
      exact (List.mem_filter.mp hf).1
    exact ⟨constant, getter, hmem _ (by simp), setter, hmem _ (by simp), hextrapolates, hlearns⟩

/-- The facade looks for the properties that learn. -/
theorem usesLearning_iff : s.usesLearning = true ↔
    ∃ c ∈ s.model.classes, ∃ p ∈ c.properties, p.accessKind = .learned := by
  have hlearned : ∀ p : Property, p.accessKind = .learned ↔
      (p.isAttribute && p.isStored && p.algorithm.isSome) = true := by
    intro p
    cases hstored : p.isStored with
    | false => simp [accessKind_of_not_stored hstored]
    | true =>
      rw [accessKind_of_stored hstored, Property.isAttribute]
      cases p.kind
      · cases p.algorithm <;> simp
      · cases p.typeRef.primitive? <;> simp
  simp only [usesLearning, List.any_eq_true, hlearned]

end Scope

/-! ## The constructor of the facade -/

/-- The member adds plugins to a graph that is to be built. -/
def addsPlugins (f : Member) : Bool := !(f.callsOf "with_plugin").isEmpty

/-- What the learning plugin of the host stands as between commas. -/
def learningPlugin (s : Scope) : List Expr := (s.host.join ["ml", "MlPlugin"]).asArguments

theorem addsPlugins_eq_false {f : Member} (h : f.callsOf "with_plugin" = []) :
    addsPlugins f = false := by
  rw [addsPlugins, h]
  rfl

theorem plugins_constructor (s : Scope) (facade : Facade) :
    (facade.constructor s).callsOf "with_plugin" =
      facade.plugin.asArguments :: if facade.learns then [learningPlugin s] else [] :=
  Facade.collect_constructor (passes_callsTo (by decide)) facade

/-- The constructor alone adds plugins. -/
theorem filter_addsPlugins_file (s : Scope) (facade : Facade) :
    (facade.file s).members.filter addsPlugins = [facade.constructor s] := by
  have hfixed : (facade.fixedMembers s).filter addsPlugins = [] := by
    rw [List.filter_eq_nil_iff]
    intro f hf
    rw [addsPlugins_eq_false (Facade.callsOf_fixedMembers (by decide) hf)]
    exact Bool.false_ne_true
  rw [Facade.fixedMembers, List.filter_append, List.filter_append, List.append_eq_nil_iff,
    List.append_eq_nil_iff] at hfixed
  obtain ⟨⟨hconstants, hmethods⟩, hfactories⟩ := hfixed
  have hqueries : (facade.queries.flatMap (Facade.queryMethods s)).filter addsPlugins = [] := by
    rw [List.filter_eq_nil_iff]
    intro f hf
    obtain ⟨q, -, hf⟩ := List.mem_flatMap.mp hf
    rw [addsPlugins_eq_false (Facade.collect_queryMethods (passes_all (by decide)) hf)]
    exact Bool.false_ne_true
  have hconstructor : addsPlugins (facade.constructor s) = true := by
    rw [addsPlugins, plugins_constructor]
    rfl
  simp only [Facade.members_file, List.filter_append, hconstants, hmethods, hfactories, hqueries,
    List.filter_cons, hconstructor]
  rfl

/-! ## Runs -/

theorem Scope.planFacade_learns {facade : Facade} (h : s.planFacade = .ok facade) :
    facade.learns = s.usesLearning := by
  simp only [planFacade, bind_eq_ok] at h
  obtain ⟨_, -, _, -, _, -, _, -, _, -, h⟩ := h
  rw [← Except.ok.inj h]

/-- In a run that succeeds, every property is reached as it asks for.  The facade adds
the learning plugin when an accessor of the run has learned access, and not otherwise. -/
theorem learning_plugin_iff_learned_access {m : Model} {config : Config}
    (h : (generate m config).outcome = .ok artifacts) :
    ∃ s facade constructor, Scope.of m config = .ok s ∧ s.planFacade = .ok facade ∧
      IsOnlyFile artifacts .model (facade.file s) ∧
      (facade.file s).members.filter addsPlugins = [constructor] ∧ constructor.IsMethod "new" ∧
      ((∃ c ∈ m.classes, ∃ a, Scope.EntityOf s artifacts c a ∧ HasLearnedAccess s (a.file s)) →
        constructor.callsOf "with_plugin" = [facade.plugin.asArguments, learningPlugin s]) ∧
      ((¬ ∃ c ∈ m.classes, ∃ a, Scope.EntityOf s artifacts c a ∧ HasLearnedAccess s (a.file s)) →
        constructor.callsOf "with_plugin" = [facade.plugin.asArguments]) ∧
      ∀ c ∈ m.classes, ∃ a, Scope.EntityOf s artifacts c a ∧ ∀ p ∈ c.properties,
        ∃ constant, Code.identifier? (Text.constantCase p.name) = some constant ∧
          ∀ k, Describes s constant p.spelledName
            ((a.file s).members.filter (Member.reaches constant)) k ↔ k = p.accessKind := by
  obtain ⟨s, x, -, hs, hx, -, honly, -⟩ := Scope.generate_globals h
  simp only [Scope.facadeArtifact, bind_eq_ok] at hx
  obtain ⟨facade, hfacade, hrender⟩ := hx
  have hmodel := (Scope.of_eq_ok hs).1
  have hlearns : facade.learns = true ↔
      ∃ c ∈ m.classes, ∃ a, Scope.EntityOf s artifacts c a ∧ HasLearnedAccess s (a.file s) := by
    rw [Scope.planFacade_learns hfacade, Scope.usesLearning_iff, hmodel]
    refine exists_congr fun c => and_congr_right fun hc => ?_
    obtain ⟨a, ha⟩ := Scope.exists_entityOf h hs hc
    constructor
    · exact fun hp => ⟨a, ha, ha.hasLearnedAccess_iff.mpr hp⟩
    · rintro ⟨a', ha', hlearned⟩
      exact ha'.hasLearnedAccess_iff.mp hlearned
  refine ⟨s, facade, facade.constructor s, hs, hfacade, honly.file hrender,
    filter_addsPlugins_file s facade, ⟨_, _, _, _, rfl, rfl⟩, fun hlearned => ?_,
    fun hnot => ?_, fun c hc => ?_⟩
  · rw [plugins_constructor, if_pos (hlearns.mpr hlearned)]
  · rw [plugins_constructor, if_neg fun htrue => hnot (hlearns.mp htrue)]
  · obtain ⟨a, ha⟩ := Scope.exists_entityOf h hs hc
    exact ⟨a, ha, fun p hp => ha.reached_as_asked hp⟩

/-- The facade adds the learning plugin for the price of houses, while no method reaches
their rent. -/
theorem house_price_learned :
    ∃ (s : Scope) (artifacts : List Artifact) (a : Accessor) (facade : Facade)
      (constructor : Member),
      (generate town {}).outcome = .ok artifacts ∧ IsOnlyFile artifacts .model (facade.file s) ∧
      (facade.file s).members.filter addsPlugins = [constructor] ∧
      constructor.callsOf "with_plugin" = [facade.plugin.asArguments, learningPlugin s] ∧
      Scope.EntityOf s artifacts house a ∧
      Describes s "PRICE" "price" ((a.file s).members.filter (Member.reaches "PRICE")) .learned ∧
      (a.file s).members.filter (Member.reaches "RENT") = [] := by
  obtain ⟨artifacts, hrun, -⟩ := town_generates
  obtain ⟨s, facade, constructor, -, -, honly, hfilter, -, hlearning, -, haccess⟩ :=
    learning_plugin_iff_learned_access hrun
  have hclass : house ∈ town.classes := Model.mem_classes.mpr rfl
  have hprice : learnedPrice ∈ house.properties := Schema.Class.mem_properties.mpr rfl
  have hrent : derivedRent ∈ house.properties := Schema.Class.mem_properties.mpr rfl
  have hnames : Code.identifier? (Text.constantCase "price") = some "PRICE" ∧
      Code.identifier? (Text.constantCase "rent") = some "RENT" ∧
      learnedPrice.spelledName = "price" := by decide +kernel
  obtain ⟨a, ha, hreached⟩ := haccess house hclass
  obtain ⟨price, hpriceName, hpriceKind⟩ := hreached learnedPrice hprice
  obtain ⟨rent, hrentName, hrentKind⟩ := hreached derivedRent hrent
  obtain rfl : "PRICE" = price := Option.some.inj (hnames.1.symm.trans hpriceName)
  obtain rfl : "RENT" = rent := Option.some.inj (hnames.2.1.symm.trans hrentName)
  have hlearned := (hpriceKind .learned).mpr rfl
  rw [hnames.2.2] at hlearned
  refine ⟨s, artifacts, a, facade, constructor, hrun, honly, hfilter, hlearning ?_, ha, hlearned,
    (hrentKind .none).mpr rfl⟩
  exact ⟨house, hclass, a, ha, ha.hasLearnedAccess_iff.mpr ⟨learnedPrice, hprice, rfl⟩⟩

end Generate
end TypedGraph
