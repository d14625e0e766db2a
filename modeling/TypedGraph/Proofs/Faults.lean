/-
What diagnostics report.

`ParentFault` and `RelationFault` say what can be wrong with a class and with a
relation, in terms of the declared parents alone: an endless walk along them, and
the nearest property of a name on the way.  Diagnostics are computed from chains
that stop at a repetition and from lookups in them; they report those faults, each
one and nothing else, in name order.
-/
import TypedGraph.Proofs.Ancestry

namespace TypedGraph
namespace Schema
namespace Model

variable {m : Model} {c d : Class} {p q : Property} {f : Finding} {name fqn : String}

/-! ## Walks along declared parents -/

/-- Walking from a class along declared parents that are registered never ends. -/
def Endless (m : Model) (c : Class) : Prop :=
  ∃ walk : Nat → Class, walk 0 = c ∧ ∀ i, m.ParentStep (walk i) (walk (i + 1))

theorem Endless.parent (h : m.Endless c) (hd : Relation.ReflTransGen m.ParentStep c d) :
    ∃ e, m.ParentStep d e := by
  obtain ⟨walk, rfl, hwalk⟩ := h
  -- A class has one parent, so what is reached is met by the walk.
  have hmet : ∃ i, walk i = d := by
    induction hd with
    | refl => exact ⟨0, rfl⟩
    | tail _ hstep ih =>
      obtain ⟨i, rfl⟩ := ih
      exact ⟨i + 1, (hwalk i).unique hstep⟩
  obtain ⟨i, rfl⟩ := hmet
  exact ⟨_, hwalk i⟩

theorem endless_of_parents
    (h : ∀ d, Relation.ReflTransGen m.ParentStep c d → ∃ e, m.ParentStep d e) : m.Endless c := by
  let next (d : Class) : Class := (m.parentOf d).getD d
  have hreach : ∀ i, Relation.ReflTransGen m.ParentStep c (next^[i] c) ∧
      m.ParentStep (next^[i] c) (next^[i + 1] c) := by
    have hnext : ∀ d, Relation.ReflTransGen m.ParentStep c d → m.ParentStep d (next d) := by
      intro d hd
      obtain ⟨e, he⟩ := h d hd
      rw [show next d = e from congrArg (Option.getD · d) he]
      exact he
    intro i
    induction i with
    | zero => exact ⟨.refl, hnext c .refl⟩
    | succ i ih =>
      have hi := ih.1.tail ih.2
      rw [Function.iterate_succ_apply' next (i + 1)]
      exact ⟨hi, hnext _ hi⟩
  exact ⟨fun i => next^[i] c, rfl, fun i => (hreach i).2⟩

theorem loops_iff_endless (hc : m.class? c.fqn = some c) : m.loops c = true ↔ m.Endless c := by
  rw [loops_iff hc]
  exact ⟨endless_of_parents, fun h _ => h.parent⟩

/-- A class has a property of a name, or else its parent inherits one. -/
inductive Inherits (m : Model) (name : String) : Class → Property → Prop
  | own {c : Class} {p : Property} : c.property? name = some p → Inherits m name c p
  | above {c d : Class} {p : Property} :
    c.property? name = none → m.ParentStep c d → Inherits m name d p → Inherits m name c p

/-- Neither a class nor one above it has a property of a name. -/
def Lacks (m : Model) (name : String) (c : Class) : Prop :=
  ∀ d, Relation.ReflTransGen m.ParentStep c d → d.property? name = none

theorem Inherits.unique (hp : m.Inherits name c p) (hq : m.Inherits name c q) : p = q := by
  induction hp with
  | own hp =>
    cases hq with
    | own hq => exact Option.some.inj (hp.symm.trans hq)
    | above hnone => exact nomatch hp.symm.trans hnone
  | above hnone hstep _ ih =>
    cases hq with
    | own hq => exact nomatch hnone.symm.trans hq
    | above _ hstep' hq =>
      rw [← hstep.unique hstep'] at hq
      exact ih hq

theorem Inherits.not_lacks (h : m.Inherits name c p) : ¬m.Lacks name c := by
  intro hlacks
  induction h with
  | own hp => exact nomatch hp.symm.trans (hlacks _ .refl)
  | above _ hstep _ ih => exact ih fun d hd => hlacks d (.head hstep hd)

/-- The first class of a chain that has a property is the nearest one. -/
theorem inherits_of_findSome? {chain : List Class} (hchain : chain.IsChain m.ParentStep)
    (h : chain.findSome? (fun c => (c.property? name).map (c, ·)) = some (d, p)) :
    ∃ c ∈ chain.head?, m.Inherits name c p := by
  induction chain with
  | nil => exact nomatch h
  | cons c rest ih =>
    refine ⟨c, rfl, ?_⟩
    rw [List.findSome?_cons] at h
    cases hc : c.property? name with
    | some q =>
      rw [hc] at h
      obtain ⟨-, rfl⟩ := Prod.mk.inj (Option.some.inj h)
      exact .own hc
    | none =>
      rw [hc] at h
      obtain ⟨hstep, hrest⟩ := List.isChain_cons.mp hchain
      obtain ⟨e, he, hinherits⟩ := ih hrest h
      exact .above hc (hstep e he) hinherits

theorem findProperty_eq_none (hc : m.class? fqn = some c) :
    m.findProperty fqn name = none ↔ m.Lacks name c := by
  rw [findProperty, List.findSome?_eq_none_iff]
  simp only [Option.map_eq_none_iff, mem_parentChain, hc, Option.some.injEq, exists_eq_left', Lacks]

theorem exists_findProperty (hc : m.class? fqn = some c) :
    (∃ owner, m.findProperty fqn name = some (owner, p)) ↔ m.Inherits name c p := by
  have hsound : ∀ {owner q}, m.findProperty fqn name = some (owner, q) →
      m.Inherits name c q := by
    intro owner q h
    obtain ⟨d, hd, hinherits⟩ := inherits_of_findSome? (m.isChain_parentChain fqn) h
    rw [head?_chainFrom hd] at hc
    rw [← Option.some.inj hc]
    exact hinherits
  constructor
  · rintro ⟨owner, h⟩
    exact hsound h
  · intro h
    cases hfind : m.findProperty fqn name with
    | none => exact absurd ((findProperty_eq_none hc).mp hfind) h.not_lacks
    | some found => exact ⟨found.1, by rw [h.unique (hsound hfind)]⟩

theorem lacks_or_inherits (m : Model) (name : String) (hc : m.class? fqn = some c) :
    m.Lacks name c ∨ ∃ p, m.Inherits name c p := by
  cases hfind : m.findProperty fqn name with
  | none => exact .inl ((findProperty_eq_none hc).mp hfind)
  | some found => exact .inr ⟨found.2, (exists_findProperty hc).mp ⟨found.1, hfind⟩⟩

/-! ## Faults -/

/-- What can be wrong with the parent that a class declares. -/
inductive ParentFault (m : Model) (c : Class) : Finding → Prop
  | missing {declared : String} : c.parent = some declared → m.class? declared = none →
    ParentFault m c (.parentMissing declared)
  | cycle {declared : String} : c.parent = some declared → (m.class? declared).isSome →
    m.Endless c → ParentFault m c .inheritanceCycle

/-- What can be wrong with a relation: with its target, or else with its opposite. -/
inductive RelationFault (m : Model) (p : Property) : Finding → Prop
  | primitive {q : Primitive} : p.typeRef = .primitive q → RelationFault m p (.primitiveTarget q)
  | notClass {target : String} : p.typeRef = .classifier target → (m.get? target).isSome →
    m.class? target = none → RelationFault m p (.targetNotClass target)
  | missing {target : String} : p.typeRef = .classifier target → m.get? target = none →
    RelationFault m p (.targetMissing target)
  | oppositeAttribute {target opposite : String} {c : Class} {q : Property} :
    p.typeRef = .classifier target → m.class? target = some c → p.opposite = some opposite →
    m.Inherits opposite c q → q.isRelation = false →
    RelationFault m p (.oppositeNotRelation opposite target)
  | oppositeMissing {target opposite : String} {c : Class} :
    p.typeRef = .classifier target → m.class? target = some c → p.opposite = some opposite →
    m.Lacks opposite c → RelationFault m p (.oppositeMissing opposite target)

theorem parentFinding?_eq_some (hc : m.class? c.fqn = some c) :
    m.parentFinding? c = some f ↔ m.ParentFault c f := by
  unfold parentFinding?
  constructor
  · intro h
    split at h
    · exact nomatch h
    · next declared hdeclared =>
      split at h
      · next hmissing =>
        rw [← Option.some.inj h]
        exact .missing hdeclared (Option.isNone_iff_eq_none.mp hmissing)
      · next hfound =>
        split at h
        · next hloops =>
          rw [← Option.some.inj h]
          refine .cycle hdeclared ?_ ((loops_iff_endless hc).mp hloops)
          exact Option.isSome_iff_ne_none.mpr fun h => hfound (Option.isNone_iff_eq_none.mpr h)
        · exact nomatch h
  · rintro (⟨hdeclared, hmissing⟩ | ⟨hdeclared, hfound, hendless⟩)
    · simp [hdeclared, hmissing]
    · simp [hdeclared, (loops_iff_endless hc).mpr hendless, Option.isSome_iff_ne_none.mp hfound]

theorem oppositeFinding?_of_lacks {target opposite : String} (hc : m.class? target = some c)
    (h : m.Lacks opposite c) :
    m.oppositeFinding? target opposite = some (.oppositeMissing opposite target) := by
  rw [oppositeFinding?, (findProperty_eq_none hc).mpr h]

theorem oppositeFinding?_of_inherits {target opposite : String} (hc : m.class? target = some c)
    (h : m.Inherits opposite c q) : m.oppositeFinding? target opposite =
      if q.isRelation then none else some (.oppositeNotRelation opposite target) := by
  obtain ⟨owner, hfind⟩ := (exists_findProperty hc).mpr h
  rw [oppositeFinding?, hfind]

theorem relationFinding?_eq_some : m.relationFinding? p = some f ↔ m.RelationFault p f := by
  constructor
  · intro h
    unfold relationFinding? at h
    split at h
    · next q htype =>
      rw [← Option.some.inj h]
      exact .primitive htype
    · next target htype =>
      split at h
      · next hget =>
        rw [← Option.some.inj h]
        exact .missing htype hget
      · next c hget =>
        have hc := class?_eq_some.mpr hget
        obtain ⟨opposite, hopposite, h⟩ := Option.bind_eq_some_iff.mp h
        rcases lacks_or_inherits m opposite hc with hlacks | ⟨q, hq⟩
        · rw [oppositeFinding?_of_lacks hc hlacks] at h
          rw [← Option.some.inj h]
          exact .oppositeMissing htype hc hopposite hlacks
        · rw [oppositeFinding?_of_inherits hc hq] at h
          split at h
          · cases h
          · next hrelation =>
            rw [← Option.some.inj h]
            exact .oppositeAttribute htype hc hopposite hq (Bool.eq_false_iff.mpr hrelation)
      · next other hother hget =>
        rw [← Option.some.inj h]
        refine .notClass htype (by rw [hget]; rfl) ?_
        cases other with
        | ofClass c => exact absurd rfl (hother c)
        | ofEnum e => rw [class?, hget]; rfl
        | ofIndex i => rw [class?, hget]; rfl
  · rintro (htype | ⟨htype, hsome, hclass⟩ | ⟨htype, hnone⟩ | ⟨htype, hc, hopposite, hq, hrelation⟩ |
      ⟨htype, hc, hopposite, hlacks⟩)
    · simp only [relationFinding?, htype]
    · obtain ⟨other, hget⟩ := Option.isSome_iff_exists.mp hsome
      simp only [relationFinding?, htype, hget]
      cases other with
      | ofClass c => cases (class?_eq_some.mpr hget).symm.trans hclass
      | ofEnum e => rfl
      | ofIndex i => rfl
    · simp only [relationFinding?, htype, hnone]
    · simp only [relationFinding?, htype, class?_eq_some.mp hc, hopposite, Option.bind_some,
        oppositeFinding?_of_inherits hc hq, hrelation, Bool.false_eq_true, if_false]
    · simp only [relationFinding?, htype, class?_eq_some.mp hc, hopposite, Option.bind_some,
        oppositeFinding?_of_lacks hc hlacks]

/-! ## All diagnostics -/

/-- Names in the order of diagnostics. -/
theorem lt_of_compare {a b : String} (h : compare a b = .lt) : a < b :=
  compareOfLessAndEq_eq_lt.mp h

/-- The faults that diagnostics report of declared parents, with their classes. -/
def parentFaults (m : Model) : List (Class × Finding) :=
  m.classes.filterMap fun c => (m.parentFinding? c).map (c, ·)

def relationFaults (m : Model) : List (Class × Property × Finding) :=
  m.classes.flatMap fun c => (c.properties.filter (·.isRelation)).filterMap fun p =>
    (m.relationFinding? p).map (c, p, ·)

theorem parentDiagnostics_eq (m : Model) :
    m.parentDiagnostics = m.parentFaults.map fun (c, f) => ⟨c.fqn, f⟩ := by
  rw [parentDiagnostics, parentFaults, List.map_filterMap]
  simp only [Option.map_map]
  rfl

theorem relationDiagnostics_eq (m : Model) :
    m.relationDiagnostics =
      m.relationFaults.map fun (c, p, f) => ⟨c.fqn ++ "." ++ p.name, f⟩ := by
  rw [relationDiagnostics, relationFaults, List.map_flatMap]
  simp only [List.map_filterMap, Option.map_map]
  rfl

theorem mem_parentFaults :
    (c, f) ∈ m.parentFaults ↔ m.class? c.fqn = some c ∧ m.ParentFault c f := by
  rw [parentFaults, List.mem_filterMap]
  constructor
  · rintro ⟨d, hd, h⟩
    obtain ⟨g, hg, heq⟩ := Option.map_eq_some_iff.mp h
    cases heq
    have hregistered := mem_classes.mp hd
    exact ⟨hregistered, (parentFinding?_eq_some hregistered).mp hg⟩
  · rintro ⟨hregistered, hfault⟩
    refine ⟨c, mem_classes.mpr hregistered, ?_⟩
    rw [(parentFinding?_eq_some hregistered).mpr hfault]
    rfl

theorem mem_relationFaults : (c, p, f) ∈ m.relationFaults ↔
    m.class? c.fqn = some c ∧ c.property? p.name = some p ∧ p.isRelation = true ∧
      m.RelationFault p f := by
  rw [relationFaults, List.mem_flatMap]
  constructor
  · rintro ⟨d, hd, h⟩
    obtain ⟨q, hq, h⟩ := List.mem_filterMap.mp h
    obtain ⟨hq, hrelation⟩ := List.mem_filter.mp hq
    obtain ⟨g, hg, heq⟩ := Option.map_eq_some_iff.mp h
    cases heq
    exact ⟨mem_classes.mp hd, Class.mem_properties.mp hq, hrelation,
      relationFinding?_eq_some.mp hg⟩
  · rintro ⟨hregistered, hproperty, hrelation, hfault⟩
    refine ⟨c, mem_classes.mpr hregistered, List.mem_filterMap.mpr ⟨p, ?_, ?_⟩⟩
    · exact List.mem_filter.mpr ⟨Class.mem_properties.mpr hproperty, hrelation⟩
    · rw [relationFinding?_eq_some.mpr hfault]
      rfl

theorem sorted_parentFaults (m : Model) :
    m.parentFaults.Pairwise fun x y => x.1.fqn < y.1.fqn := by
  rw [parentFaults, List.pairwise_filterMap]
  refine (List.pairwise_map.mp m.ascending_classes).imp fun {c d} hlt x hx y hy => ?_
  obtain ⟨f, -, rfl⟩ := Option.map_eq_some_iff.mp hx
  obtain ⟨g, -, rfl⟩ := Option.map_eq_some_iff.mp hy
  exact lt_of_compare hlt

theorem sorted_relationFaults (m : Model) : m.relationFaults.Pairwise fun x y =>
    x.1.fqn < y.1.fqn ∨ x.1 = y.1 ∧ x.2.1.name < y.2.1.name := by
  rw [relationFaults, List.pairwise_flatMap]
  constructor
  · intro c _
    rw [List.pairwise_filterMap]
    have hproperties := (List.pairwise_map.mp c.ascending_properties).filter (·.isRelation)
    refine hproperties.imp fun {p q} hlt x hx y hy => ?_
    obtain ⟨f, -, rfl⟩ := Option.map_eq_some_iff.mp hx
    obtain ⟨g, -, rfl⟩ := Option.map_eq_some_iff.mp hy
    exact .inr ⟨rfl, lt_of_compare hlt⟩
  · refine (List.pairwise_map.mp m.ascending_classes).imp fun {c d} hlt x hx y hy => ?_
    obtain ⟨p, -, hx⟩ := List.mem_filterMap.mp hx
    obtain ⟨f, -, rfl⟩ := Option.map_eq_some_iff.mp hx
    obtain ⟨q, -, hy⟩ := List.mem_filterMap.mp hy
    obtain ⟨g, -, rfl⟩ := Option.map_eq_some_iff.mp hy
    exact .inl (lt_of_compare hlt)

theorem diagnostics_eq (m : Model) : m.diagnostics =
    (m.parentFaults.map fun (c, f) => ⟨c.fqn, f⟩) ++
      m.relationFaults.map fun (c, p, f) => ⟨c.fqn ++ "." ++ p.name, f⟩ := by
  rw [diagnostics, parentDiagnostics_eq, relationDiagnostics_eq]

/-! ## Models without diagnostics -/

/-- Every declared parent is registered, no walk along parents is endless, every
relation leads to a class, and every declared opposite is a relation there. -/
structure WellLinked (m : Model) : Prop where
  parent : ∀ c declared, m.class? c.fqn = some c → c.parent = some declared →
    (m.class? declared).isSome
  ends : ∀ c, m.class? c.fqn = some c → ¬m.Endless c
  target : ∀ c p, m.class? c.fqn = some c → c.property? p.name = some p → p.isRelation = true →
    ∃ target, p.typeRef = .classifier target ∧ (m.class? target).isSome
  opposite : ∀ c p target d opposite, m.class? c.fqn = some c → c.property? p.name = some p →
    p.isRelation = true → p.typeRef = .classifier target → m.class? target = some d →
    p.opposite = some opposite → ∃ q, m.Inherits opposite d q ∧ q.isRelation = true

theorem diagnostics_eq_nil : m.diagnostics = [] ↔
    (∀ c f, m.class? c.fqn = some c → ¬m.ParentFault c f) ∧
    (∀ c p f, m.class? c.fqn = some c → c.property? p.name = some p → p.isRelation = true →
      ¬m.RelationFault p f) := by
  rw [diagnostics_eq, List.append_eq_nil_iff, List.map_eq_nil_iff, List.map_eq_nil_iff,
    List.eq_nil_iff_forall_not_mem, List.eq_nil_iff_forall_not_mem]
  constructor
  · rintro ⟨hparents, hrelations⟩
    exact ⟨fun c f hc hfault => hparents (c, f) (mem_parentFaults.mpr ⟨hc, hfault⟩),
      fun c p f hc hp hr hfault =>
        hrelations (c, p, f) (mem_relationFaults.mpr ⟨hc, hp, hr, hfault⟩)⟩
  · rintro ⟨hparents, hrelations⟩
    refine ⟨fun (c, f) hmem => ?_, fun (c, p, f) hmem => ?_⟩
    · obtain ⟨hc, hfault⟩ := mem_parentFaults.mp hmem
      exact hparents c f hc hfault
    · obtain ⟨hc, hp, hr, hfault⟩ := mem_relationFaults.mp hmem
      exact hrelations c p f hc hp hr hfault

theorem wellLinked_of_diagnostics (h : m.diagnostics = []) : m.WellLinked := by
  obtain ⟨hparents, hrelations⟩ := diagnostics_eq_nil.mp h
  have hparent : ∀ c declared, m.class? c.fqn = some c → c.parent = some declared →
      (m.class? declared).isSome := by
    intro c declared hc hdeclared
    refine Option.isSome_iff_ne_none.mpr fun hmissing => ?_
    exact hparents c _ hc (.missing hdeclared hmissing)
  refine ⟨hparent, fun c hc hendless => ?_, fun c p hc hp hr => ?_,
    fun c p target d opposite hc hp hr htype hd hopposite => ?_⟩
  · obtain ⟨d, hd⟩ := hendless.parent .refl
    obtain ⟨declared, hdeclared, -⟩ := parentStep_iff.mp hd
    exact hparents c _ hc (.cycle hdeclared (hparent c declared hc hdeclared) hendless)
  · cases htype : p.typeRef with
    | primitive q => exact absurd (.primitive htype) (hrelations c p _ hc hp hr)
    | classifier target =>
      refine ⟨target, rfl, Option.isSome_iff_ne_none.mpr fun hclass => ?_⟩
      cases hget : m.get? target with
      | none => exact hrelations c p _ hc hp hr (.missing htype hget)
      | some other =>
        exact hrelations c p _ hc hp hr (.notClass htype (by rw [hget]; rfl) hclass)
  · rcases lacks_or_inherits m opposite hd with hlacks | ⟨q, hq⟩
    · exact absurd (.oppositeMissing htype hd hopposite hlacks) (hrelations c p _ hc hp hr)
    · cases hrelation : q.isRelation with
      | true => exact ⟨q, hq, hrelation⟩
      | false =>
        have hfault := RelationFault.oppositeAttribute htype hd hopposite hq hrelation
        exact absurd hfault (hrelations c p _ hc hp hr)

theorem WellLinked.diagnostics (h : m.WellLinked) : m.diagnostics = [] := by
  refine diagnostics_eq_nil.mpr ⟨fun c f hc hfault => ?_, fun c p f hc hp hr hfault => ?_⟩
  · cases hfault with
    | missing hdeclared hmissing =>
      exact Option.isSome_iff_ne_none.mp (h.parent c _ hc hdeclared) hmissing
    | cycle _ _ hendless => exact h.ends c hc hendless
  · obtain ⟨target, htype, hclass⟩ := h.target c p hc hp hr
    cases hfault with
    | primitive htype' => cases htype.symm.trans htype'
    | notClass htype' _ hnone =>
      cases htype.symm.trans htype'
      exact Option.isSome_iff_ne_none.mp hclass hnone
    | missing htype' hnone =>
      cases htype.symm.trans htype'
      rw [class?, hnone] at hclass
      cases hclass
    | oppositeAttribute htype' hd hopposite hq hattribute =>
      obtain ⟨q', hq', hrelation⟩ := h.opposite c p _ _ _ hc hp hr htype' hd hopposite
      rw [hq.unique hq', hrelation] at hattribute
      cases hattribute
    | oppositeMissing htype' hd hopposite hlacks =>
      obtain ⟨q, hq, -⟩ := h.opposite c p _ _ _ hc hp hr htype' hd hopposite
      exact hq.not_lacks hlacks

/-- Diagnostics are the faults of the declared parents in the order of classes,
and then those of the relations in the order of classes and properties, at most
one for each class and each relation.  There are none just when all that is
declared resolves. -/
theorem diagnostics_report_each_fault (m : Model) :
    (∃ (parents : List (Class × Finding)) (relations : List (Class × Property × Finding)),
      m.diagnostics = (parents.map fun (c, f) => ⟨c.fqn, f⟩) ++
        relations.map (fun (c, p, f) => ⟨c.fqn ++ "." ++ p.name, f⟩) ∧
      (parents.Pairwise fun x y => x.1.fqn < y.1.fqn) ∧
      (∀ c f, (c, f) ∈ parents ↔ m.class? c.fqn = some c ∧ m.ParentFault c f) ∧
      (relations.Pairwise fun x y =>
        x.1.fqn < y.1.fqn ∨ x.1 = y.1 ∧ x.2.1.name < y.2.1.name) ∧
      (∀ c p f, (c, p, f) ∈ relations ↔
        m.class? c.fqn = some c ∧ c.property? p.name = some p ∧ p.isRelation = true ∧
          m.RelationFault p f)) ∧
    (m.diagnostics = [] ↔ m.WellLinked) :=
  ⟨⟨m.parentFaults, m.relationFaults, m.diagnostics_eq, m.sorted_parentFaults,
    fun _ _ => mem_parentFaults, m.sorted_relationFaults, fun _ _ _ => mem_relationFaults⟩,
    wellLinked_of_diagnostics, WellLinked.diagnostics⟩

/-- A class that leads into a loop is reported beside the classes on it. -/
example :
    let declare (name parent : String) := Classifier.ofClass
      { ident := .of none name, parent := some parent }
    (((empty.add (declare "C" "A")).add (declare "B" "A")).add (declare "A" "B")).diagnostics =
      [⟨"A", .inheritanceCycle⟩, ⟨"B", .inheritanceCycle⟩, ⟨"C", .inheritanceCycle⟩] := by
  decide

end Model
end Schema
end TypedGraph
