/-
The groups of attributes that are indexed together.

The plain attributes of a class that some index covers fall into groups, one for
each index that is the first over some of them (`Partitions`).  An accessor has one
method for each group (`IndexesGroups`), and its setters call these methods only
when writes are set to refresh indexes (`RefreshesGroups`).
-/
import TypedGraph.Proofs.AccessorNames

namespace TypedGraph
namespace Code

/-- The member is a function whose name starts with a text. -/
def Member.startsWith (front : String) (f : Member) : Bool :=
  f.functionName?.any fun name => front.toList.isPrefixOf name.toList

/-- A method of that name stores the value that it is given under a constant of the
type itself. -/
structure Member.Stores (f : Member) (name key : String) : Prop where
  named : f.IsMethod name
  stores : ∃ typeKey, f.callsOf "set" = [[.ofSelf key, .ofSelf typeKey, .name "value"]]

end Code

namespace Generate

open Schema (Classifier Index Model Property)
open Code (Member passes_all passes_callsTo)

/-! ## First entries of groups -/

section
variable {groups : List IndexGroup} {plans : List PropertyPlan} {g : IndexGroup}

theorem Grouped.coveredBy_ne_nil (h : Grouped groups plans) (hg : g ∈ groups) :
    coveredBy plans g.index.fqn ≠ [] := by
  obtain ⟨e, he, hcover⟩ := h.covers g hg
  refine List.ne_nil_of_mem (List.mem_filter.mpr ⟨he, ?_⟩)
  rw [hcover]
  exact beq_self_eq_true _

/-- Groups stand in the order of their first entries. -/
theorem firsts_sublist (plans : List PropertyPlan) :
    (((indexGroups plans).map (·.index.fqn)).filterMap
      fun fqn => (coveredBy plans fqn).head?).Sublist plans := by
  induction plans using List.reverseRecOn with
  | nil => exact List.nil_sublist _
  | append_singleton plans e ih =>
    have hgrouped := grouped_indexGroups plans
    -- an entry more does not change which one is first in a group that is there
    have hkept : ∀ fqn ∈ (indexGroups plans).map (·.index.fqn),
        (coveredBy (plans ++ [e]) fqn).head? = (coveredBy plans fqn).head? := by
      intro fqn hfqn
      obtain ⟨g, hg, rfl⟩ := List.mem_map.mp hfqn
      rw [coveredBy_concat]
      split
      · exact List.head?_append_of_ne_nil _ (hgrouped.coveredBy_ne_nil hg)
      · rfl
    have hfirsts : (((indexGroups plans).map (·.index.fqn)).filterMap
        fun fqn => (coveredBy (plans ++ [e]) fqn).head?).Sublist plans := by
      rw [List.filterMap_congr hkept]
      exact ih
    rw [indexGroups, List.foldl_append, ← indexGroups, List.foldl_cons, List.foldl_nil]
    cases he : e.cover with
    | none => exact hfirsts.trans (List.sublist_append_left _ _)
    | some cover =>
      simp only [fqns_joinGroup]
      split
      · exact hfirsts.trans (List.sublist_append_left _ _)
      · next hnew =>
        have hfirst : (coveredBy (plans ++ [e]) cover.index.fqn).head? = some e := by
          rw [coveredBy_concat, he, Option.map_some, if_pos rfl, hgrouped.coveredBy_eq_nil hnew]
          rfl
        have hlast : [cover.index.fqn].filterMap
            (fun fqn => (coveredBy (plans ++ [e]) fqn).head?) = [e] :=
          List.filterMap_cons_some hfirst
        rw [List.filterMap_append, hlast]
        exact hfirsts.append (List.Sublist.refl [e])

end

/-! ## What an accessor does with groups -/

/-- Attributes of a class that are indexed together, and the method for that. -/
structure AttributeGroup where
  index : Index
  attributes : List Property
  method : Member

/-- Groups hold the plain attributes of a class that some index over it covers.  Each
stands in one group, that of the index registered first, and the groups stand in the
order of their first attributes. -/
structure Partitions (m : Model) (ws : List Classifier) (c : Schema.Class)
    (groups : List AttributeGroup) : Prop where
  covered : ∀ p ∈ c.properties, p.isPlain = true →
    ∀ i ∈ m.indexes, i.className = c.fqn → p.name ∈ i.properties →
      ∃! g, g ∈ groups ∧ p ∈ g.attributes
  mem_iff : ∀ g ∈ groups, ∀ p, p ∈ g.attributes ↔
    p ∈ c.properties ∧ p.isPlain = true ∧ Model.firstOver ws c.fqn p.name = some g.index
  nonempty : ∀ g ∈ groups, g.attributes ≠ []
  distinct : (groups.map (·.index.fqn)).Nodup
  ascending : ∀ g ∈ groups,
    (g.attributes.map Property.name).Pairwise fun a b => compare a b = .lt
  ordered : ((groups.filterMap (·.attributes.head?)).map Property.name).Pairwise
    fun a b => compare a b = .lt

/-- The methods named after indexes are those of the groups, and each re-enters the
node under the constants of its attributes. -/
structure IndexesGroups (s : Scope) (file : Code.File) (groups : List AttributeGroup) : Prop where
  methods : file.members.filter (Member.startsWith "index_") = groups.map AttributeGroup.method
  reenters : ∀ g ∈ groups, ∃ facade constant keys, s.modelPath = .ok facade ∧
    Code.identifier? (indexConstantName g.index.name) = some constant ∧
    List.Forall₂ (fun p key => Code.identifier? (Text.constantCase p.name) = some key)
      g.attributes keys ∧
    g.method.Reenters ("index_" ++ g.index.spelledName) (facade.join [constant]).asArguments
      (ownKeys keys)

/-- A member that stores the value of an attribute. -/
def IsSetter (p : Property) (f : Member) : Prop :=
  ∃ key, Code.identifier? (Text.constantCase p.name) = some key ∧
    f.Stores ("set_" ++ p.spelledName) key

/-- With writes set to refresh indexes, the setter of an attribute in a group calls the
method of that group.  Nothing else calls a method named after an index. -/
structure RefreshesGroups (s : Scope) (file : Code.File) (groups : List AttributeGroup) :
    Prop where
  exists_setter : ∀ g ∈ groups, ∀ p ∈ g.attributes, ∃ f ∈ file.members, IsSetter p f
  refreshes : ∀ g ∈ groups, ∀ p ∈ g.attributes, ∀ f ∈ file.members, IsSetter p f →
    f.callsOf ("index_" ++ g.index.spelledName) = if s.config.reindexOnWrite then [[]] else []
  no_other : ∀ f ∈ file.members, ∀ name, "index_".toList <+: name.toList → f.callsOf name ≠ [] →
    s.config.reindexOnWrite = true ∧
      ∃ g ∈ groups, ∃ p ∈ g.attributes, IsSetter p f ∧ name = "index_" ++ g.index.spelledName

def attributeGroup (s : Scope) (a : Accessor) (m : IndexMethod) : AttributeGroup where
  index := m.group.index
  attributes := (coveredBy a.properties m.group.index.fqn).map PropertyPlan.property
  method := Accessor.indexMethod s m

namespace Scope

variable {s : Scope} {c : Schema.Class} {a : Accessor} {artifacts : List Artifact}
  {ws : List Classifier} {m : IndexMethod} {e : PropertyPlan} {p : Property} {f : Member}

/-! ## Partitions -/

theorem EntityOf.firstOver_eq (h : EntityOf s artifacts c a) (hws : Model.Holds s.model ws)
    (he : e ∈ a.properties) {i : Index} :
    e.cover.map Cover.index = some i ↔
      e.property.isPlain = true ∧ Model.firstOver ws c.fqn e.property.name = some i := by
  rw [(h.coversFirst he).index, hws.head?_indexesOf]
  cases hplain : e.property.isPlain with
  | true => simp
  | false => simp

theorem EntityOf.mem_coveredBy (h : EntityOf s artifacts c a) (hws : Model.Holds s.model ws)
    (hm : m ∈ a.indexMethods) : e ∈ coveredBy a.properties m.group.index.fqn ↔
      e ∈ a.properties ∧ e.cover.map Cover.index = some m.group.index := by
  rw [coveredBy, List.mem_filter, beq_iff_eq]
  refine and_congr_right fun he => ?_
  constructor
  · intro hfqn
    obtain ⟨cover, hcover, hfqn⟩ := Option.map_eq_some_iff.mp hfqn
    -- both are registered, under one name
    have hregistered := h.registered_of_covers hws he hcover
    rw [hfqn, h.registered hws hm] at hregistered
    rw [hcover, Option.map_some, Option.some.inj hregistered]
  · intro hindex
    obtain ⟨cover, hcover, hindex⟩ := Option.map_eq_some_iff.mp hindex
    rw [hcover, Option.map_some, hindex]

theorem EntityOf.mem_attributes (h : EntityOf s artifacts c a) (hws : Model.Holds s.model ws)
    (hm : m ∈ a.indexMethods) : p ∈ (attributeGroup s a m).attributes ↔
      ∃ e ∈ a.properties, e.property = p ∧ e.cover.map Cover.index = some m.group.index := by
  rw [attributeGroup, List.mem_map]
  constructor
  · rintro ⟨e, he, rfl⟩
    obtain ⟨he, hindex⟩ := (h.mem_coveredBy hws hm).mp he
    exact ⟨e, he, rfl, hindex⟩
  · rintro ⟨e, he, rfl, hindex⟩
    exact ⟨e, (h.mem_coveredBy hws hm).mpr ⟨he, hindex⟩, rfl⟩

/-- A covered entry stands in the group of its index. -/
theorem EntityOf.exists_group (h : EntityOf s artifacts c a) (hws : Model.Holds s.model ws)
    (he : e ∈ a.properties) {x : Cover} (hx : e.cover = some x) :
    ∃ m ∈ a.indexMethods, m.group.index = x.index ∧
      e.property ∈ (attributeGroup s a m).attributes := by
  have hgroup := (grouped_indexGroups a.properties).complete e he x hx
  rw [← h.groups_planned, List.map_map] at hgroup
  obtain ⟨m, hm, hfqn⟩ := List.mem_map.mp hgroup
  have hregistered := h.registered_of_covers hws he hx
  have hsame : m.group.index = x.index := by
    have hown := h.registered hws hm
    rw [show m.group.index.fqn = x.index.fqn from hfqn, hregistered] at hown
    exact (Option.some.inj hown).symm
  refine ⟨m, hm, hsame, (h.mem_attributes hws hm).mpr ⟨e, he, rfl, ?_⟩⟩
  rw [hx, hsame]
  rfl

theorem EntityOf.distinct_groups (h : EntityOf s artifacts c a) :
    ((a.indexMethods.map (attributeGroup s a)).map (·.index.fqn)).Nodup := by
  have hdistinct := (grouped_indexGroups a.properties).distinct
  rw [← h.groups_planned, List.map_map] at hdistinct
  rw [List.map_map]
  exact hdistinct

theorem EntityOf.ascending_plans (h : EntityOf s artifacts c a) :
    (a.properties.map (·.property.name)).Pairwise fun a b => compare a b = .lt := by
  have hascending := c.ascending_properties
  rw [← (planProperties_ok (planAccessor_ok h.planned).2).1, List.map_map] at hascending
  exact hascending

theorem EntityOf.partitions (h : EntityOf s artifacts c a) (hws : Model.Holds s.model ws) :
    Partitions s.model ws c (a.indexMethods.map (attributeGroup s a)) := by
  have hmem : ∀ g ∈ a.indexMethods.map (attributeGroup s a), ∀ p, p ∈ g.attributes ↔
      p ∈ c.properties ∧ p.isPlain = true ∧ Model.firstOver ws c.fqn p.name = some g.index := by
    intro g hg p
    obtain ⟨m, hm, rfl⟩ := List.mem_map.mp hg
    rw [h.mem_attributes hws hm]
    constructor
    · rintro ⟨e, he, rfl, hindex⟩
      exact ⟨h.property_mem he, (h.firstOver_eq hws he).mp hindex⟩
    · rintro ⟨hp, hfirst⟩
      obtain ⟨e, he, rfl⟩ := h.exists_plan hp
      exact ⟨e, he, rfl, (h.firstOver_eq hws he).mpr hfirst⟩
  refine ⟨fun p hp hplain i hi hclass hname => ?_, hmem, fun g hg => ?_, h.distinct_groups,
    fun g hg => ?_, ?_⟩
  · obtain ⟨e, he, rfl⟩ := h.exists_plan hp
    obtain ⟨first, hfirst⟩ : ∃ first, Model.firstOver ws c.fqn e.property.name = some first := by
      rw [← hws.head?_indexesOf]
      have hcovers := hws.mem_indexesOf.mpr ⟨Model.mem_indexes.mp hi, hclass, hname⟩
      exact Option.ne_none_iff_exists'.mp fun hnone =>
        List.ne_nil_of_mem hcovers (List.head?_eq_none_iff.mp hnone)
    obtain ⟨x, hx, -⟩ := Option.map_eq_some_iff.mp ((h.firstOver_eq hws he).mpr ⟨hplain, hfirst⟩)
    obtain ⟨m, hm, -, hgroup⟩ := h.exists_group hws he hx
    have hg := List.mem_map_of_mem (f := attributeGroup s a) hm
    refine ⟨attributeGroup s a m, ⟨hg, hgroup⟩, ?_⟩
    rintro g ⟨hother, hin⟩
    have hindex : g.index = (attributeGroup s a m).index :=
      Option.some.inj (((hmem g hother _).mp hin).2.2.symm.trans ((hmem _ hg _).mp hgroup).2.2)
    exact List.inj_on_of_nodup_map h.distinct_groups hother hg (congrArg Index.fqn hindex)
  · obtain ⟨m, hm, rfl⟩ := List.mem_map.mp hg
    rw [attributeGroup, Ne, List.map_eq_nil_iff]
    exact (grouped_indexGroups a.properties).coveredBy_ne_nil (h.mem_groups hm)
  · obtain ⟨m, hm, rfl⟩ := List.mem_map.mp hg
    rw [attributeGroup, List.map_map]
    exact h.ascending_plans.sublist (List.filter_sublist.map _)
  · have hfirsts : (a.indexMethods.map (attributeGroup s a)).filterMap (·.attributes.head?) =
        (((indexGroups a.properties).map (·.index.fqn)).filterMap
          fun fqn => (coveredBy a.properties fqn).head?).map PropertyPlan.property := by
      rw [← h.groups_planned, List.map_map, List.map_filterMap, List.filterMap_map,
        List.filterMap_map]
      refine List.filterMap_congr fun m _ => ?_
      exact List.head?_map
    rw [hfirsts, List.map_map]
    exact h.ascending_plans.sublist ((firsts_sublist a.properties).map _)

/-! ## Methods -/

/-- No method of a property is named after an index. -/
theorem EntityOf.not_index_of_method (h : EntityOf s artifacts c a) (he : e ∈ a.properties)
    {name : String} (hname : name ∈ e.access.methods) : ¬ "index_".toList <+: name.toList := by
  obtain ⟨before, after, hplan⟩ := (planProperties_ok (planAccessor_ok h.planned).2).2 e he
  rw [methods_planProperty hplan] at hname
  obtain ⟨n, hn, rfl⟩ := List.mem_map.mp hname
  rintro ⟨rest, hrest⟩
  have htext : MethodName.text ⟨.index, String.ofList rest⟩ = n.text := by
    rw [← String.toList_inj, ← hrest, MethodName.text, String.toList_append, String.toList_ofList]
    rfl
  have hverb := (mem_methodNames hn).1
  rw [← MethodName.text_injective htext] at hverb
  exact hverb rfl

theorem EntityOf.not_startsWith (h : EntityOf s artifacts c a) (hf : a.IsOwn s f) :
    f.startsWith "index_" = false := by
  have hnone : ∀ {f : Member}, f.functionName? = none → f.startsWith "index_" = false := by
    intro f hf
    rw [Member.startsWith, hf]
    rfl
  have hsome : ∀ {f : Member} {name : String}, f.functionName? = some name →
      ¬ "index_".toList <+: name.toList → f.startsWith "index_" = false := by
    intro f name hf hname
    rw [Member.startsWith, hf, Option.any_some, Bool.eq_false_iff, Ne, List.isPrefixOf_iff_prefix]
    exact hname
  cases hf with
  | @constant e he hf =>
    unfold Accessor.constants at hf
    cases htype : e.typeConstant with
    | none =>
      rw [htype] at hf
      exact hnone (congrArg Member.functionName? (List.mem_singleton.mp hf))
    | some t =>
      rw [htype] at hf
      rcases List.mem_pair.mp hf with rfl | rfl
      · exact hnone rfl
      · exact hnone rfl
  | @access e he hf =>
    cases hname : f.functionName? with
    | none => exact hnone hname
    | some name =>
      refine hsome hname (h.not_index_of_method he ?_)
      rw [← Accessor.names_accessMethods s e]
      exact List.mem_filterMap.mpr ⟨f, hf, hname⟩
  | fixed hnamed _ =>
    cases f with
    | constant visibility name type value => exact hnone rfl
    | type name target => exact hnone rfl
    | function attributes visibility signature body =>
      refine hsome rfl ?_
      exact (by decide : ∀ name ∈ ["new", "node", "deref"], ¬ "index_".toList <+: name.toList) _
        (hnamed _ _ _ _ rfl)

theorem EntityOf.indexesGroups (h : EntityOf s artifacts c a) :
    IndexesGroups s (a.file s) (a.indexMethods.map (attributeGroup s a)) where
  methods := by
    rw [List.map_map]
    refine filter_members_file (fun f hf => h.not_startsWith hf) fun m hm => ?_
    have hname : (Accessor.indexMethod s m).functionName? =
        some ("index_" ++ m.group.index.spelledName) :=
      congrArg some (h.method_planned hm).2.2
    rw [Member.startsWith, hname, Option.any_some, List.isPrefixOf_iff_prefix, String.toList_append]
    exact List.prefix_append _ _
  reenters g hg := by
    obtain ⟨m, hm, rfl⟩ := List.mem_map.mp hg
    obtain ⟨hpath, hconstant, hname⟩ := h.method_planned hm
    have hreenters := reenters_indexMethod s m
    rw [hname] at hreenters
    refine ⟨m.facade, m.constant, m.group.members, hpath, hconstant, ?_, hreenters⟩
    rw [(grouped_indexGroups _).members _ (h.mem_groups hm), attributeGroup,
      List.forall₂_map_left_iff, List.forall₂_map_right_iff, List.forall₂_same]
    exact fun e he => h.constant (List.mem_filter.mp he).1

/-! ## Setters -/

/-- The setter of a plain attribute stores what it is given, and may call the method of
the group. -/
structure IsPlainSetter (s : Scope) (e : PropertyPlan) (p : PlainAccess) (f : Member) : Prop where
  named : f.IsMethod p.setter
  stores : (∀ x, p.cover = some x → x.method ≠ "set") →
    ∃ typeKey, f.callsOf "set" = [[.ofSelf e.constant, .ofSelf typeKey, .name "value"]]
  calls : ∀ name, name ≠ "node" → name ≠ "set" → f.callsOf name =
    if s.config.reindexOnWrite = true ∧ p.cover.map Cover.method = some name then [[]] else []

theorem plainMethods_eq (s : Scope) (e : PropertyPlan) (access : PlainAccess) :
    ∃ getter setter, Accessor.plainMethods s e access = [getter, setter] ∧
      (∀ name, name ≠ "node" → name ≠ "get" → getter.callsOf name = []) ∧
      IsPlainSetter s e access setter := by
  refine ⟨_, _, rfl, fun name hnode hget => ?_, ⟨⟨_, _, _, _, rfl, rfl⟩, fun hne => ?_,
    fun name hnode hset => ?_⟩⟩
  · simp [method, hnode.symm, hget.symm]
  · cases hcover : access.cover with
    | none => simp [method]
    | some x => cases s.config.reindexOnWrite <;> simp [method, hne x hcover]
  · cases hcover : access.cover with
    | none => simp [method, hnode.symm, hset.symm]
    | some x => cases s.config.reindexOnWrite <;> simp [method, hnode.symm, hset.symm]

theorem cover_of_plain {access : PlainAccess} (haccess : e.access = .plain access) :
    e.cover = access.cover := by
  rw [PropertyPlan.cover, haccess]

theorem mem_members_of_access (he : e ∈ a.properties) (hf : f ∈ Accessor.accessMethods s e) :
    f ∈ (a.file s).members := by
  have haccess : f ∈ a.properties.flatMap (Accessor.accessMethods s) :=
    List.mem_flatMap.mpr ⟨e, he, hf⟩
  simp only [Code.File.members, Accessor.file, List.flatMap_cons, List.nil_append, List.mem_append]
  exact .inl (.inl (.inr haccess))

theorem plain_of_cover {x : Cover} (hx : e.cover = some x) : ∃ access, e.access = .plain access := by
  unfold PropertyPlan.cover at hx
  split at hx
  · next access haccess => exact ⟨access, haccess⟩
  · exact nomatch hx

/-- The method of a cover is named after its index. -/
theorem EntityOf.method_of_cover (h : EntityOf s artifacts c a) (he : e ∈ a.properties) {x : Cover}
    (hx : e.cover = some x) : x.method = "index_" ++ x.index.spelledName :=
  Code.identifier?_verb (TaskVerb.isVerb_text .index) ((h.coversFirst he).method x hx)

theorem EntityOf.not_set_of_cover (h : EntityOf s artifacts c a) (he : e ∈ a.properties) {x : Cover}
    (hx : e.cover = some x) : x.method ≠ "set" := by
  intro heq
  have hprefix : "index_".toList <+: x.method.toList := by
    rw [h.method_of_cover he hx, String.toList_append]
    exact List.prefix_append _ _
  rw [heq] at hprefix
  exact absurd hprefix (by decide)

theorem EntityOf.isSetter (h : EntityOf s artifacts c a) (he : e ∈ a.properties)
    {access : PlainAccess} (haccess : e.access = .plain access)
    (hf : IsPlainSetter s e access f) : IsSetter e.property f := by
  refine ⟨e.constant, h.constant he, ?_, hf.stores fun x hx => ?_⟩
  · obtain ⟨before, after, hplan⟩ := (planProperties_ok (planAccessor_ok h.planned).2).2 e he
    have hmethods := methods_planProperty hplan
    rw [PropertyPlan.methodNames, haccess] at hmethods
    have hsetter : access.setter = "set_" ++ e.property.spelledName :=
      (List.cons.inj (List.cons.inj hmethods).2).1
    rw [← hsetter]
    exact hf.named
  · exact h.not_set_of_cover he ((cover_of_plain haccess).trans hx)

/-- What neither the runtime nor other ends are called for is called by plain attributes
alone. -/
theorem EntityOf.plain_of_calls (h : EntityOf s artifacts c a) {name : String}
    (hruntime : ∀ n ∈ "new" :: "node" :: learnedCalls ++ relationCalls ++ indexCalls, n ≠ name)
    (hinternal : ¬ "internal_".toList <+: name.toList) (hf : f ∈ (a.file s).members)
    (hcalls : f.callsOf name ≠ []) :
    ∃ e ∈ a.properties, ∃ access, e.access = .plain access ∧
      f ∈ Accessor.plainMethods s e access := by
  simp only [List.cons_append, List.forall_mem_cons, List.forall_mem_append] at hruntime
  obtain ⟨hnew, hnode, ⟨hlearned, hrelation⟩, hindex⟩ := hruntime
  rcases isOwn_or_index hf with hown | ⟨m, -, rfl⟩
  · cases hown with
    | constant _ hf => exact absurd (collect_constants hf) hcalls
    | fixed _ hfixed =>
      exact absurd (hfixed _ (passes_callsTo hnew) (passes_callsTo hnode)) hcalls
    | @access e he hf =>
      unfold Accessor.accessMethods at hf
      cases haccess : e.access with
      | none =>
        rw [haccess] at hf
        exact absurd hf List.not_mem_nil
      | plain access =>
        rw [haccess] at hf
        exact ⟨e, he, access, haccess, hf⟩
      | learned access =>
        rw [haccess] at hf
        exact absurd (collect_learnedMethods (passes_all hlearned) hf) hcalls
      | relation r =>
        rw [haccess] at hf
        have hother : name ∉ e.called := by
          intro hcalled
          rcases h.called_cases he hcalled with ⟨x, hx, -, -⟩ | hprefix
          · rw [PropertyPlan.cover, haccess] at hx
            cases hx
          · exact hinternal hprefix
        refine absurd (collect_relationMethods (passes_all hrelation) (fun calls hr =>
          ⟨passes_callsTo fun heq => hother ?_, passes_callsTo fun heq => hother ?_⟩) hf) hcalls
        · simp [PropertyPlan.called, haccess, hr, heq]
        · simp [PropertyPlan.called, haccess, hr, heq]
  · exact absurd (collect_indexMethod (passes_all hindex) m) hcalls

/-- No two properties of an accessor have the same constant. -/
theorem EntityOf.nodup_constants (h : EntityOf s artifacts c a) :
    (a.properties.map PropertyPlan.constant).Nodup := by
  have hall := planProperties_declare (planAccessor_ok h.planned).2 (List.nodup_singleton _)
  refine (List.nodup_append.mp hall).2.1.sublist ?_
  rw [List.map_eq_flatMap]
  exact List.Sublist.flatMap_right _ fun e _ => (List.nil_sublist _).cons_cons _

theorem EntityOf.constant_injective (h : EntityOf s artifacts c a) {e' : PropertyPlan}
    (he : e ∈ a.properties) (he' : e' ∈ a.properties) (heq : e.constant = e'.constant) :
    e = e' :=
  List.inj_on_of_nodup_map h.nodup_constants he he' heq

theorem eq_of_ofSelf {n n' : String} (h : Code.Expr.ofSelf n = .ofSelf n') : n = n' := by
  simpa [Code.Expr.ofSelf, Code.Expr.names, Code.Path.ofNames] using h

/-- What stores an attribute is the setter that its entry gave rise to. -/
theorem EntityOf.isPlainSetter (h : EntityOf s artifacts c a) (he : e ∈ a.properties)
    (hf : f ∈ (a.file s).members) (hset : IsSetter e.property f) :
    ∃ access, e.access = .plain access ∧ IsPlainSetter s e access f := by
  obtain ⟨key, hkey, -, typeKey, hstores⟩ := hset
  have hcalls : f.callsOf "set" ≠ [] := by
    rw [hstores]
    exact List.cons_ne_nil _ _
  obtain ⟨e', he', access, haccess, hf⟩ := h.plain_of_calls (by decide) (by decide) hf hcalls
  obtain ⟨getter, setter, hmethods, hgetter, hsetter⟩ := plainMethods_eq s e' access
  rw [hmethods] at hf
  rcases List.mem_pair.mp hf with rfl | rfl
  · exact absurd (hgetter _ (by decide) (by decide)) hcalls
  · -- the constant tells whose setter it is
    obtain ⟨typeKey', hown⟩ := hsetter.stores fun x hx =>
      h.not_set_of_cover he' ((cover_of_plain haccess).trans hx)
    rw [hstores] at hown
    have hconstant : key = e'.constant := eq_of_ofSelf (List.cons.inj (List.cons.inj hown).1).1
    have hsame : e.constant = e'.constant :=
      Option.some.inj ((h.constant he).symm.trans (hkey.trans (congrArg some hconstant)))
    obtain rfl := h.constant_injective he he' hsame
    exact ⟨access, haccess, hsetter⟩

theorem not_internal_of_index {name : String} (h : "index_".toList <+: name.toList) :
    ¬ "internal_".toList <+: name.toList := by
  intro hinternal
  rcases List.prefix_or_prefix_of_prefix h hinternal with hstart | hstart
  · exact absurd hstart (by decide)
  · exact absurd hstart (by decide)

theorem index_start (name : String) : "index_".toList <+: ("index_" ++ name).toList := by
  rw [String.toList_append]
  exact List.prefix_append _ _

theorem ne_of_index_start {name other : String} (h : "index_".toList <+: name.toList)
    (hother : ¬ "index_".toList <+: other.toList) : name ≠ other := by
  rintro rfl
  exact hother h

theorem EntityOf.refreshesGroups (h : EntityOf s artifacts c a) (hws : Model.Holds s.model ws) :
    RefreshesGroups s (a.file s) (a.indexMethods.map (attributeGroup s a)) where
  exists_setter g hg p hp := by
    obtain ⟨m, hm, rfl⟩ := List.mem_map.mp hg
    obtain ⟨e, he, rfl, hindex⟩ := (h.mem_attributes hws hm).mp hp
    obtain ⟨x, hx, -⟩ := Option.map_eq_some_iff.mp hindex
    obtain ⟨access, haccess⟩ := plain_of_cover hx
    obtain ⟨getter, setter, hmethods, -, hsetter⟩ := plainMethods_eq s e access
    refine ⟨setter, mem_members_of_access he ?_, h.isSetter he haccess hsetter⟩
    rw [Accessor.accessMethods, haccess]
    show setter ∈ Accessor.plainMethods s e access
    rw [hmethods]
    exact List.mem_pair.mpr (.inr rfl)
  refreshes g hg p hp f hf hset := by
    obtain ⟨m, hm, rfl⟩ := List.mem_map.mp hg
    obtain ⟨e, he, rfl, hindex⟩ := (h.mem_attributes hws hm).mp hp
    obtain ⟨x, hx, hsame⟩ := Option.map_eq_some_iff.mp hindex
    obtain ⟨access, haccess, hsetter⟩ := h.isPlainSetter he hf hset
    have hmethod : access.cover.map Cover.method =
        some ("index_" ++ (attributeGroup s a m).index.spelledName) := by
      rw [← cover_of_plain haccess, hx, Option.map_some, h.method_of_cover he hx, hsame]
      rfl
    have hprefix := index_start (attributeGroup s a m).index.spelledName
    rw [hsetter.calls _ (ne_of_index_start hprefix (by decide))
      (ne_of_index_start hprefix (by decide)), hmethod]
    cases s.config.reindexOnWrite <;> simp
  no_other f hf name hname hcalls := by
    have hruntime : ∀ n ∈ "new" :: "node" :: learnedCalls ++ relationCalls ++ indexCalls,
        ¬ "index_".toList <+: n.toList := by decide
    obtain ⟨e, he, access, haccess, hf⟩ := h.plain_of_calls
      (fun n hn => (ne_of_index_start hname (hruntime n hn)).symm) (not_internal_of_index hname) hf
      hcalls
    obtain ⟨getter, setter, hmethods, hgetter, hsetter⟩ := plainMethods_eq s e access
    have hnode : name ≠ "node" := ne_of_index_start hname (by decide)
    rw [hmethods] at hf
    rcases List.mem_pair.mp hf with rfl | rfl
    · exact absurd (hgetter name hnode (ne_of_index_start hname (by decide))) hcalls
    · rw [hsetter.calls name hnode (ne_of_index_start hname (by decide))] at hcalls
      split at hcalls
      · next hrefresh =>
        obtain ⟨x, hx, rfl⟩ := Option.map_eq_some_iff.mp hrefresh.2
        have hcover := (cover_of_plain haccess).trans hx
        obtain ⟨m, hm, hindex, hgroup⟩ := h.exists_group hws he hcover
        refine ⟨hrefresh.1, attributeGroup s a m, List.mem_map_of_mem hm, e.property, hgroup,
          h.isSetter he haccess hsetter, ?_⟩
        rw [h.method_of_cover he hcover, ← hindex]
        rfl
      · exact absurd rfl hcalls

end Scope

variable {config : Config} {s : Scope} {c : Schema.Class} {x : Artifact}

/-- Whenever an accessor can be made for a class, the plain attributes of the class that
some index covers are partitioned into groups, each group has its one method, and the
setters of just these attributes refresh their groups, if that is asked for. -/
theorem attribute_groups_partition (rs : List Schema.Registration)
    (hs : Scope.of (Model.empty.run rs) config = .ok s)
    (hx : (s.entityArtifact c).outcome = .ok x) :
    ∃ a groups, (s.planAccessor c).outcome = .ok a ∧ x.body = (a.file s).text ∧
      Partitions s.model (Model.empty.writes rs) c groups ∧ IndexesGroups s (a.file s) groups ∧
      RefreshesGroups s (a.file s) groups := by
  have hmodel := (Scope.of_eq_ok hs).1
  have hws := Model.holds_run Model.holds_empty rs
  rw [← hmodel] at hws
  obtain ⟨a, ha, rfl⟩ := Scope.entityArtifact_ok hx
  have h : Scope.EntityOf s _ c a := ⟨ha, List.mem_singleton.mpr rfl⟩
  exact ⟨a, _, ha, by dsimp only, h.partitions hws, h.indexesGroups, h.refreshesGroups hws⟩

/-- Emails are left to the index registered first, and their setter refreshes it. -/
theorem contacts_refresh :
    ∃ s a groups, Scope.of (Model.empty.run contacts) { reindexOnWrite := true } = .ok s ∧
      (s.planAccessor person).outcome = .ok a ∧
      Partitions s.model (Model.empty.writes contacts) person groups ∧
      ∃ g ∈ groups, g.index.fqn = "s.byEmail" ∧
        ∃ f ∈ (a.file s).members, f.callsOf "index_by_email" = [[]] := by
  have hrun : (Scope.of (Model.empty.run contacts) { reindexOnWrite := true } >>= fun s =>
      (s.entityArtifact person).outcome).isOk = true := by decide +kernel
  have hfirst : (Model.firstOver (Model.empty.writes contacts) person.fqn "email").map
      (fun i => (i.fqn, i.spelledName)) = some ("s.byEmail", "by_email") := by decide +kernel
  have hindexed : ∃ p ∈ person.properties, p.name = "email" ∧ p.isPlain = true ∧
      ∃ i ∈ (Model.empty.run contacts).indexes, i.className = person.fqn ∧
        "email" ∈ i.properties := by decide +kernel
  obtain ⟨x, hx⟩ := exists_ok_of_isOk hrun
  obtain ⟨s, hs, hx⟩ := bind_eq_ok.mp hx
  obtain ⟨hmodel, hconfig⟩ := Scope.of_eq_ok hs
  obtain ⟨a, groups, ha, -, hpartitions, -, hrefresh⟩ := attribute_groups_partition contacts hs hx
  obtain ⟨p, hp, hname, hplain, i, hi, hclass, hmember⟩ := hindexed
  obtain ⟨g, ⟨hg, hgroup⟩, -⟩ := hpartitions.covered p hp hplain i (hmodel ▸ hi) hclass
    (hname ▸ hmember)
  have hover := ((hpartitions.mem_iff g hg p).mp hgroup).2.2
  rw [hname] at hover
  rw [hover] at hfirst
  obtain ⟨hfqn, hspelled⟩ := Prod.mk.inj (Option.some.inj hfirst)
  obtain ⟨f, hf, hset⟩ := hrefresh.exists_setter g hg p hgroup
  have hcalls := hrefresh.refreshes g hg p hgroup f hf hset
  rw [hspelled, hconfig] at hcalls
  exact ⟨s, a, groups, hs, ha, hpartitions, g, hg, hfqn, f, hf, hcalls⟩

end Generate
end TypedGraph
