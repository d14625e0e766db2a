/-
Attributes grouped under indexes.

An accessor leaves an attribute to the first index over it (`CoversFirst`).  The
groups that it makes of its attributes, one by one, have a group for each index
that some attribute was left to, with all such attributes in their order
(`Grouped`).
-/
import Mathlib.Data.List.Induction
import Mathlib.Data.List.Nodup
import TypedGraph.Proofs.CallSites

namespace TypedGraph

/-- An attribute that the node itself stores. -/
def Schema.Property.isPlain (p : Property) : Bool :=
  p.isAttribute && p.isStored && p.algorithm.isNone

namespace Generate

open Schema (Index Model Property)

/-! ## Groups -/

/-- The attributes of a list of entries that an index covers first. -/
def coveredBy (plans : List PropertyPlan) (fqn : String) : List PropertyPlan :=
  plans.filter fun e => e.cover.map (·.index.fqn) == some fqn

/-- There is one group for each index that covers an entry first, and it has the
constants of all entries that the index covers first. -/
structure Grouped (groups : List IndexGroup) (plans : List PropertyPlan) : Prop where
  distinct : (groups.map (·.index.fqn)).Nodup
  members : ∀ g ∈ groups, g.members = (coveredBy plans g.index.fqn).map (·.constant)
  covers : ∀ g ∈ groups, ∃ e ∈ plans, e.cover = some ⟨g.index, g.method⟩
  complete : ∀ e ∈ plans, ∀ cover, e.cover = some cover →
    cover.index.fqn ∈ groups.map (·.index.fqn)

variable {groups : List IndexGroup} {plans : List PropertyPlan} {e : PropertyPlan} {cover : Cover}

theorem fqns_joinGroup (cover : Cover) (constant : String) (groups : List IndexGroup) :
    (joinGroup cover constant groups).map (·.index.fqn) =
      if cover.index.fqn ∈ groups.map (·.index.fqn) then groups.map (·.index.fqn)
      else groups.map (·.index.fqn) ++ [cover.index.fqn] := by
  induction groups with
  | nil => rfl
  | cons g rest ih =>
    rw [joinGroup]
    by_cases hg : g.index.fqn = cover.index.fqn
    · simp [hg]
    · rw [if_neg hg, List.map_cons, ih]
      by_cases hrest : cover.index.fqn ∈ rest.map (·.index.fqn)
      · have hcons : cover.index.fqn ∈ (g :: rest).map (·.index.fqn) :=
          List.mem_cons_of_mem _ hrest
        rw [if_pos hrest, if_pos hcons]
        rfl
      · have hcons : cover.index.fqn ∉ (g :: rest).map (·.index.fqn) := by
          rw [List.map_cons, List.mem_cons, not_or]
          exact ⟨Ne.symm hg, hrest⟩
        rw [if_neg hrest, if_neg hcons]
        rfl

/-- A group is one that was there, perhaps with one member more, or it is new. -/
theorem mem_joinGroup {constant : String} {g : IndexGroup}
    (hdistinct : (groups.map (·.index.fqn)).Nodup) (h : g ∈ joinGroup cover constant groups) :
    (g ∈ groups ∧ g.index.fqn ≠ cover.index.fqn) ∨
    (∃ old ∈ groups, old.index.fqn = cover.index.fqn ∧
      g = { old with members := old.members ++ [constant] }) ∨
    (cover.index.fqn ∉ groups.map (·.index.fqn) ∧
      g = { index := cover.index, method := cover.method, members := [constant] }) := by
  induction groups with
  | nil => exact .inr (.inr ⟨List.not_mem_nil, List.mem_singleton.mp h⟩)
  | cons old rest ih =>
    rw [List.map_cons, List.nodup_cons] at hdistinct
    rw [joinGroup] at h
    by_cases hold : old.index.fqn = cover.index.fqn
    · rw [if_pos hold] at h
      rcases List.mem_cons.mp h with rfl | hg
      · exact .inr (.inl ⟨old, List.mem_cons_self, hold, rfl⟩)
      · have hne : g.index.fqn ≠ cover.index.fqn := fun heq => hdistinct.1 <| by
          rw [hold, ← heq]
          exact List.mem_map_of_mem hg
        exact .inl ⟨List.mem_cons_of_mem _ hg, hne⟩
    · rw [if_neg hold] at h
      rcases List.mem_cons.mp h with rfl | hg
      · exact .inl ⟨List.mem_cons_self, hold⟩
      · rcases ih hdistinct.2 hg with ⟨hg, hne⟩ | ⟨g', hg', heq, rfl⟩ | ⟨hnew, rfl⟩
        · exact .inl ⟨List.mem_cons_of_mem _ hg, hne⟩
        · exact .inr (.inl ⟨g', List.mem_cons_of_mem _ hg', heq, rfl⟩)
        · refine .inr (.inr ⟨fun hmem => ?_, rfl⟩)
          rcases List.mem_cons.mp hmem with heq | hmem
          · exact hold heq.symm
          · exact hnew hmem

theorem coveredBy_concat (plans : List PropertyPlan) (e : PropertyPlan) (fqn : String) :
    coveredBy (plans ++ [e]) fqn =
      if e.cover.map (·.index.fqn) = some fqn then coveredBy plans fqn ++ [e]
      else coveredBy plans fqn := by
  rw [coveredBy, List.filter_append]
  by_cases he : e.cover.map (·.index.fqn) = some fqn
  · rw [if_pos he, List.filter_cons_of_pos (by simpa using he)]
    rfl
  · rw [if_neg he, List.filter_cons_of_neg (by simpa using he), List.filter_nil, List.append_nil]
    rfl

namespace Grouped

theorem coveredBy_eq_nil (h : Grouped groups plans) {fqn : String}
    (hfqn : fqn ∉ groups.map (·.index.fqn)) : coveredBy plans fqn = [] := by
  rw [coveredBy, List.filter_eq_nil_iff]
  intro e he hcover
  obtain ⟨cover, he', rfl⟩ := Option.map_eq_some_iff.mp (beq_iff_eq.mp hcover)
  exact hfqn (h.complete e he cover he')

theorem skip (h : Grouped groups plans) (he : e.cover = none) : Grouped groups (plans ++ [e]) where
  distinct := h.distinct
  members g hg := by
    rw [h.members g hg, coveredBy_concat, he, if_neg (by simp)]
  covers g hg := by
    obtain ⟨d, hd, hcover⟩ := h.covers g hg
    exact ⟨d, List.mem_append_left _ hd, hcover⟩
  complete d hd cover hcover := by
    rcases List.mem_append.mp hd with hd | hd
    · exact h.complete d hd cover hcover
    · rw [List.mem_singleton.mp hd, he] at hcover
      exact nomatch hcover

theorem join (h : Grouped groups plans) (he : e.cover = some cover) :
    Grouped (joinGroup cover e.constant groups) (plans ++ [e]) where
  distinct := by
    rw [fqns_joinGroup]
    by_cases hmem : cover.index.fqn ∈ groups.map (·.index.fqn)
    · rw [if_pos hmem]
      exact h.distinct
    · rw [if_neg hmem, List.nodup_append]
      refine ⟨h.distinct, List.nodup_singleton _, fun a ha b hb hab => hmem ?_⟩
      rw [← List.mem_singleton.mp hb, ← hab]
      exact ha
  members g hg := by
    have hlast : ∀ fqn, e.cover.map (·.index.fqn) = some fqn ↔ cover.index.fqn = fqn := by
      intro fqn
      rw [he, Option.map_some, Option.some.injEq]
    rw [coveredBy_concat]
    rcases mem_joinGroup h.distinct hg with ⟨hg, hne⟩ | ⟨old, hold, heq, rfl⟩ | ⟨hnew, rfl⟩
    · rw [if_neg fun h => hne ((hlast _).mp h).symm, h.members g hg]
    · rw [if_pos ((hlast _).mpr heq.symm), List.map_append, ← h.members old hold]
      rfl
    · rw [if_pos ((hlast _).mpr rfl), h.coveredBy_eq_nil hnew]
      rfl
  covers g hg := by
    rcases mem_joinGroup h.distinct hg with ⟨hg, -⟩ | ⟨old, hold, -, rfl⟩ | ⟨-, rfl⟩
    · obtain ⟨d, hd, hcover⟩ := h.covers g hg
      exact ⟨d, List.mem_append_left _ hd, hcover⟩
    · obtain ⟨d, hd, hcover⟩ := h.covers old hold
      exact ⟨d, List.mem_append_left _ hd, hcover⟩
    · exact ⟨e, List.mem_append_right _ (List.mem_singleton.mpr rfl), he⟩
  complete d hd other hcover := by
    rw [fqns_joinGroup]
    rcases List.mem_append.mp hd with hd | hd
    · have hmem := h.complete d hd other hcover
      split
      · exact hmem
      · exact List.mem_append_left _ hmem
    · rw [List.mem_singleton.mp hd, he] at hcover
      rw [← Option.some.inj hcover]
      split
      · assumption
      · exact List.mem_append_right _ (List.mem_singleton.mpr rfl)

end Grouped

theorem grouped_indexGroups (plans : List PropertyPlan) : Grouped (indexGroups plans) plans := by
  -- Groups are made from the left, hence the last entry is taken off.
  induction plans using List.reverseRecOn with
  | nil => exact ⟨List.nodup_nil, by simp [indexGroups], by simp [indexGroups], by simp⟩
  | append_singleton plans e ih =>
    rw [indexGroups, List.foldl_append, ← indexGroups]
    cases he : e.cover with
    | none =>
      simp only [List.foldl_cons, List.foldl_nil, he]
      exact ih.skip he
    | some cover =>
      simp only [List.foldl_cons, List.foldl_nil, he]
      exact ih.join he

/-! ## Entries -/

theorem prefix_of_verb {verb text name : String} (hverb : Code.isVerb verb = true)
    (h : Code.identifier? (verb ++ text) = some name) : verb.toList <+: name.toList := by
  rw [Code.identifier?_verb hverb h, String.toList_append]
  exact List.prefix_append _ _

theorem prefix_helperNames {relation : String} {calls : OppositeCalls}
    (h : helperNames? relation = some calls) :
    "internal_".toList <+: calls.add.toList ∧ "internal_".toList <+: calls.remove.toList := by
  simp only [helperNames?, Option.bind_eq_bind, Option.bind_eq_some_iff] at h
  obtain ⟨add, hadd, remove, hremove, h⟩ := h
  have hverbs : Code.isVerb "internal_add_to_" = true ∧
      Code.isVerb "internal_remove_from_" = true := by decide
  have hinternal : "internal_".toList <+: "internal_add_to_".toList ∧
      "internal_".toList <+: "internal_remove_from_".toList := by decide
  rw [← Option.some.inj h]
  exact ⟨hinternal.1.trans (prefix_of_verb hverbs.1 hadd),
    hinternal.2.trans (prefix_of_verb hverbs.2 hremove)⟩

/-- The cover of an entry is the first index over a plain attribute. -/
structure CoversFirst (m : Model) (c : Schema.Class) (e : PropertyPlan) : Prop where
  index : e.cover.map Cover.index =
    if e.property.isPlain then (m.indexesOf c.fqn e.property.name).head? else none
  method : ∀ x, e.cover = some x →
    Code.identifier? (methodName "index" x.index.name) = some x.method

namespace Scope

variable {s : Scope} {c : Schema.Class} {p : Property} {declared declared' : List String}

theorem coversFirst_of_not_plain (hplain : e.property.isPlain = false) (hcover : e.cover = none) :
    CoversFirst s.model c e where
  index := by
    rw [hplain, hcover]
    rfl
  method x hx := by
    rw [hcover] at hx
    exact absurd hx.symm (Option.some_ne_none x)

theorem coversFirst_planProperty (h : (s.planProperty c declared p).outcome = .ok (e, declared')) :
    CoversFirst s.model c e := by
  obtain ⟨rfl, -, ⟨hattribute, haccess⟩ | hrelation⟩ := planProperty_cases h
  · rcases planAttribute_cases haccess with ⟨hstored, haccess⟩ | ⟨-, halgorithm, a, haccess⟩ |
      ⟨hstored, halgorithm, a, haccess, hcover⟩
    · have hplain : e.property.isPlain = false := by simp [Property.isPlain, hstored]
      exact coversFirst_of_not_plain hplain (by rw [PropertyPlan.cover, haccess])
    · have hplain : e.property.isPlain = false := by
        obtain ⟨algorithm, halgorithm⟩ := Option.isSome_iff_exists.mp halgorithm
        simp [Property.isPlain, halgorithm]
      exact coversFirst_of_not_plain hplain (by rw [PropertyPlan.cover, haccess])
    · have hplain : e.property.isPlain = true := by
        simp [Property.isPlain, hattribute, hstored, halgorithm]
      have he : e.cover = a.cover := by rw [PropertyPlan.cover, haccess]
      obtain ⟨hindex, hmethod⟩ := cover_ok hcover
      constructor
      · rw [he, hindex, hplain]
        rfl
      · rw [he]
        exact hmethod
  · have hkind : e.property.isRelation = true := by
      rcases hrelation with ⟨hkind, -⟩ | ⟨hkind, -⟩
      · exact hkind
      · exact hkind
    have hplain : e.property.isPlain = false := by
      rw [Property.isRelation, beq_iff_eq] at hkind
      simp [Property.isPlain, Property.isAttribute, hkind]
    refine coversFirst_of_not_plain hplain ?_
    rcases hrelation with ⟨-, -, haccess⟩ | ⟨-, -, haccess⟩
    · rw [PropertyPlan.cover, haccess]
    · rcases planRelation_ok haccess with ⟨_, -, haccess⟩ | ⟨r, haccess, -⟩
      · rw [PropertyPlan.cover, haccess]
      · rw [PropertyPlan.cover, haccess]

/-- The methods of a property call the method of its cover, or the internal mutators
of another end. -/
theorem called_planProperty (h : (s.planProperty c declared p).outcome = .ok (e, declared'))
    {name : String} (hname : name ∈ e.called) :
    (∃ x, e.cover = some x ∧ x.method = name ∧ "index_".toList <+: name.toList) ∨
      "internal_".toList <+: name.toList := by
  unfold PropertyPlan.called at hname
  match haccess : e.access with
  | .none =>
    rw [haccess] at hname
    exact absurd hname List.not_mem_nil
  | .learned a =>
    rw [haccess] at hname
    exact absurd hname List.not_mem_nil
  | .plain a =>
    rw [haccess] at hname
    have he : e.cover = a.cover := by rw [PropertyPlan.cover, haccess]
    obtain ⟨x, hx, rfl⟩ := Option.map_eq_some_iff.mp (Option.mem_toList.mp hname)
    have hmethod := (coversFirst_planProperty h).method x (he.trans hx)
    have hverb : Code.isVerb "index_" = true := by decide
    exact .inl ⟨x, he.trans hx, rfl, prefix_of_verb hverb hmethod⟩
  | .relation r =>
    obtain ⟨-, hplan, hkind⟩ := planProperty_ok h
    obtain ⟨hrelation, hstored⟩ := hkind r haccess
    have hplan := hplan hrelation hstored
    rw [haccess] at hplan hname
    rcases planRelation_ok hplan with ⟨_, -, hnone⟩ | ⟨r', hr, -, -, hopposite, -⟩
    · exact nomatch hnone
    · cases hr
      cases hcalls : r.opposite with
      | none => simp [hcalls] at hname
      | some calls =>
        rw [hcalls] at hopposite
        obtain ⟨opposite, -, hnames⟩ := oppositeCalls_ok hopposite
        obtain ⟨hadd, hremove⟩ := prefix_helperNames hnames
        simp only [hcalls, Option.map_some, Option.getD_some] at hname
        rcases List.mem_pair.mp hname with rfl | rfl
        · exact .inr hadd
        · exact .inr hremove

end Scope

end Generate
end TypedGraph
