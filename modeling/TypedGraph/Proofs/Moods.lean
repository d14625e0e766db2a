/-
Moods and their learners.

A mood is kept by a learner, which the first write of the mood makes, sets up
and relates to its owner, and which all later writes find again.  `Learned` ties
the moods of a graph to the calls of its past: who has not written a mood has no
learner, who has has one of its own, and that holds what was written last.
-/
import TypedGraph.Proofs.Calls

namespace TypedGraph
namespace Sample

open Nodes (Learner.nodeName Learner.valueKey Node Store Value)

variable {g : Nodes.Graph} {n : Node} {past : List Call}

/-! ## Calls that write no mood -/

namespace Call

/-- Whether a call writes a mood. -/
def learns : Call → Bool
  | .set _ .mood _ => true
  | _ => false

variable {c : Call}

theorem learns_set {a : Attribute} {value : a.kind.type} (h : (Call.set n a value).learns = false) :
    a ≠ .mood := by
  rintro rfl
  cases h

theorem writes?_mood (h : c.learns = false) (i : Int) : c.writes? i .mood = none := by
  cases c with
  | set n a value => exact if_neg fun hset => learns_set h hset.2
  | _ => rfl

theorem key_mood_not_mem_relations (h : c.learns = false) : Mood.key ∉ c.relations := by
  have hkey : ∀ r : Relation, Mood.key ∉ [r.key, r.opposite.key] := by
    intro r
    cases r <;> decide
  cases c with
  | set n a value =>
    cases a with
    | mood => cases h
    | _ => exact List.not_mem_nil
  | addTo n r other => exact hkey r
  | removeFrom n r other => exact hkey r
  | _ => exact List.not_mem_nil

theorem learnerKeys_disjoint_attributes (h : c.learns = false) {a : String}
    (ha : a ∈ Mood.learnerKeys) : a ∉ c.attributes := by
  cases c with
  | set n b value =>
    rw [attributes_set (learns_set h), List.mem_singleton]
    exact fun he => b.key_not_mem_learnerKeys (he ▸ ha)
  | _ => exact List.not_mem_nil

end Call

/-! ## Learners -/

/-- A node is a learner, set up, that learned a value last. -/
structure IsLearner (g : Nodes.Graph) (learner : Int) (value : Value) : Prop where
  type : g.store.typeOf? learner = some Learner.nodeName
  parameters : ∀ p ∈ Mood.parameters, g.store.attribute? learner p.1 = some p.2
  value : g.store.attribute? learner Learner.valueKey = some value

namespace IsLearner

variable {after : Nodes.Graph} {learner : Int} {value : Value}

theorem contains (h : IsLearner g learner value) : g.store.contains learner := by
  rw [Store.contains_eq, h.type]
  rfl

theorem lookup (h : IsLearner g learner value) (hg : Regular g) (world time : Int) :
    g.lookup world time learner = some ⟨world, time, learner, .learner⟩ := by
  rw [Nodes.Graph.lookup, h.type, ← hg.learner]
  rfl

/-- It stays one where neither its type nor its attributes change. -/
theorem of_eq (h : IsLearner g learner value)
    (htype : after.store.typeOf? learner = g.store.typeOf? learner)
    (hattributes : ∀ a ∈ Mood.learnerKeys,
      after.store.attribute? learner a = g.store.attribute? learner a) :
    IsLearner after learner value := by
  refine ⟨htype.trans h.type, fun p hp => ?_, ?_⟩
  · rw [hattributes p.1 (List.mem_cons_of_mem _ (List.mem_map_of_mem hp))]
    exact h.parameters p hp
  · rw [hattributes _ List.mem_cons_self]
    exact h.value

/-- It is one as soon as it learns something after it was set up. -/
theorem of_learn {s : Store} (hstore : after.store = s.setAttribute learner Learner.valueKey value)
    (htype : s.typeOf? learner = some Learner.nodeName)
    (hparameters : ∀ p ∈ Mood.parameters, s.attribute? learner p.1 = some p.2) :
    IsLearner after learner value := by
  have hcontains : s.contains learner := by
    rw [Store.contains_eq, htype]
    rfl
  have hkey : ∀ p ∈ Mood.parameters, p.1 ≠ Learner.valueKey := by decide
  refine ⟨?_, fun p hp => ?_, ?_⟩
  · rw [hstore, Store.typeOf?_setAttribute, htype]
  · rw [hstore, Store.attribute?_setAttribute, if_neg fun h => hkey p hp h.2.1]
    exact hparameters p hp
  · rw [hstore, Store.attribute?_setAttribute, if_pos ⟨rfl, rfl, hcontains⟩]

end IsLearner

/-- What the past wrote is what the learners have learned. -/
structure Learned (past : List Call) (g : Nodes.Graph) : Prop where
  unwritten : ∀ id, written? id .mood past = none → g.store.targets id Mood.key = []
  written : ∀ id value, written? id .mood past = some value →
    ∃ learner, g.store.targets id Mood.key = [learner] ∧ IsLearner g learner value
  distinct : ∀ a b learner, learner ∈ g.store.targets a Mood.key →
    learner ∈ g.store.targets b Mood.key → a = b

namespace Learned

theorem contains (h : Learned past g) {id learner : Int}
    (hmem : learner ∈ g.store.targets id Mood.key) : g.store.contains learner := by
  cases hw : written? id .mood past with
  | none =>
    rw [h.unwritten id hw] at hmem
    exact absurd hmem List.not_mem_nil
  | some value =>
    obtain ⟨l, hl, hlearner⟩ := h.written id value hw
    rw [hl, List.mem_singleton] at hmem
    rw [hmem]
    exact hlearner.contains

/-! ### What an owner finds -/

theorem learner?_of_unwritten (h : Learned past g) (hw : written? n.id .mood past = none) :
    Mood.learner? g n = none := by
  rw [Mood.learner?, Nodes.Graph.related, h.unwritten n.id hw]
  rfl

theorem learner?_of_written (hg : Regular g) {learner : Int} {value : Value}
    (htargets : g.store.targets n.id Mood.key = [learner]) (hl : IsLearner g learner value) :
    Mood.learner? g n = some ⟨n.world, n.time, learner, .learner⟩ := by
  rw [Mood.learner?, Nodes.Graph.related, htargets,
    List.filterMap_cons_some (hl.lookup hg n.world n.time)]
  rfl

/-! ### Calls -/

theorem of_not_learns (h : Learned past g) (hg : Regular g) {c : Call} (hreaches : c.Reaches g)
    (hc : c.learns = false) : Learned (c :: past) (c.perform g) := by
  have hwritten : ∀ id, written? id .mood (c :: past) = written? id .mood past := by
    intro id
    rw [written?, List.findSome?_cons, Call.writes?_mood hc]
    rfl
  have htargets := Call.targets_perform hg hreaches (Call.key_mood_not_mem_relations hc)
  refine ⟨fun id hw => ?_, fun id value hw => ?_, fun a b learner ha hb => ?_⟩
  · rw [htargets]
    exact h.unwritten id ((hwritten id).symm.trans hw)
  · obtain ⟨learner, hl, hlearner⟩ := h.written id value ((hwritten id).symm.trans hw)
    refine ⟨learner, (htargets id).trans hl, hlearner.of_eq ?_ fun a ha => ?_⟩
    · exact (Call.typeOf?_perform_of_stored hg c hlearner.type).trans hlearner.type.symm
    · have hkey := Call.learnerKeys_disjoint_attributes hc ha
      exact Call.attribute?_perform_of_not_mem hg hkey learner
  · rw [htargets] at ha hb
    exact h.distinct a b learner ha hb

variable {value : Number.Double}

theorem written?_set_mood (id : Int) :
    written? id .mood (.set n .mood value :: past) =
      if n.id = id then some (.double value) else written? id .mood past := by
  have hcall : (Call.set n .mood value).writes? id .mood =
      if n.id = id ∧ Attribute.mood = .mood then some (.double value) else none := rfl
  rw [written?, List.findSome?_cons, hcall]
  by_cases hid : n.id = id
  · rw [if_pos ⟨hid, rfl⟩, if_pos hid]
  · rw [if_neg fun h => hid h.1, if_neg hid]
    rfl

/-- A write leaves its node with one learner, which no other node has, and the
other learners as they were. -/
theorem of_set (h : Learned past g) {after : Nodes.Graph} {l : Int}
    (hown : after.store.targets n.id Mood.key = [l])
    (htargets : ∀ id, id ≠ n.id →
      after.store.targets id Mood.key = g.store.targets id Mood.key)
    (hapart : ∀ id, id ≠ n.id → l ∉ g.store.targets id Mood.key)
    (hlearner : IsLearner after l (.double value))
    (hothers : ∀ other v, other ≠ l → IsLearner g other v → IsLearner after other v) :
    Learned (.set n .mood value :: past) after := by
  refine ⟨fun id hid => ?_, fun id v hid => ?_, fun a b learner ha hb => ?_⟩
  · rw [written?_set_mood] at hid
    split at hid
    · cases hid
    · next hne =>
      rw [htargets id (Ne.symm hne)]
      exact h.unwritten id hid
  · rw [written?_set_mood] at hid
    split at hid
    · next he =>
      cases hid
      exact ⟨l, he ▸ hown, hlearner⟩
    · next hne =>
      obtain ⟨other, hlist, hother⟩ := h.written id v hid
      have hne' : other ≠ l := by
        rintro rfl
        exact hapart id (Ne.symm hne) (hlist ▸ List.mem_singleton_self other)
      exact ⟨other, (htargets id (Ne.symm hne)).trans hlist, hothers other v hne' hother⟩
  · by_cases hea : a = n.id
    · by_cases heb : b = n.id
      · rw [hea, heb]
      · rw [hea, hown, List.mem_singleton] at ha
        rw [htargets b heb, ha] at hb
        exact absurd hb (hapart b heb)
    · by_cases heb : b = n.id
      · rw [heb, hown, List.mem_singleton] at hb
        rw [htargets a hea, hb] at ha
        exact absurd ha (hapart a hea)
      · rw [htargets a hea] at ha
        rw [htargets b heb] at hb
        exact h.distinct a b learner ha hb

/-- The first write of a mood makes a learner that no node had. -/
theorem set_first (h : Learned past g) (hg : Regular g) (hn : g.store.contains n.id)
    (hw : written? n.id .mood past = none) :
    Learned (.set n .mood value :: past) (Mood.set g n value) := by
  have hl := h.learner?_of_unwritten hw
  have hstore := Mood.store_set_of_none hg.learner hl value
  refine h.of_set (l := g.store.lastId + 1) ?_ (fun id hid => ?_) (fun id _ hmem => ?_) ?_
    (fun other v hother hlearner => ?_)
  · rw [Mood.targets_set hg hn, if_pos ⟨hl, rfl, rfl⟩, h.unwritten n.id hw]
    rfl
  · rw [Mood.targets_set hg hn, if_neg fun h' => hid h'.2.1]
  · exact hg.numbered.not_contains (h.contains hmem)
  · refine .of_learn hstore ?_ fun p hp => ?_
    · rw [Mood.typeOf?_withLearner, if_pos rfl]
    · rw [Mood.attribute?_withLearner hg.numbered, if_pos rfl]
      revert p
      decide
  · refine hlearner.of_eq ?_ fun a _ => ?_
    · rw [Mood.typeOf?_set hg, if_neg fun h' => hother h'.2]
    · rw [hstore, Store.attribute?_setAttribute, if_neg fun h' => hother h'.1,
        Mood.attribute?_withLearner hg.numbered, if_neg hother]

/-- Further writes reach the learner that the first one made. -/
theorem set_again (h : Learned past g) (hg : Regular g) {earlier : Value}
    (hw : written? n.id .mood past = some earlier) :
    Learned (.set n .mood value :: past) (Mood.set g n value) := by
  obtain ⟨l, hown, hlearner⟩ := h.written n.id earlier hw
  have hmem : l ∈ g.store.targets n.id Mood.key := hown ▸ List.mem_singleton_self l
  have hstore := Mood.store_set_of_some (learner?_of_written hg hown hlearner) value
  refine h.of_set (l := l) ?_ (fun id _ => ?_) (fun id hid hmem' => ?_) ?_
    (fun other v hother hlearner' => ?_)
  · rw [hstore, Store.targets_setAttribute, hown]
  · rw [hstore, Store.targets_setAttribute]
  · exact hid (h.distinct id n.id l hmem' hmem)
  · exact .of_learn hstore hlearner.type hlearner.parameters
  · refine hlearner'.of_eq ?_ fun a _ => ?_
    · rw [hstore, Store.typeOf?_setAttribute]
    · rw [hstore, Store.attribute?_setAttribute, if_neg fun h' => hother h'.1]

theorem perform (h : Learned past g) (hg : Regular g) {c : Call} (hc : c.Reaches g) :
    Learned (c :: past) (c.perform g) := by
  cases hlearns : c.learns with
  | false => exact h.of_not_learns hg hc hlearns
  | true =>
    cases c with
    | set n a value =>
      cases a with
      | mood =>
        cases hw : written? n.id .mood past with
        | none => exact h.set_first hg (hc n List.mem_cons_self) hw
        | some earlier => exact h.set_again hg hw
      | _ => cases hlearns
    | _ => cases hlearns

theorem of_run {plugins : List Nodes.Plugin} (run : Run (newGraph plugins) past g) :
    Learned past g := by
  induction run with
  | start =>
    have hnone : ∀ id, (newGraph plugins).store.targets id Mood.key = [] := by
      intro id
      rw [store_newGraph]
      simp [Store.targets, Store.record?]
    refine ⟨fun id _ => hnone id, fun id value hw => absurd hw (by simp [written?]),
      fun a b learner ha _ => ?_⟩
    rw [hnone] at ha
    exact absurd ha List.not_mem_nil
  | call c run hc ih => exact ih.perform (run.regular (regular_newGraph plugins)) hc

end Learned

/-! ## What the getter returns -/

/-- Only doubles are written to a mood. -/
theorem written?_mood {id : Int} {value : Value} (h : written? id .mood past = some value) :
    ∃ x, value = .double x := by
  obtain ⟨c, -, hc⟩ := List.exists_of_findSome?_eq_some h
  cases c with
  | set n a v =>
    rw [Call.writes?] at hc
    split at hc
    · next hset =>
      obtain ⟨-, rfl⟩ := hset
      exact ⟨v, (Option.some.inj hc).symm⟩
    · cases hc
  | _ => cases hc

theorem Learned.get_mood (h : Learned past g) (hg : Regular g) (n : Node) :
    (get g n .mood).map Value.double = written? n.id .mood past := by
  show (Mood.get g n).map Value.double = _
  cases hw : written? n.id .mood past with
  | none =>
    have hl := h.learner?_of_unwritten hw
    simp only [Mood.get, Mood.read, hl]
    rfl
  | some value =>
    obtain ⟨learner, hown, hlearner⟩ := h.written n.id value hw
    obtain ⟨x, rfl⟩ := written?_mood hw
    have hl := learner?_of_written hg hown hlearner
    have hvalue : Nodes.Learner.extrapolate g ⟨n.world, n.time, learner, .learner⟩ .double =
        some x := by
      simp only [Nodes.Learner.extrapolate, Nodes.Graph.get, Nodes.Graph.attribute?, hlearner.value]
      rfl
    simp only [Mood.get, Mood.read, hl, hvalue]
    rfl

namespace Mood

/-- The getter is not kept waiting. -/
theorem remaining_read (g : Nodes.Graph) (n : Node) : (read g n).2.remaining = 0 := by
  unfold read
  split <;> rfl

theorem remaining_write (g : Nodes.Graph) (n : Node) (value : Number.Double) :
    (write g n value).2.remaining = 0 := by
  simp only [write]
  split <;> rfl

end Mood

/-- After any run, a node has no learner while its mood is unwritten, and one
learner of its own from the first write on, from which the getter returns what
was written last.  Reading changes nothing, and no call is kept waiting. -/
theorem mood_is_latest_written {plugins : List Nodes.Plugin}
    (run : Run (newGraph plugins) past g) :
    (∀ id, written? id .mood past = none → g.store.targets id Mood.key = []) ∧
    (∀ id, (written? id .mood past).isSome → ∃ learner,
      g.store.targets id Mood.key = [learner] ∧
      (∀ world time, g.lookup world time learner = some ⟨world, time, learner, .learner⟩) ∧
      g.store.attribute? learner "degree" = some (.int 2) ∧
      g.store.attribute? learner "precision" = some (.double (.ofDecimal false 5 (-1)))) ∧
    (∀ a b learner, learner ∈ g.store.targets a Mood.key →
      learner ∈ g.store.targets b Mood.key → a = b) ∧
    (∀ n : Node, (get g n .mood).map Value.double = written? n.id .mood past) ∧
    (∀ n : Node, (Mood.read g n).1 = g) ∧
    (∀ n : Node, (Mood.read g n).2.remaining = 0) ∧
    (∀ (n : Node) (value : Number.Double), (Mood.write g n value).2.remaining = 0) ∧
    (∀ n : Node, (enterByEmail g n).2.remaining = 0) := by
  have h := Learned.of_run run
  have hg := run.regular (regular_newGraph plugins)
  refine ⟨h.unwritten, fun id hw => ?_, h.distinct, h.get_mood hg, Mood.read_fst g,
    Mood.remaining_read g, Mood.remaining_write g, fun n => rfl⟩
  obtain ⟨value, hvalue⟩ := Option.isSome_iff_exists.mp hw
  obtain ⟨learner, hown, hlearner⟩ := h.written id value hvalue
  exact ⟨learner, hown, hlearner.lookup hg, hlearner.parameters _ List.mem_cons_self,
    hlearner.parameters _ (List.mem_cons_of_mem _ List.mem_cons_self)⟩

/-- A student's mood is written twice, in two worlds, and goes to one learner; a
person has another. -/
theorem student_mood_in_two_worlds :
    let student : Node := ⟨0, 0, 1, .ofClass "sample.Student"⟩
    let person : Node := ⟨0, 0, 2, .ofClass "sample.Person"⟩
    let low : Number.Double := .ofDecimal false 15 (-1)
    let high : Number.Double := .ofDecimal false 25 (-1)
    let past : List Call := [.set { student with world := 3, time := 7 } .mood high,
      .set person .mood low, .set student .mood low, .create .person 0 0, .create .student 0 0]
    ∃ g, Run (newGraph []) past g ∧ (get g student .mood).map Value.double = some (.double high) ∧
      g.store.targets 1 Mood.key = [3] ∧ g.store.targets 2 Mood.key = [4] ∧
      g.store.attribute? 3 "degree" = some (.int 2) := by
  intro student person low high past
  have run : Run (newGraph []) past (past.foldr (fun c g => c.perform g) (newGraph [])) := by
    refine .call _ (.call _ (.call _ (.call _ (.call _ .start ?_) ?_) ?_) ?_) ?_
    all_goals decide +kernel
  obtain ⟨-, hlearner, -, hget, -⟩ := mood_is_latest_written run
  obtain ⟨learner, hown, -, hdegree, -⟩ := hlearner 1 (by decide)
  have hthree : (past.foldr (fun c g => c.perform g) (newGraph [])).store.targets 1 Mood.key =
      [3] := by
    decide +kernel
  obtain rfl : 3 = learner := List.singleton_inj.mp (hthree.symm.trans hown)
  refine ⟨_, run, ?_, hown, by decide +kernel, hdegree⟩
  rw [hget]
  rfl

end Sample
end TypedGraph
