/-
Lines of descent.

A line of a name starts at its class, goes on with declared parents and repeats
no name.  There are many, each the start of a longer one, and `parentChain` gives
the one that cannot go on: every line is a start of it (`IsLine.prefix_chainFrom`).
What counts the steps of the search is not what ends it, since a line without
repetition is no longer than the registry.
-/
import Mathlib.Data.List.Nodup
import TypedGraph.Proofs.Ancestry

namespace TypedGraph
namespace Schema
namespace Model

variable {m : Model} {fqn name : String} {line : List Class}

/-- Classes of different names, of which the first has the given one and each
other is the parent that the one before declares. -/
structure IsLine (m : Model) (fqn : String) (line : List Class) : Prop where
  start : ∀ c ∈ line.head?, m.class? fqn = some c
  steps : line.IsChain m.ParentStep
  distinct : (line.map Class.fqn).Nodup

theorem registered_of_isChain (hstart : ∀ c ∈ line.head?, m.class? c.fqn = some c)
    (hsteps : line.IsChain m.ParentStep) : ∀ c ∈ line, m.class? c.fqn = some c := by
  induction line with
  | nil => exact fun c hc => absurd hc List.not_mem_nil
  | cons c rest ih =>
    obtain ⟨hnext, hrest⟩ := List.isChain_cons.mp hsteps
    intro d hd
    rcases List.mem_cons.mp hd with rfl | hd
    · exact hstart d rfl
    · exact ih (fun e he => (hnext e he).registered) hrest d hd

theorem IsLine.registered (h : m.IsLine fqn line) : ∀ c ∈ line, m.class? c.fqn = some c := by
  refine registered_of_isChain (fun c hc => ?_) h.steps
  rw [fqn_of_class? (h.start c hc)]
  exact h.start c hc

theorem IsLine.length_le_size (h : m.IsLine fqn line) : line.length ≤ m.size := by
  rw [← List.length_map Class.fqn]
  refine Model.length_le_size h.distinct fun name hname => ?_
  obtain ⟨c, hc, rfl⟩ := List.mem_map.mp hname
  rw [class?_eq_some.mp (h.registered c hc)]
  rfl

theorem IsLine.length_le_classes (h : m.IsLine fqn line) : line.length ≤ m.classes.length := by
  refine (List.Nodup.of_map Class.fqn h.distinct).length_le_of_subset fun c hc => ?_
  exact mem_classes.mpr (h.registered c hc)

/-! ## The line of the search -/

/-- The search meets no name that it has seen, and none twice. -/
theorem distinct_chainFrom (m : Model) (steps : Nat) (seen : List String) (next : Option Class) :
    (∀ c ∈ m.chainFrom steps seen next, c.fqn ∉ seen) ∧
      ((m.chainFrom steps seen next).map Class.fqn).Nodup := by
  induction steps generalizing seen next with
  | zero => exact ⟨fun c hc => absurd hc List.not_mem_nil, List.nodup_nil⟩
  | succ steps ih =>
    cases next with
    | none => exact ⟨fun c hc => absurd hc List.not_mem_nil, List.nodup_nil⟩
    | some c =>
      rw [chainFrom]
      split
      · exact ⟨fun d hd => absurd hd List.not_mem_nil, List.nodup_nil⟩
      · rename_i hseen
        obtain ⟨hnew, hdistinct⟩ := ih (c.fqn :: seen) (m.parentOf c)
        constructor
        · intro d hd
          rcases List.mem_cons.mp hd with rfl | hd
          · exact fun hmem => hseen (List.contains_iff_mem.mpr hmem)
          · exact fun hmem => hnew d hd (List.mem_cons_of_mem _ hmem)
        · rw [List.map_cons, List.nodup_cons]
          refine ⟨fun hmem => ?_, hdistinct⟩
          obtain ⟨d, hd, hname⟩ := List.mem_map.mp hmem
          exact hnew d hd (hname ▸ List.mem_cons_self)

/-- A line of new names that the search has the steps for is a start of what it
finds. -/
theorem prefix_chainFrom {steps : Nat} {seen : List String} {next : Option Class}
    (hstart : ∀ c ∈ line.head?, next = some c) (hsteps : line.IsChain m.ParentStep)
    (hdistinct : (line.map Class.fqn).Nodup) (hnew : ∀ c ∈ line, c.fqn ∉ seen)
    (hlen : line.length ≤ steps) : line <+: m.chainFrom steps seen next := by
  induction line generalizing steps seen next with
  | nil => exact List.nil_prefix
  | cons c rest ih =>
    rw [List.map_cons, List.nodup_cons] at hdistinct
    obtain ⟨hparent, hrest⟩ := List.isChain_cons.mp hsteps
    cases steps with
    | zero => exact absurd hlen (Nat.not_succ_le_zero _)
    | succ steps =>
      have hunseen : ¬ seen.contains c.fqn = true := fun hmem =>
        hnew c List.mem_cons_self (List.contains_iff_mem.mp hmem)
      rw [hstart c rfl, chainFrom, if_neg hunseen, List.prefix_cons_inj]
      refine ih hparent hrest hdistinct.2 (fun d hd hmem => ?_) (Nat.le_of_succ_le_succ hlen)
      rcases List.mem_cons.mp hmem with hname | hmem
      · exact hdistinct.1 (hname ▸ List.mem_map_of_mem hd)
      · exact hnew d (List.mem_cons_of_mem c hd) hmem

theorem isLine_parentChain (m : Model) (fqn : String) : m.IsLine fqn (m.parentChain fqn) where
  start _ hc := head?_chainFrom hc
  steps := m.isChain_parentChain fqn
  distinct := (m.distinct_chainFrom m.size [] (m.class? fqn)).2

theorem IsLine.prefix_parentChain (h : m.IsLine fqn line) : line <+: m.parentChain fqn :=
  prefix_chainFrom h.start h.steps h.distinct (fun _ _ => List.not_mem_nil) h.length_le_size

theorem parentChain_eq_nil : m.parentChain fqn = [] ↔ m.class? fqn = none := by
  constructor
  · intro h
    refine Option.eq_none_iff_forall_ne_some.mpr fun c hc => ?_
    have hmem : c ∈ m.parentChain fqn := mem_parentChain.mpr ⟨c, hc, .refl⟩
    rw [h] at hmem
    exact absurd hmem List.not_mem_nil
  · intro h
    refine List.eq_nil_iff_forall_not_mem.mpr fun c hc => ?_
    obtain ⟨d, hd, -⟩ := mem_parentChain.mp hc
    rw [h] at hd
    exact nomatch hd

/-- The parent of a class on the chain is on it too. -/
theorem parent_mem_parentChain {c d : Class} (hc : c ∈ m.parentChain fqn)
    (h : m.ParentStep c d) : d ∈ m.parentChain fqn := by
  obtain ⟨e, he, hsteps⟩ := mem_parentChain.mp hc
  exact mem_parentChain.mpr ⟨e, he, hsteps.tail h⟩

/-! ## Properties along a line -/

theorem findProperty_eq_some_iff {c : Class} {p : Property} :
    m.findProperty fqn name = some (c, p) ↔
      ∃ before after, m.parentChain fqn = before ++ c :: after ∧
        (∀ d ∈ before, d.property? name = none) ∧ c.property? name = some p := by
  rw [findProperty, List.findSome?_eq_some_iff]
  constructor
  · rintro ⟨before, d, after, hcut, hd, hbefore⟩
    obtain ⟨q, hq, heq⟩ := Option.map_eq_some_iff.mp hd
    obtain ⟨rfl, rfl⟩ := Prod.mk.inj heq
    exact ⟨before, after, hcut, fun e he => Option.map_eq_none_iff.mp (hbefore e he), hq⟩
  · rintro ⟨before, after, hcut, hbefore, hc⟩
    refine ⟨before, c, after, hcut, by rw [hc]; rfl, fun e he => ?_⟩
    rw [hbefore e he]
    rfl

theorem findProperty_eq_none_iff :
    m.findProperty fqn name = none ↔ ∀ c ∈ m.parentChain fqn, c.property? name = none := by
  rw [findProperty, List.findSome?_eq_none_iff]
  simp only [Option.map_eq_none_iff]

/-- The chain of a name is its longest line: a line of which every other is a
start.  It is empty when the name has no class, has no more classes than are
registered, and ends at one whose parent, if it declares a registered one, is on
the chain.  A property is looked for along it, from the start. -/
theorem parentChain_is_longest_line (m : Model) (fqn : String) :
    (m.parentChain fqn = [] ↔ m.class? fqn = none) ∧
    m.IsLine fqn (m.parentChain fqn) ∧
    (∀ line, m.IsLine fqn line → line <+: m.parentChain fqn) ∧
    (m.parentChain fqn).length ≤ m.classes.length ∧
    (∀ last ∈ (m.parentChain fqn).getLast?, ∀ parent, m.ParentStep last parent →
      parent ∈ m.parentChain fqn) ∧
    (∀ name c p, m.findProperty fqn name = some (c, p) ↔
      ∃ before after, m.parentChain fqn = before ++ c :: after ∧
        (∀ d ∈ before, d.property? name = none) ∧ c.property? name = some p) ∧
    (∀ name, m.findProperty fqn name = none ↔
      ∀ c ∈ m.parentChain fqn, c.property? name = none) := by
  have hline := m.isLine_parentChain fqn
  refine ⟨parentChain_eq_nil, hline, fun _ h => h.prefix_parentChain, hline.length_le_classes, ?_,
    fun _ _ _ => findProperty_eq_some_iff, fun _ => findProperty_eq_none_iff⟩
  intro last hlast parent hparent
  exact parent_mem_parentChain (List.mem_of_getLast? hlast) hparent

end Model

end Schema
end TypedGraph
