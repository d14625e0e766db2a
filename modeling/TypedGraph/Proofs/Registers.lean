/-
Plain attributes as registers.

Attributes, the settings of learners, relations and the index all live in one
store.  Yet each plain attribute of a node behaves like a register of its own: it
is read and written by the id of the node alone, holds what its setter was last
given, and no other call changes it.  That a setter never fails comes with it,
since it announces the very kind of its value.
-/
import TypedGraph.Proofs.Calls

namespace TypedGraph
namespace Sample

open Nodes (Node Value)

variable {g : Nodes.Graph} {n m : Node} {a : Attribute} {past : List Call}

/-- A plain attribute is read from the store, and only as a value of its kind. -/
theorem get_eq (ha : a ≠ .mood) :
    get g n a = (g.store.attribute? n.id a.key).bind (Value.as? a.kind) := by
  cases a <;> first | exact absurd rfl ha | rfl

theorem exists_set (g : Nodes.Graph) (n : Node) (a : Attribute) (value : a.kind.type) :
    ∃ after, set g n a value = .ok after := by
  by_cases ha : a = .mood
  · subst ha
    exact ⟨_, rfl⟩
  · exact ⟨_, set_eq_ok ha value⟩

namespace Call

theorem writes?_set {id : Int} (h : m.id = id) (value : a.kind.type) :
    (Call.set m a value).writes? id a = some (.of a.kind value) := if_pos ⟨h, rfl⟩

/-- A call that does not set an attribute leaves it as it reads. -/
theorem get_perform (hg : Regular g) {c : Call} (hc : c.Reaches g) (ha : a ≠ .mood)
    (h : c.writes? n.id a = none) : Sample.get (c.perform g) n a = Sample.get g n a := by
  rw [get_eq ha, get_eq ha, c.attribute?_perform hg hc ha, h, Option.none_or]

end Call

theorem written?_of_last {id : Int} {later : List Call} (hid : m.id = id) (value : a.kind.type)
    (earlier : List Call) (hlater : ∀ c ∈ later, c.writes? id a = none) :
    written? id a (later ++ .set m a value :: earlier) = some (.of a.kind value) := by
  rw [written?, List.findSome?_append, List.findSome?_eq_none_iff.mpr hlater, Option.none_or,
    List.findSome?_cons, Call.writes?_set hid]

theorem Run.get_eq {plugins : List Nodes.Plugin} (run : Run (newGraph plugins) past g)
    (ha : a ≠ .mood) (n : Node) : get g n a = (written? n.id a past).bind (Value.as? a.kind) := by
  rw [Sample.get_eq ha, run.attribute?_eq ha]

/-- A plain attribute of a node reads, through any handle, as what its setter was
last given through any handle, and as nothing before.  No other call changes it,
and no setter fails. -/
theorem plain_attributes_are_registers {plugins : List Nodes.Plugin}
    (run : Run (newGraph plugins) past g) {a : Attribute} (ha : a ≠ .mood) (n : Node) :
    (∀ (m : Node) (value : a.kind.type) (later earlier : List Call),
      past = later ++ .set m a value :: earlier → m.id = n.id →
      (∀ c ∈ later, c.writes? n.id a = none) → get g n a = some value) ∧
    ((∀ c ∈ past, c.writes? n.id a = none) → get g n a = none) ∧
    (∀ c : Call, c.Reaches g → c.writes? n.id a = none → get (c.perform g) n a = get g n a) ∧
    (∀ (before : Nodes.Graph) (m : Node) (b : Attribute) (value : b.kind.type),
      ∃ after, set before m b value = .ok after) := by
  refine ⟨fun m value later earlier hpast hid hlater => ?_, fun hnever => ?_, fun c hc hother => ?_,
    exists_set⟩
  · rw [run.get_eq ha, hpast, written?_of_last hid value earlier hlater]
    exact Value.as?_of a.kind value
  · rw [run.get_eq ha, written?, List.findSome?_eq_none_iff.mpr hnever]
    rfl
  · exact Call.get_perform (run.regular (regular_newGraph plugins)) hc ha hother

/-- A student's name is set again in another world, and other calls follow. -/
theorem student_name_read_in_another_world :
    let student : Node := ⟨0, 0, 1, .ofClass "sample.Student"⟩
    let car : Node := ⟨0, 0, 2, .ofClass "sample.Car"⟩
    let later : List Call := [.indexByEmail student, .addTo car .ownedBy student,
      .set student .mood (.ofDecimal false 15 (-1)), .set car .plate "alan",
      .set student .school "MIT"]
    let earlier : List Call := [.set student .name "ada", .create .car 0 0, .create .student 0 0]
    let past := later ++ .set { student with world := 3, time := 7 } .name "alan" :: earlier
    ∃ g, Run (newGraph []) past g ∧
      get g { student with time := 9, accessor := .base } .name = some "alan" ∧
      get g student .enrolled = none := by
  intro student car later earlier past
  have run : Run (newGraph []) past (past.foldr (fun c g => c.perform g) (newGraph [])) := by
    refine .call _ (.call _ (.call _ (.call _ (.call _ (.call _ (.call _ (.call _ (.call _ .start
      ?_) ?_) ?_) ?_) ?_) ?_) ?_) ?_) ?_
    all_goals decide +kernel
  obtain ⟨hname, -⟩ := plain_attributes_are_registers run (a := .name) (by decide)
    { student with time := 9, accessor := .base }
  obtain ⟨-, henrolled, -⟩ := plain_attributes_are_registers run (a := .enrolled) (by decide)
    student
  exact ⟨_, run, hname _ "alan" later earlier rfl rfl (by decide), henrolled (by decide)⟩

end Sample
end TypedGraph
