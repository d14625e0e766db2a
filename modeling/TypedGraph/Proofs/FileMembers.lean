/-
What a file implements for its types.

Only the implementations without a trait count: what a trait asks for stands apart from
what else a type has of the same name.
-/
import Mathlib.Data.List.Basic
import TypedGraph.Code.Tree

namespace TypedGraph

/-- The element of a list with a key that no other element has. -/
theorem filter_eq_singleton {α β : Type} [DecidableEq β] {key : α → Option β} {as : List α} {a : α}
    {b : β} (h : (as.filterMap key).Nodup) (ha : a ∈ as) (hb : key a = some b) :
    as.filter (key · == some b) = [a] := by
  induction as with
  | nil => exact absurd ha List.not_mem_nil
  | cons x rest ih =>
    rcases List.mem_cons.mp ha with rfl | ha
    · rw [List.filterMap_cons_some hb, List.nodup_cons] at h
      have hrest : rest.filter (key · == some b) = [] := List.filter_eq_nil_iff.mpr fun y hy hkey =>
        h.1 (List.mem_filterMap.mpr ⟨y, hy, beq_iff_eq.mp hkey⟩)
      rw [List.filter_cons, if_pos (beq_iff_eq.mpr hb), hrest]
    · have hx : ¬ (key x == some b) = true := by
        intro hkey
        rw [List.filterMap_cons_some (beq_iff_eq.mp hkey), List.nodup_cons] at h
        exact h.1 (List.mem_filterMap.mpr ⟨a, ha, hb⟩)
      rw [List.filter_cons, if_neg hx]
      exact ih (h.sublist ((List.sublist_cons_self x rest).filterMap key)) ha

namespace Code

def Member.constantName? : Member → Option String
  | .constant _ name _ _ => some name
  | _ => none

def Member.functionName? : Member → Option String
  | .function _ _ signature _ => some signature.name
  | _ => none

namespace File

/-- The constants that a file implements for its types, apart from those of
traits. -/
def inherentConstants (f : File) : List String :=
  f.items.flatMap fun
    | .impl _ none _ members => members.filterMap Member.constantName?
    | _ => []

/-- The functions that a file implements for its types, apart from those of
traits. -/
def inherentNames (f : File) : List String :=
  f.items.flatMap fun
    | .impl _ none _ members => members.filterMap Member.functionName?
    | _ => []

/-- The members that a file implements for its types, apart from those of traits. -/
def inherentMembers (f : File) : List Member :=
  f.items.flatMap fun
    | .impl _ none _ members => members
    | _ => []

/-- The constants of a name among them. -/
def constantsNamed (f : File) (name : String) : List Member :=
  f.inherentMembers.filter (·.constantName? == some name)

variable {f : File} {member : Member} {name : String}

theorem inherentConstants_eq (f : File) :
    f.inherentConstants = f.inherentMembers.filterMap Member.constantName? := by
  rw [inherentConstants, inherentMembers, List.filterMap_flatMap]
  refine List.flatMap_congr fun item _ => ?_
  cases item with
  | impl generics trait target members => cases trait <;> rfl
  | _ => rfl

/-- A file without a second constant of a name has the one. -/
theorem constantsNamed_eq (h : f.inherentConstants.Nodup) (hmember : member ∈ f.inherentMembers)
    (hname : member.constantName? = some name) : f.constantsNamed name = [member] :=
  filter_eq_singleton (f.inherentConstants_eq ▸ h) hmember hname

end File

end Code
end TypedGraph
