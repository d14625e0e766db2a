/-
Queries of indexes.

A query is a list of conditions with commas between them, each an attribute and
a value with an equals sign between them.  What has no equals sign is no
condition, and blanks around names and values do not count.
-/
import TypedGraph.Nodes.Store
import TypedGraph.Text.Blank

namespace TypedGraph
namespace Nodes

/-- An attribute has to have a value. -/
structure Condition where
  key : String
  value : String
deriving DecidableEq, Repr

namespace Condition

/-- The condition that a piece of a query writes. -/
def ofPiece? (piece : List Char) : Option Condition :=
  let key := piece.takeWhile (· ≠ '=')
  match piece.drop key.length with
  | [] => none
  | _ :: value => some ⟨String.ofList (Text.trim key), String.ofList (Text.trim value)⟩

def holds (c : Condition) (entry : IndexEntry) : Bool :=
  entry.any fun (a, v) => a == c.key && v == c.value

theorem takeWhile_append {key : List Char} (h : '=' ∉ key) (rest : List Char) :
    (key ++ rest).takeWhile (· ≠ '=') = key ++ rest.takeWhile (· ≠ '=') := by
  refine List.takeWhile_append_of_pos fun c hc => ?_
  exact decide_eq_true fun he => h (he ▸ hc)

/-- A piece is cut at its first equals sign. -/
theorem ofPiece?_append {key : List Char} (h : '=' ∉ key) (value : List Char) :
    ofPiece? (key ++ '=' :: value) =
      some ⟨String.ofList (Text.trim key), String.ofList (Text.trim value)⟩ := by
  have hkey := takeWhile_append h ('=' :: value)
  rw [List.takeWhile_cons_of_neg (by decide), List.append_nil] at hkey
  simp only [ofPiece?, hkey, List.drop_left]

theorem ofPiece?_of_not_mem {piece : List Char} (h : '=' ∉ piece) : ofPiece? piece = none := by
  have hkey := takeWhile_append h []
  rw [List.takeWhile_nil, List.append_nil] at hkey
  simp only [ofPiece?, hkey, List.drop_length]

theorem holds_iff {c : Condition} {entry : IndexEntry} :
    c.holds entry = true ↔ (c.key, c.value) ∈ entry := by
  simp [holds]

end Condition

abbrev Query := List Condition

namespace Query

def parse (text : String) : Query :=
  (text.toList.splitOn ',').filterMap Condition.ofPiece?

/-- Whether every condition holds. -/
def holds (q : Query) (entry : IndexEntry) : Bool := q.all (·.holds entry)

theorem holds_parse {text : String} {entry : IndexEntry} :
    (parse text).holds entry = true ↔ ∀ key value : List Char, '=' ∉ key →
      key ++ '=' :: value ∈ text.toList.splitOn ',' →
        (String.ofList (Text.trim key), String.ofList (Text.trim value)) ∈ entry := by
  rw [holds, List.all_eq_true]
  constructor
  · intro h key value hkey hpiece
    have hmem := List.mem_filterMap.mpr ⟨_, hpiece, Condition.ofPiece?_append hkey value⟩
    exact Condition.holds_iff.mp (h _ hmem)
  · intro h c hc
    obtain ⟨piece, hpiece, hwrites⟩ := List.mem_filterMap.mp hc
    by_cases hcut : '=' ∈ piece
    · obtain ⟨key, value, rfl, hkey⟩ := List.eq_append_cons_of_mem hcut
      rw [Condition.ofPiece?_append hkey] at hwrites
      cases hwrites
      exact Condition.holds_iff.mpr (h key value hkey hpiece)
    · rw [Condition.ofPiece?_of_not_mem hcut] at hwrites
      cases hwrites

end Query

end Nodes
end TypedGraph
