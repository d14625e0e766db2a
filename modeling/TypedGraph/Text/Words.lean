/-
Names cut into words, and the three ways a generated name is cased.

A word ends at an underscore, a hyphen or a space, which is dropped, and between
two neighbours of different kind: a small letter before a capital, a letter
beside a digit, and a capital before a capital that a small letter follows, so
that `HTTPServer` is `HTTP` and `Server`.  Empty words stay, so that the casings
keep leading, trailing and doubled separators.
-/
import TypedGraph.Text.Case
import TypedGraph.Text.Cluster

namespace TypedGraph
namespace Text

inductive ClusterKind
  | separator
  | small
  | capital
  | digit
  | other
deriving DecidableEq, Repr

/-- A cluster with case counts as a capital when upper-casing keeps it, and as
small when lower-casing does. -/
def ClusterKind.of (cluster : List Char) : ClusterKind :=
  if cluster = ['_'] ∨ cluster = ['-'] ∨ cluster = [' '] then .separator
  else if cluster.all Char.isDigit then .digit
  else
    let up := upper cluster
    let low := lower cluster
    if up = low then .other
    else if cluster = up then .capital
    else if cluster = low then .small
    else .other

/-- Whether a word ends after a cluster of the first kind, by the kinds of the
two clusters that follow. -/
def endsWord : ClusterKind → Option ClusterKind → Option ClusterKind → Bool
  | .small, some .capital, _ => true
  | .small, some .digit, _ => true
  | .capital, some .digit, _ => true
  | .digit, some .small, _ => true
  | .digit, some .capital, _ => true
  | .capital, some .capital, some .small => true
  | _, _, _ => false

/-- `wordsFrom current gs` goes on with the word `current`. -/
def wordsFrom (current : List Char) : List (List Char) → List (List Char)
  | [] => [current]
  | g :: rest =>
    let kind := ClusterKind.of g
    if kind = .separator then current :: wordsFrom [] rest
    else if endsWord kind (rest[0]?.map ClusterKind.of) (rest[1]?.map ClusterKind.of) then
      (current ++ g) :: wordsFrom [] rest
    else wordsFrom (current ++ g) rest

/-- The words of a name; an empty name has none. -/
def words (name : String) : List (List Char) :=
  if name.isEmpty then [] else wordsFrom [] (clusters name.toList)

/-- First character upper-cased, the rest lower-cased. -/
def capitalize : List Char → List Char
  | [] => []
  | c :: rest => upperChar c ++ lower rest

def joinWords (separator : String) (ws : List (List Char)) : String :=
  separator.intercalate (ws.map String.ofList)

/-- `ownedBy` becomes `OWNED_BY`. -/
def constantCase (name : String) : String := joinWords "_" ((words name).map upper)

/-- `ownedBy` becomes `owned_by`. -/
def snakeCase (name : String) : String := joinWords "_" ((words name).map lower)

/-- `dark_blue` becomes `DarkBlue`. -/
def pascalCase (name : String) : String := joinWords "" ((words name).map capitalize)

end Text
end TypedGraph
