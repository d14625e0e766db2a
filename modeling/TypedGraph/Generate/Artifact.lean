/-
Generated files.

An artifact is one source file.  Its package and name give the module it is
declared under and the path it is written to.
-/
import TypedGraph.Code.Listing
import TypedGraph.Code.SourceReader
import TypedGraph.Code.Validity
import TypedGraph.Data.Tree
import TypedGraph.Files.Path
import TypedGraph.Generate.Error
import TypedGraph.Text.Words

namespace TypedGraph
namespace Generate

open Files (FilePath)

inductive ArtifactKind
  | enumeration
  | entity
  | plugin
  | model
  | taskApi
  | action
  | selection
  | timeHelper
  | moduleIndex
deriving DecidableEq, Repr

namespace ArtifactKind

def all : List ArtifactKind :=
  [.enumeration, .entity, .plugin, .model, .taskApi, .action, .selection, .timeHelper, .moduleIndex]

/-- The name in written records. -/
def key : ArtifactKind → String
  | .enumeration => "enum"
  | .entity => "entity"
  | .plugin => "plugin"
  | .model => "model"
  | .taskApi => "task_api"
  | .action => "action"
  | .selection => "select"
  | .timeHelper => "time_helper"
  | .moduleIndex => "module_index"

/-- The name in messages. -/
def label : ArtifactKind → String
  | .enumeration => "Enum"
  | .entity => "Entity"
  | .plugin => "Plugin"
  | .model => "Model"
  | .taskApi => "TaskApi"
  | .action => "Action"
  | .selection => "Select"
  | .timeHelper => "TimeHelper"
  | .moduleIndex => "ModuleIndex"

/-- Kinds are ordered as they are generated. -/
def rank : ArtifactKind → Nat
  | .enumeration => 0
  | .entity => 1
  | .plugin => 2
  | .model => 3
  | .taskApi => 4
  | .action => 5
  | .selection => 6
  | .timeHelper => 7
  | .moduleIndex => 8

end ArtifactKind

structure Artifact where
  name : String
  package : Option String
  kind : ArtifactKind
  body : String
deriving DecidableEq, Repr

/-- Module name of the files that list a package. -/
def moduleIndexName : String := "mod"

/-- The non-empty segments of a dotted package. -/
def packageSegments (package : Option String) : List String :=
  match package with
  | some p => ((p.toList.splitOn '.').filter (!·.isEmpty)).map String.ofList
  | none => []

theorem mem_packageSegments {package : Option String} {n : String}
    (h : n ∈ packageSegments package) : n ≠ "" ∧ '.' ∉ n.toList := by
  cases package with
  | none => exact absurd h List.not_mem_nil
  | some p =>
    obtain ⟨cs, hcs, rfl⟩ := List.mem_map.mp h
    obtain ⟨hmem, hne⟩ := List.mem_filter.mp hcs
    rw [String.toList_ofList]
    refine ⟨fun he => ?_, Text.not_mem_of_mem_splitOn hmem⟩
    rw [String.ofList_eq_empty_iff.mp he] at hne
    exact nomatch hne

/-- The segments of a package are told by the text that they make up. -/
theorem packageSegments_intercalate {p : List String} (hp : p ≠ [])
    (h : ∀ n ∈ p, n ≠ "" ∧ '.' ∉ n.toList) : packageSegments (some (".".intercalate p)) = p := by
  induction p with
  | nil => exact absurd rfl hp
  | cons n rest ih =>
    obtain ⟨hne, hdot⟩ := h n List.mem_cons_self
    have hn : (!n.toList.isEmpty) = true := by simpa using hne
    by_cases hr : rest = []
    · subst hr
      rw [String.intercalate_singleton, packageSegments, List.splitOn_eq_singleton hdot]
      simp [hn]
    · have ih := ih hr fun n hn => h n (List.mem_cons_of_mem _ hn)
      rw [packageSegments] at ih
      rw [String.intercalate_cons_of_ne_nil hr, packageSegments]
      simp only [String.toList_append, String.reduceToList, List.append_assoc, List.cons_append,
        List.nil_append]
      rw [List.splitOn_append_cons_self_of_not_mem hdot, List.filter_cons, if_pos hn, List.map_cons, ih,
        String.ofList_toList]

namespace Artifact

/-- The artifact with the text of a file, which has to be readable. -/
def render (name : String) (package : Option String) (kind : ArtifactKind) (file : Code.File) :
    Except GenerateError Artifact :=
  if file.valid then .ok { name, package, kind, body := file.text }
  else .error (.unreadable name)

/-- The artifact with the text of the file that tokens make up. -/
def ofTokens (name : String) (package : Option String) (kind : ArtifactKind)
    (ts : List Code.Token) : Except GenerateError Artifact :=
  match Code.source? ts with
  | some file => render name package kind file
  | none => .error (.unreadable name)

def fqn (a : Artifact) : String :=
  match a.package with
  | some package => package ++ "." ++ a.name
  | none => a.name

def isModuleIndex (a : Artifact) : Bool := a.kind == .moduleIndex

/-- Module name that the artifact is declared under. -/
def module_ (a : Artifact) : String :=
  if a.isModuleIndex then moduleIndexName else Text.snakeCase a.name

def segments (a : Artifact) : List String := packageSegments a.package

/-- Path below the output directory. -/
def relativePath (a : Artifact) : FilePath :=
  (FilePath.ofSegments a.segments).push (a.module_ ++ ".rs")

def display (a : Artifact) : String := a.fqn ++ " (" ++ a.kind.label ++ ")"

/-- The written form. -/
def toTree (a : Artifact) : Data.Tree :=
  .object ([("name", .text a.name)] ++
    (a.package.map fun package => ("package", Data.Tree.text package)).toList ++
    [("kind", .text a.kind.key), ("body", .text a.body)])

end Artifact

end Generate
end TypedGraph
