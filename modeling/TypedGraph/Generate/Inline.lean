/-
All artifacts in one source text, as modules nested in modules.

The tree holds the artifacts of each package in the order they came, and its
sub-packages by name.  Module indexes are left out, since nesting does their
work.
-/
import TypedGraph.Generate.Artifact
import Std.Data.TreeMap

namespace TypedGraph
namespace Generate

/-- Sub-packages stand in name order. -/
inductive ModuleTree
  | node (artifacts : List Artifact) (packages : List (String × ModuleTree))

namespace ModuleTree

def empty : ModuleTree := .node [] []

/-- A package that holds one artifact, so many segments further down. -/
def single (a : Artifact) : List String → ModuleTree
  | [] => .node [a] []
  | segment :: rest => .node [] [(segment, single a rest)]

mutual

/-- Adds an artifact to the package of the given segments. -/
def insert (a : Artifact) : List String → ModuleTree → ModuleTree
  | [], .node artifacts packages => .node (artifacts ++ [a]) packages
  | segment :: rest, .node artifacts packages =>
    .node artifacts (insertPackage a segment rest packages)

def insertPackage (a : Artifact) (segment : String) (rest : List String) :
    List (String × ModuleTree) → List (String × ModuleTree)
  | [] => [(segment, single a rest)]
  | (name, tree) :: more =>
    match compare segment name with
    | .lt => (segment, single a rest) :: (name, tree) :: more
    | .eq => (name, insert a rest tree) :: more
    | .gt => (name, tree) :: insertPackage a segment rest more

end

/-- A module around a text. -/
def wrap (name text : String) : String :=
  "pub mod " ++ name ++ " \x7b\n" ++ text ++ "\x7d\n"

def artifactsText (artifacts : List Artifact) : String :=
  String.join (artifacts.map fun a => wrap a.module_ a.body)

mutual

/-- The artifacts of the package, then its sub-packages. -/
def text : ModuleTree → String
  | .node artifacts packages => artifactsText artifacts ++ textAll packages

def textAll : List (String × ModuleTree) → String
  | [] => ""
  | (name, tree) :: rest => wrap name tree.text ++ textAll rest

end

end ModuleTree

/-- The text that nests every artifact but the module indexes. -/
def inline (artifacts : List Artifact) : String :=
  ((artifacts.filter (!·.isModuleIndex)).foldl (fun tree a => tree.insert a a.segments)
    ModuleTree.empty).text

end Generate
end TypedGraph
