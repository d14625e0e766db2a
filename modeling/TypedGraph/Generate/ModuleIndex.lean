/-
Module indexes: for every package a file that declares its sub-packages and its
modules, so that the artifacts form one module tree.
-/
import TypedGraph.Generate.Scope
import Std.Data.TreeMap
import Std.Data.TreeSet

namespace TypedGraph
namespace Generate

/-- The names that a package declares. -/
structure PackageContents where
  children : Std.TreeSet String := {}
  modules : Std.TreeSet String := {}

/-- Packages are ordered segment by segment. -/
def orderSegments : List String → List String → Ordering
  | [], [] => .eq
  | [], _ :: _ => .lt
  | _ :: _, [] => .gt
  | a :: as, b :: bs => (compare a b).then (orderSegments as bs)

theorem orderSegments_eq_compareLex (p q : List String) :
    orderSegments p q = List.compareLex compare p q := by
  induction p generalizing q with
  | nil => cases q <;> rfl
  | cons n p ih =>
    cases q with
    | nil => rfl
    | cons k q => rw [orderSegments, List.compareLex_cons_cons, ih]

instance : Std.TransCmp orderSegments := by
  rw [show orderSegments = List.compareLex compare from
    funext fun p => funext fun q => orderSegments_eq_compareLex p q]
  infer_instance

instance : Std.LawfulEqCmp orderSegments := by
  rw [show orderSegments = List.compareLex compare from
    funext fun p => funext fun q => orderSegments_eq_compareLex p q]
  infer_instance

/-- Packages by their segments. -/
abbrev PackageMap := Std.TreeMap (List String) PackageContents orderSegments

namespace PackageMap

def contents (m : PackageMap) (package : List String) : PackageContents :=
  m[package]?.getD {}

/-- Declares each package below `above` in the one before it. -/
def addChildren (m : PackageMap) (above : List String) : List String → PackageMap
  | [] => m
  | segment :: rest =>
    let here := m.contents above
    addChildren (m.insert above { here with children := here.children.insert segment })
      (above ++ [segment]) rest

/-- Declares an artifact's packages and its module, which may not stand in its
package yet. -/
def addArtifact (m : PackageMap) (a : Artifact) : Except GenerateError PackageMap :=
  let m := m.addChildren [] a.segments
  let here := m.contents a.segments
  if here.modules.contains a.module_ then
    .error (.invalidIdentifier ("a second module in the package of '" ++ a.fqn ++ "'") a.module_)
  else .ok (m.insert a.segments { here with modules := here.modules.insert a.module_ })

/-- The packages of a list of artifacts; the root is always one. -/
def ofArtifacts (artifacts : List Artifact) : Except GenerateError PackageMap :=
  artifacts.foldlM addArtifact (({} : PackageMap).insert [] {})

end PackageMap

namespace PackageContents

/-- The first name that is both a module and a sub-package. -/
def shadowed? (c : PackageContents) : Option String :=
  c.modules.toList.find? c.children.contains

/-- Sub-packages first, then modules, each in name order. -/
def names (c : PackageContents) : List String := c.children.toList ++ c.modules.toList

end PackageContents

/-- A module may not have the name of a sub-package. -/
def checkShadowing : List (List String × PackageContents) → Except GenerateError Unit
  | [] => .ok ()
  | (package, contents) :: rest =>
    match contents.shadowed? with
    | some name => .error (.invalidIdentifier
        ("a module that is also a sub-package of '" ++ ".".intercalate package ++ "'") name)
    | none => checkShadowing rest

/-- The file that declares modules of these names. -/
def indexFile (names : List String) : Code.File := { items := names.map (.submodule "pub ") }

/-- The index of one package. -/
def moduleIndex (entry : List String × PackageContents) : Except GenerateError Artifact := do
  let (package, contents) := entry
  let names ← contents.names.mapM fun name => checkedIdent name ("module '" ++ name ++ "'")
  Artifact.render (package.getLast?.getD moduleIndexName)
    (if package.isEmpty then none else some (".".intercalate package)) .moduleIndex
    (indexFile names)

/-- One index per package, in the order of packages. -/
def moduleIndexes (artifacts : List Artifact) : Except GenerateError (List Artifact) := do
  let packages ← PackageMap.ofArtifacts artifacts
  checkShadowing packages.toList
  packages.toList.mapM moduleIndex

end Generate
end TypedGraph
