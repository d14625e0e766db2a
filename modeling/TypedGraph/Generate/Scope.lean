/-
What every artifact of a run draws on: the model, the settings, and the names
that were checked once for all of them.
-/
import TypedGraph.Code.PathReader
import TypedGraph.Generate.Config
import TypedGraph.Generate.Artifact
import TypedGraph.Schema.Model
import TypedGraph.Trace

namespace TypedGraph
namespace Generate

open Schema (QualifiedName Index Model Property Primitive TypeRef)
open Code (Path)

/-- The identifier that a name holds. -/
def checkedIdent (value context : String) : Except GenerateError String :=
  match Code.identifier? value with
  | some name => .ok name
  | none => .error (.invalidIdentifier context value)

def checkedPath (value context : String) : Except GenerateError Path :=
  match Code.path? value with
  | some path => .ok path
  | none => .error (.invalidPath context value)

/-- Name of a method: a verb and a model name in snake case. -/
def methodName (verb name : String) : String := verb ++ "_" ++ Text.snakeCase name

def typeConstantName (name : String) : String := Text.constantCase name ++ "_TYPE"

def indexConstantName (name : String) : String := "IDX_" ++ Text.constantCase name

/-- The documentation of a generated file. -/
def headerDoc (source : String) : String :=
  " Generated by nodegen from `" ++ source ++ "`. Do not edit."

structure Scope where
  model : Model
  config : Config
  target : QualifiedName
  host : Path
  root : Path

namespace Scope

def of (model : Model) (config : Config) : Except GenerateError Scope := do
  let target ← (QualifiedName.parse config.target).mapError .schema
  let _ ← checkedIdent target.name "the generation target"
  let host ← checkedPath config.host "the host runtime"
  let root ← checkedPath config.root "the module root"
  return { model, config, target, host, root }

variable (s : Scope)

/-- A type of the graph runtime. -/
def hostType (names : List String) : Code.Ty := (s.host.join names).ty

/-- A value of the graph runtime. -/
def hostValue (names : List String) : Code.Expr := .path (s.host.join names)

/-- Package of the global artifacts, or the part of it called `sub`. -/
def targetPackage (sub : Option String) : Option String :=
  match s.target.modulePackage, sub with
  | some base, some sub => some (base ++ "." ++ sub)
  | some base, none => some base
  | none, sub => sub

/-- Name that the store knows a class by. -/
def nodeName (ident : QualifiedName) : String :=
  match ident.modulePackage with
  | some package => package ++ "." ++ ident.name
  | none => ident.name

def pluginName : String := s.target.name ++ "Plugin"

def modelName : String := s.target.name ++ "Model"

/-- Path of the type of an artifact: its package below the root, its module and
its name. -/
def artifactPath (package : Option String) (name : String) : Except GenerateError Path := do
  let segments ← (packageSegments package).mapM fun segment =>
    checkedIdent segment ("package of '" ++ name ++ "'")
  let module_ ← checkedIdent (Text.snakeCase name) ("module of '" ++ name ++ "'")
  let type ← checkedIdent name "a generated type"
  return s.root.join (segments ++ [module_, type])

def classifierPath (ident : QualifiedName) : Except GenerateError Path :=
  s.artifactPath ident.modulePackage ident.name

def modelPath : Except GenerateError Path := s.artifactPath (s.targetPackage none) s.modelName

def pluginPath : Except GenerateError Path := s.artifactPath (s.targetPackage none) s.pluginName

/-- The class that an accessor is built over: the declared parent, unless it is
missing or leads back to the class. -/
def resolvedParent (c : Schema.Class) : Option Schema.Class :=
  match c.parent with
  | none => none
  | some declared =>
    match s.model.class? declared with
    | none => none
    | some parent =>
      if (s.model.parentChain declared).any (·.fqn == c.fqn) then none else some parent

/-- What a class without the parent it declares reports. -/
def parentEvents (c : Schema.Class) : List Event :=
  match c.parent with
  | none => []
  | some declared =>
    if (s.model.class? declared).isNone then [.parentMissing c.fqn declared]
    else if (s.resolvedParent c).isNone then [.inheritanceCycle c.fqn]
    else []

/-- The primitive of an attribute. -/
def attributePrimitive (c : Schema.Class) (p : Property) : Except GenerateError Primitive :=
  match p.typeRef.primitive? with
  | some primitive => .ok primitive
  | none => .error (.unresolvedAttributeType c.fqn p.name p.type)

/-- The class or other name that an index is declared over. -/
def indexedIdent (i : Index) : Except GenerateError QualifiedName :=
  match s.model.class? i.className with
  | some c => .ok c.ident
  | none => (QualifiedName.parse i.className).mapError .schema

/-- Whether some accessor learns. -/
def usesLearning : Bool :=
  s.model.classes.any fun c => c.properties.any fun p =>
    p.isAttribute && p.isStored && p.algorithm.isSome

def constantIdent (p : Property) : Except GenerateError String :=
  checkedIdent (Text.constantCase p.name) ("the constant of '" ++ p.name ++ "'")

end Scope

end Generate
end TypedGraph
