/-
Accessors: what is generated for a class.

An accessor is planned first and written afterwards.  The plan holds one entry
per property, with its constants and the methods that reach it, and from the
entries follow the groups of attributes that are indexed together.  Planning
checks every name; writing the plan cannot fail.
-/
import TypedGraph.Generate.Scope

namespace TypedGraph
namespace Generate

open Schema (QualifiedName Index Model Property Primitive)
open Code (Path)

/-- The index that an attribute is registered under, with its method. -/
structure Cover where
  index : Index
  method : String

/-- Getter and setter of an attribute that the node stores. -/
structure PlainAccess where
  getter : String
  setter : String
  cover : Option Cover

/-- Getter and setter of an attribute that a learner node extrapolates. -/
structure LearnedAccess where
  getter : String
  setter : String
  algorithm : String
  parameters : List (String × String)

/-- The methods of the other end that keep both ends of a relation in step. -/
structure OppositeCalls where
  add : String
  remove : String
deriving DecidableEq, Repr

structure RelationAccess where
  target : Path
  getter : String
  add : String
  remove : String
  opposite : Option OppositeCalls
  /-- Methods that change this end alone, for the other end to call. -/
  internal : Option OppositeCalls

inductive Access
  | none
  | plain (a : PlainAccess)
  | learned (a : LearnedAccess)
  | relation (a : RelationAccess)

/-- Constant that holds the type tag of an attribute. -/
structure TypeConstant where
  name : String
  primitive : Primitive
deriving DecidableEq, Repr

structure PropertyPlan where
  property : Property
  /-- Constant that holds the property's name. -/
  constant : String
  typeConstant : Option TypeConstant
  access : Access

/-- Attributes registered under one index. -/
structure IndexGroup where
  index : Index
  method : String
  /-- The name constants of the attributes, in property order. -/
  members : List String

/-- A group with the constant of its index on the model facade. -/
structure IndexMethod where
  group : IndexGroup
  facade : Path
  constant : String

structure Accessor where
  ident : QualifiedName
  typeName : String
  nodeName : String
  /-- The accessor of the parent; without one, the runtime's own node. -/
  base : Option Path
  properties : List PropertyPlan
  indexMethods : List IndexMethod

/-- Constant that every accessor has. -/
def nodeNameConstant : String := "NODE_NAME"

namespace Scope

variable (s : Scope)

/-- Adds a constant to the declared ones, where it may not stand yet. -/
def declare (c : Schema.Class) (p : Property) (constant : String) (declared : List String) :
    Except GenerateError (List String) :=
  if declared.contains constant then
    .error (.invalidIdentifier
      ("a second constant on '" ++ c.fqn ++ "', from property '" ++ p.name ++ "'") constant)
  else .ok (constant :: declared)

/-- Name and accessor type of the class that a relation leads to; a relation to
a primitive leads nowhere. -/
def relationTarget (p : Property) : Traced GenerateError (Option (String × Path)) :=
  match p.typeRef with
  | .primitive _ => return none
  | .classifier fqn => do
    let ident ← match s.model.get? fqn with
      | some c => pure c.ident
      | none => do
        Traced.log (.targetMissing p.name fqn)
        Traced.of ((QualifiedName.parse fqn).mapError .schema)
    return some (fqn, ← Traced.of (s.classifierPath ident))

/-- The stored relation at the other end that a relation declares. -/
def storedOpposite (p : Property) (target : String) : Option String :=
  p.opposite.filter fun opposite =>
    match s.model.findProperty target opposite with
    | some (_, found) => found.isRelation && found.isStored
    | none => false

def oppositeCalls (p : Property) (target : String) :
    Traced GenerateError (Option OppositeCalls) :=
  match p.opposite with
  | none => return none
  | some opposite =>
    match s.storedOpposite p target with
    | some _ => do
      let add ← checkedIdent (methodName "internal_add_to" opposite) "an opposite mutator"
      let remove ← checkedIdent (methodName "internal_remove_from" opposite) "an opposite mutator"
      return some { add, remove }
    | none => do
      Traced.log (.oppositeUnstored p.name target opposite)
      return none

/-- Whether some relation names this one as its opposite. -/
def namedAsOpposite (c : Schema.Class) (p : Property) : Bool :=
  s.model.classes.any fun other => other.properties.any fun r =>
    r.isRelation && r.opposite == some p.name &&
      (s.model.findProperty r.type p.name).any fun found => found.1.fqn == c.fqn

/-- A relation that takes part in a pair has internal mutators. -/
def needsInternal (c : Schema.Class) (p : Property) : Bool :=
  p.opposite.isSome || s.namedAsOpposite c p

def internalCalls (c : Schema.Class) (p : Property) :
    Except GenerateError (Option OppositeCalls) := do
  if s.needsInternal c p then
    let add ← checkedIdent (methodName "internal_add_to" p.name) "an internal relation mutator"
    let remove ←
      checkedIdent (methodName "internal_remove_from" p.name) "an internal relation mutator"
    return some { add, remove }
  else return none

def planRelation (c : Schema.Class) (p : Property) : Traced GenerateError Access := do
  match ← s.relationTarget p with
  | none => do
    Traced.log (.primitiveTarget c.fqn p.name p.type)
    return .none
  | some (fqn, target) => do
    let getter ← checkedIdent (methodName "get" p.name) "a relation getter"
    let add ← checkedIdent (methodName "add_to" p.name) "a relation mutator"
    let remove ← checkedIdent (methodName "remove_from" p.name) "a relation mutator"
    let opposite ← s.oppositeCalls p fqn
    let internal ← s.internalCalls c p
    return .relation { target, getter, add, remove, opposite, internal }

/-- The earliest registered index that covers a property, with its method. -/
def cover (c : Schema.Class) (p : Property) : Except GenerateError (Option Cover) :=
  match s.model.indexesOf c.fqn p.name with
  | [] => return none
  | index :: _ => do
    let method ← checkedIdent (methodName "index" index.name) ("index '" ++ index.fqn ++ "'")
    return some { index, method }

def planAttribute (c : Schema.Class) (p : Property) : Traced GenerateError Access := do
  if !p.isStored then
    Traced.log (.attributeNotStored c.fqn p.name)
    return .none
  match p.algorithm with
  | some algorithm =>
    let getter ← checkedIdent (methodName "get" p.name) "a getter"
    let setter ← checkedIdent (methodName "set" p.name) "a setter"
    return .learned { getter, setter, algorithm, parameters := p.parameters.toList }
  | none =>
    let cover ← s.cover c p
    let getter ← checkedIdent (methodName "get" p.name) "a getter"
    let setter ← checkedIdent (methodName "set" p.name) "a setter"
    return .plain { getter, setter, cover }

/-- The entry of a property, and the constants declared with it. -/
def planProperty (c : Schema.Class) (declared : List String) (p : Property) :
    Traced GenerateError (PropertyPlan × List String) := do
  let constant ← constantIdent p
  let declared ← declare c p constant declared
  match p.kind with
  | .attribute =>
    let primitive ← attributePrimitive c p
    let name ← checkedIdent (typeConstantName p.name) ("the type constant of '" ++ p.name ++ "'")
    let declared ← declare c p name declared
    let access ← s.planAttribute c p
    return ({ property := p, constant, typeConstant := some { name, primitive }, access }, declared)
  | .relation =>
    if !p.isStored then
      Traced.log (.relationNotStored c.fqn p.name)
      return ({ property := p, constant, typeConstant := none, access := .none }, declared)
    let access ← s.planRelation c p
    return ({ property := p, constant, typeConstant := none, access }, declared)

def planProperties (c : Schema.Class) (declared : List String) :
    List Property → Traced GenerateError (List PropertyPlan)
  | [] => return []
  | p :: rest => do
    let (plan, declared) ← s.planProperty c declared p
    return plan :: (← planProperties c declared rest)

end Scope

/-! ## Index groups -/

/-- The cover of a property that is a plain attribute. -/
def PropertyPlan.cover (p : PropertyPlan) : Option Cover :=
  match p.access with
  | .plain a => a.cover
  | _ => none

/-- Adds an attribute to the group of its index, which it opens if need be. -/
def joinGroup (cover : Cover) (constant : String) : List IndexGroup → List IndexGroup
  | [] => [{ index := cover.index, method := cover.method, members := [constant] }]
  | g :: rest =>
    if g.index.fqn = cover.index.fqn then { g with members := g.members ++ [constant] } :: rest
    else g :: joinGroup cover constant rest

/-- The groups of a list of entries, in the order of their first members. -/
def indexGroups (plans : List PropertyPlan) : List IndexGroup :=
  plans.foldl (fun groups p =>
    match p.cover with
    | some cover => joinGroup cover p.constant groups
    | none => groups) []

namespace Scope

variable (s : Scope)

def planIndexMethod (group : IndexGroup) : Except GenerateError IndexMethod := do
  let facade ← s.modelPath
  let constant ← checkedIdent (indexConstantName group.index.name)
    ("index '" ++ group.index.fqn ++ "'")
  return { group, facade, constant }

/-- The accessor of a class. -/
def planAccessor (c : Schema.Class) : Traced GenerateError Accessor := do
  let typeName ← checkedIdent c.name ("class '" ++ c.fqn ++ "'")
  (s.parentEvents c).forM Traced.log
  let base ← (s.resolvedParent c).mapM fun parent => Traced.of (s.classifierPath parent.ident)
  let properties ← s.planProperties c [nodeNameConstant] c.properties
  let indexMethods ← Traced.of ((indexGroups properties).mapM s.planIndexMethod)
  return {
    ident := c.ident, typeName, nodeName := nodeName c.ident, base, properties, indexMethods }

end Scope

end Generate
end TypedGraph
