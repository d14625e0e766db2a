/-
Properties of classes.

A property is an attribute, whose declared type should name a primitive, or a
relation, whose declared type names a class.  Its flags only ever go from unset
to set, and it is stored on the node unless it is derived or learned.
-/
import Std.Data.TreeMap

namespace TypedGraph
namespace Schema

/-- Scalar kinds that a node stores directly. -/
inductive Primitive
  | boolean
  | double
  | integer
  | long
  | string
deriving DecidableEq, Repr

namespace Primitive

def all : List Primitive := [.boolean, .double, .integer, .long, .string]

/-- The declared type name, which is matched exactly. -/
def name : Primitive → String
  | .boolean => "Boolean"
  | .double => "Double"
  | .integer => "Integer"
  | .long => "Long"
  | .string => "String"

/-- Name of the store's type tag. -/
def tag : Primitive → String
  | .boolean => "BOOL"
  | .double => "DOUBLE"
  | .integer => "INT"
  | .long => "LONG"
  | .string => "STRING"

/-- Name of the value type in generated code. -/
def valueType : Primitive → String
  | .boolean => "bool"
  | .double => "f64"
  | .integer => "i32"
  | .long => "i64"
  | .string => "String"

def ofName? (name : String) : Option Primitive := all.find? (·.name == name)

theorem ofName?_name (p : Primitive) : ofName? p.name = some p := by
  cases p <;> decide

theorem name_of_ofName? {s : String} {p : Primitive} (h : ofName? s = some p) : p.name = s := by
  simpa using List.find?_some h

end Primitive

/-- What a declared type refers to. -/
inductive TypeRef
  | primitive (p : Primitive)
  | classifier (fqn : String)
deriving DecidableEq, Repr

namespace TypeRef

/-- What names no primitive is taken as the name of a classifier. -/
def resolve (declared : String) : TypeRef :=
  match Primitive.ofName? declared with
  | some p => .primitive p
  | none => .classifier declared

def primitive? : TypeRef → Option Primitive
  | .primitive p => some p
  | .classifier _ => none

end TypeRef

inductive PropertyKind
  | attribute
  | relation
deriving DecidableEq, Repr

namespace PropertyKind

def name : PropertyKind → String
  | .attribute => "attribute"
  | .relation => "relation"

end PropertyKind

/-- Parameter that names the relation at the other end. -/
def oppositeParameter : String := "opposite"

structure Property where
  name : String
  /-- The type as declared. -/
  type : String
  kind : PropertyKind
  algorithm : Option String := none
  dependencies : List String := []
  parameters : Std.TreeMap String String := {}
  derived : Bool := false
  learned : Bool := false
  isGlobal : Bool := false

namespace Property

def typeRef (p : Property) : TypeRef := .resolve p.type

def setAlgorithm (p : Property) (algorithm : String) : Property :=
  { p with algorithm := some algorithm }

def addDependency (p : Property) (path : String) : Property :=
  { p with dependencies := p.dependencies ++ [path] }

/-- The last value given for a parameter counts. -/
def addParameter (p : Property) (key value : String) : Property :=
  { p with parameters := p.parameters.insert key value }

def setDerived (p : Property) : Property := { p with derived := true }

def setLearned (p : Property) : Property := { p with learned := true }

def setGlobal (p : Property) : Property := { p with isGlobal := true }

/-- Name of the relation at the other end, if declared. -/
def opposite (p : Property) : Option String := p.parameters[oppositeParameter]?

def isStored (p : Property) : Bool := !p.derived && !p.learned

def isAttribute (p : Property) : Bool := p.kind == .attribute

def isRelation (p : Property) : Bool := p.kind == .relation

/-- Properties are ordered, and equal, by name alone. -/
def order (p q : Property) : Ordering := compare p.name q.name

end Property

end Schema
end TypedGraph
