/-
Likely mistakes in a model.

A diagnostic rejects nothing.  `Model.diagnostics` reports, in name order, first
the classes whose declared parent is missing or whose chain of parents never
ends, and then the relations whose target or opposite does not resolve.
-/
import TypedGraph.Schema.Model

namespace TypedGraph
namespace Schema

inductive Finding
  | parentMissing (parent : String)
  | inheritanceCycle
  | primitiveTarget (p : Primitive)
  | targetNotClass (target : String)
  | targetMissing (target : String)
  | oppositeNotRelation (opposite target : String)
  | oppositeMissing (opposite target : String)
deriving DecidableEq, Repr

namespace Finding

def message : Finding → String
  | .parentMissing parent => "parent class '" ++ parent ++ "' is not in the model"
  | .inheritanceCycle => "inheritance chain contains a cycle"
  | .primitiveTarget p => "relation targets primitive type '" ++ p.name ++ "'"
  | .targetNotClass target => "relation target '" ++ target ++ "' is not a class"
  | .targetMissing target => "relation target '" ++ target ++ "' is not in the model"
  | .oppositeNotRelation opposite target =>
    "opposite '" ++ opposite ++ "' on '" ++ target ++ "' is not a relation"
  | .oppositeMissing opposite target =>
    "opposite '" ++ opposite ++ "' is missing on '" ++ target ++ "'"

end Finding

/-- A finding and the class or property it is about. -/
structure Diagnostic where
  route : String
  finding : Finding
deriving DecidableEq, Repr

namespace Diagnostic

def display (d : Diagnostic) : String := d.route ++ ": " ++ d.finding.message

end Diagnostic

namespace Model

/-- A chain whose last class still has a registered parent has looped. -/
def loops (m : Model) (c : Class) : Bool :=
  match (m.parentChain c.fqn).getLast? with
  | some last => (m.parentOf last).isSome
  | none => false

def parentFinding? (m : Model) (c : Class) : Option Finding :=
  match c.parent with
  | none => none
  | some parent =>
    if (m.class? parent).isNone then some (.parentMissing parent)
    else if m.loops c then some .inheritanceCycle
    else none

def oppositeFinding? (m : Model) (target opposite : String) : Option Finding :=
  match m.findProperty target opposite with
  | some (_, p) => if p.isRelation then none else some (.oppositeNotRelation opposite target)
  | none => some (.oppositeMissing opposite target)

def relationFinding? (m : Model) (p : Property) : Option Finding :=
  match p.typeRef with
  | .primitive q => some (.primitiveTarget q)
  | .classifier target =>
    match m.get? target with
    | none => some (.targetMissing target)
    | some (.ofClass _) => p.opposite.bind (m.oppositeFinding? target)
    | some _ => some (.targetNotClass target)

def parentDiagnostics (m : Model) : List Diagnostic :=
  m.classes.filterMap fun c => (m.parentFinding? c).map (⟨c.fqn, ·⟩)

def relationDiagnostics (m : Model) : List Diagnostic :=
  m.classes.flatMap fun c => (c.properties.filter (·.isRelation)).filterMap fun p =>
    (m.relationFinding? p).map (⟨c.fqn ++ "." ++ p.name, ·⟩)

def diagnostics (m : Model) : List Diagnostic := m.parentDiagnostics ++ m.relationDiagnostics

end Model

end Schema
end TypedGraph
