/-
The classes of the sample model and their accessors.

A person has a name, an email address, an age, a mood that is learned, a
nickname that is derived, and owns cars.  A student is a person with a school.
A car has a plate, seats and owners.
-/
import TypedGraph.Nodes.Gate
import TypedGraph.Nodes.Learner

namespace TypedGraph
namespace Sample

open Nodes (Accessor Gate Node Value ValueKind)

inductive ClassName
  | person
  | student
  | car
deriving DecidableEq, Repr

namespace ClassName

def all : List ClassName := [.person, .student, .car]

def name : ClassName → String
  | .person => "Person"
  | .student => "Student"
  | .car => "Car"

/-- Name that the store knows the class by. -/
def nodeName (c : ClassName) : String := "sample." ++ c.name

def accessor (c : ClassName) : Accessor := .ofClass c.nodeName

/-- The class whose accessor this one continues. -/
def parent? : ClassName → Option ClassName
  | .student => some .person
  | _ => none

def ofAccessor? (a : Accessor) : Option ClassName := all.find? (·.accessor == a)

/-- Whether an accessor of this class can stand for one of the other. -/
def isA (c other : ClassName) : Bool := c == other || c.parent? == some other

/-- Whether the node's own accessor can stand for one of the class. -/
def isNodeOf (n : Node) (c : ClassName) : Bool := (ofAccessor? n.accessor).any (·.isA c)

end ClassName

/-! ## Attributes -/

inductive Attribute
  | name
  | email
  | age
  | mood
  | nickname
  | school
  | enrolled
  | plate
  | seats
deriving DecidableEq, Repr

namespace Attribute

def all : List Attribute :=
  [.name, .email, .age, .mood, .nickname, .school, .enrolled, .plate, .seats]

/-- Name in the store. -/
def key : Attribute → String
  | .name => "name"
  | .email => "email"
  | .age => "age"
  | .mood => "mood"
  | .nickname => "nickname"
  | .school => "school"
  | .enrolled => "enrolled"
  | .plate => "plate"
  | .seats => "seats"

def kind : Attribute → ValueKind
  | .name | .email | .nickname | .school | .plate => .text
  | .age => .long
  | .mood => .double
  | .enrolled => .bool
  | .seats => .int

/-- The class that declares the attribute. -/
def owner : Attribute → ClassName
  | .name | .email | .age | .mood | .nickname => .person
  | .school | .enrolled => .student
  | .plate | .seats => .car

/-- Whether there are accessors for the attribute. -/
def isStored (a : Attribute) : Bool := a != .nickname

/-- The attributes that a class declares. -/
def ofClass (c : ClassName) : List Attribute := all.filter (·.owner == c)

/-- The attribute of a name that a node's own accessor reads and writes. -/
def ofNode? (n : Node) (key : String) : Option Attribute :=
  all.find? fun a => a.key == key && a.isStored && ClassName.isNodeOf n a.owner

end Attribute

/-! ## The learned attribute -/

namespace Mood

def key : String := Attribute.key .mood

/-- Settings of a new learner. -/
def parameters : List (String × Value) :=
  [("degree", .int 2), ("precision", .double (.ofDecimal false 5 (-1)))]

def learner? (g : Nodes.Graph) (n : Node) : Option Node := Nodes.Learner.first? (g.related n key)

/-- The graph after a read, and the gate at which the getter waits. -/
def read (g : Nodes.Graph) (n : Node) : Nodes.Graph × Gate :=
  match learner? g n with
  | some learner =>
    (g, (Gate.new 1).wrap ((Nodes.Learner.extrapolate g learner .double).map Value.double))
  | none => (g, (Gate.new 1).wrap none)

/-- The extrapolated value; there is none before the first write. -/
def get (g : Nodes.Graph) (n : Node) : Option Number.Double :=
  ((read g n).2.take ValueKind.double).1

/-- A learner that is set up and related to its owner. -/
def newLearner (g : Nodes.Graph) (n : Node) : Option Node × Nodes.Graph :=
  let (created, g) := g.newNode n.world n.time Nodes.Learner.nodeName
  let g := parameters.foldl (fun g (name, value) => g.setParameter created name value) g
  (created.downcast? .learner, g.addToRelation n key created)

/-- The graph after a write, and the gate at which the setter waits. -/
def write (g : Nodes.Graph) (n : Node) (value : Number.Double) : Nodes.Graph × Gate :=
  let (learner, g) := match learner? g n with
    | some learner => (some learner, g)
    | none => newLearner g n
  match learner with
  | some learner => (Nodes.Learner.learn g learner (.double value), (Gate.new 1).count)
  | none => (g, (Gate.new 1).count)

def set (g : Nodes.Graph) (n : Node) (value : Number.Double) : Nodes.Graph := (write g n value).1

end Mood

/-! ## Accessors of attributes -/

/-- A getter.  The derived attribute has none. -/
def get (g : Nodes.Graph) (n : Node) (a : Attribute) : Option a.kind.type :=
  match a with
  | .mood => Mood.get g n
  | a => g.get n a.key a.kind

/-- A setter.  The derived attribute has none. -/
def set (g : Nodes.Graph) (n : Node) (a : Attribute) (value : a.kind.type) :
    Except Nodes.Graph.TagMismatch Nodes.Graph :=
  match a, value with
  | .mood, value => .ok (Mood.set g n value)
  | a, value => g.set n a.key a.kind.tag (.of a.kind value)

/-! ## Relations -/

inductive Relation
  | owns
  | ownedBy
deriving DecidableEq, Repr

namespace Relation

def all : List Relation := [.owns, .ownedBy]

def key : Relation → String
  | .owns => "owns"
  | .ownedBy => "ownedBy"

/-- The relation at the other end. -/
def opposite : Relation → Relation
  | .owns => .ownedBy
  | .ownedBy => .owns

def owner : Relation → ClassName
  | .owns => .person
  | .ownedBy => .car

def target (r : Relation) : ClassName := r.opposite.owner

/-- The relations that a class declares. -/
def ofClass (c : ClassName) : List Relation := all.filter (·.owner == c)

/-- The relation of a name that a node's own accessor follows. -/
def ofNode? (n : Node) (key : String) : Option Relation :=
  all.find? fun r => r.key == key && ClassName.isNodeOf n r.owner

end Relation

/-- The related nodes of the target's own accessor type. -/
def related (g : Nodes.Graph) (n : Node) (r : Relation) : List Node :=
  (g.related n r.key).filterMap (·.downcast? r.target.accessor)

/-- Relates two nodes, at both ends. -/
def addTo (g : Nodes.Graph) (n : Node) (r : Relation) (other : Node) : Nodes.Graph :=
  (g.addToRelation n r.key other).addToRelation other r.opposite.key n

/-- Takes a relation between two nodes away, at both ends. -/
def removeFrom (g : Nodes.Graph) (n : Node) (r : Relation) (other : Node) : Nodes.Graph :=
  (g.removeFromRelation n r.key other).removeFromRelation other r.opposite.key n

/-! ## The index -/

/-- Name of the index of email addresses. -/
def emailIndex : String := "byEmail"

def emailMembers : List String := [Attribute.key .email]

/-- The graph after a person has entered the index anew, and the gate at which
the call waits. -/
def enterByEmail (g : Nodes.Graph) (n : Node) : Nodes.Graph × Gate :=
  let (index, g) := g.index n.world n.time emailIndex
  let g := g.removeFromIndex index n
  (g.addToIndex index n emailMembers, (Gate.new 1).count)

def indexByEmail (g : Nodes.Graph) (n : Node) : Nodes.Graph := (enterByEmail g n).1

end Sample
end TypedGraph
