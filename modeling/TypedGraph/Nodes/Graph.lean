/-
Graphs of typed nodes.

A graph is a store with the accessor types that plugins registered for the types
of nodes.  A handle is a node at a world and a time, seen through the accessor
that its type is registered with, or else through the plain one.
-/
import TypedGraph.Nodes.Query

namespace TypedGraph
namespace Nodes

/-- The type that a handle is seen through. -/
inductive Accessor
  | base
  /-- A node that learns. -/
  | learner
  | ofClass (nodeName : String)
deriving DecidableEq, Repr

/-- Type name that the plain accessor goes by. -/
def baseName : String := "BaseNode"

/-- A handle. -/
structure Node where
  world : Int
  time : Int
  id : Int
  accessor : Accessor := .base
deriving DecidableEq, Repr

namespace Node

/-- The handle, if it is seen through an accessor type. -/
def downcast? (n : Node) (a : Accessor) : Option Node := if n.accessor = a then some n else none

end Node

/-- A plugin registers accessor types when it is started, and may note when it
is started and stopped. -/
structure Plugin where
  factories : List (String × Accessor) := []
  /-- What is noted at the start, where the graph may be connected. -/
  startNotes : Bool → List String := fun _ => []
  stopNotes : List String := []

/-- A plugin that notes its starts and stops. -/
def Plugin.recording (name : String) : Plugin :=
  { startNotes := fun connected =>
      ["start " ++ name ++ " connected=" ++ (if connected then "true" else "false")]
    stopNotes := ["stop " ++ name] }

structure Graph where
  store : Store := {}
  factories : Std.TreeMap String Accessor := {}
  plugins : List Plugin := []
  /-- What plugins noted. -/
  notes : List String := []

namespace Graph

/-- Registers the accessor types of a plugin; the last one for a type counts. -/
def start (g : Graph) (p : Plugin) : Graph :=
  { g with
    factories := p.factories.foldl (fun fs (name, a) => fs.insert name a) g.factories
    notes := g.notes ++ p.startNotes g.store.connected }

/-- A graph whose plugins are started in order. -/
def build (plugins : List Plugin) : Graph := plugins.foldl start { plugins }

def note (g : Graph) (text : String) : Graph := { g with notes := g.notes ++ [text] }

/-! ## Connection -/

def isConnected (g : Graph) : Bool := g.store.connected

/-- Connecting succeeds. -/
def connect (g : Graph) : Bool × Graph :=
  (true, { g with store := { g.store with connected := true } })

/-- Stops the plugins in order. -/
def disconnect (g : Graph) : Bool × Graph :=
  (true, { g with
    store := { g.store with connected := false }
    notes := g.notes ++ g.plugins.flatMap (·.stopNotes) })

/-- Only a connected graph can be saved. -/
def save (g : Graph) : Bool := g.isConnected

def fork (g : Graph) : Int × Graph :=
  match g.store.fork with
  | (world, store) => (world, { g with store })

/-! ## Nodes -/

def accessorOf (g : Graph) (typeName : String) : Accessor :=
  g.factories[typeName]?.getD .base

/-- A handle on a node of a type. -/
def handle (g : Graph) (world time id : Int) (typeName : String) : Node :=
  { world, time, id, accessor := g.accessorOf typeName }

/-- Stores a node of a type. -/
def newNode (g : Graph) (world time : Int) (typeName : String) : Node × Graph :=
  match g.store.create typeName with
  | (id, store) => (g.handle world time id typeName, { g with store })

/-- A handle on a stored node. -/
def lookup (g : Graph) (world time id : Int) : Option Node :=
  (g.store.typeOf? id).map (g.handle world time id)

/-- Handles on the stored nodes that a relation leads to, at the world and time
of the handle it starts from. -/
def related (g : Graph) (n : Node) (name : String) : List Node :=
  (g.store.targets n.id name).filterMap (g.lookup n.world n.time)

def attribute? (g : Graph) (n : Node) (name : String) : Option Value :=
  g.store.attribute? n.id name

/-- An attribute read as a kind of value. -/
def get (g : Graph) (n : Node) (name : String) (k : ValueKind) : Option k.type :=
  (g.attribute? n name).bind (Value.as? k)

/-- A value is not of the kind that it was announced as. -/
structure TagMismatch where
  name : String
  found : Nat
  announced : Nat
deriving DecidableEq, Repr

namespace TagMismatch

def message (m : TagMismatch) : String :=
  "assertion \x60left == right\x60 failed: type tag of '" ++ m.name ++ "'\n  left: " ++
    toString m.found ++ "\n right: " ++ toString m.announced

end TagMismatch

/-- Writes an attribute of any kind. -/
def setParameter (g : Graph) (n : Node) (name : String) (value : Value) : Graph :=
  { g with store := g.store.setAttribute n.id name value }

/-- Writes an attribute that is announced by the tag of its kind. -/
def set (g : Graph) (n : Node) (name : String) (tag : Nat) (value : Value) :
    Except TagMismatch Graph :=
  if value.tag = tag then .ok (g.setParameter n name value)
  else .error ⟨name, value.tag, tag⟩

def addToRelation (g : Graph) (n : Node) (name : String) (other : Node) : Graph :=
  { g with store := g.store.link n.id name other.id }

def removeFromRelation (g : Graph) (n : Node) (name : String) (other : Node) : Graph :=
  { g with store := g.store.unlink n.id name other.id }

end Graph

/-! ## Indexes -/

/-- An index at a world and a time. -/
structure NodeIndex where
  name : String
  world : Int
  time : Int
deriving DecidableEq, Repr

namespace Graph

/-- The index of a name, which is made if it is not there. -/
def index (g : Graph) (world time : Int) (name : String) : NodeIndex × Graph :=
  (⟨name, world, time⟩, { g with store := g.store.ensureIndex name })

def indexIfExists (g : Graph) (world time : Int) (name : String) : Option NodeIndex :=
  if g.store.hasIndex name then some ⟨name, world, time⟩ else none

def addToIndex (g : Graph) (i : NodeIndex) (n : Node) (attributes : List String) : Graph :=
  { g with store := g.store.enter i.name n.id attributes }

def removeFromIndex (g : Graph) (i : NodeIndex) (n : Node) : Graph :=
  { g with store := g.store.leave i.name n.id }

/-- The stored nodes with entries that satisfy a condition. -/
def entered (g : Graph) (i : NodeIndex) (condition : IndexEntry → Bool) : List Node :=
  (g.store.entered i.name condition).filterMap (g.lookup i.world i.time)

def find (g : Graph) (i : NodeIndex) (query : String) : List Node :=
  g.entered i (Query.parse query).holds

def findAll (g : Graph) (i : NodeIndex) : List Node := g.entered i fun _ => true

end Graph

end Nodes
end TypedGraph
