/-
The written form of models.

A document lists definitions of classes, enumerations and indexes.  Reading one
adds its definitions to a builder in the order they are written.
-/
import TypedGraph.Data.Decode
import TypedGraph.Data.JsonReader
import TypedGraph.Files.Path
import TypedGraph.Schema.Builder

namespace TypedGraph
namespace Schema

open Data (Tree Decoder DecodeError Shape)

structure PropertyDefinition where
  name : String := ""
  type : String := ""
  kind : PropertyKind := .attribute
  algorithm : Option String := none
  derived : Bool := false
  learned : Bool := false
  isGlobal : Bool := false
  parameters : Std.TreeMap String String := {}
  dependencies : List String := []

structure ClassDefinition where
  name : String := ""
  parent : Option String := none
  properties : List PropertyDefinition := []

structure EnumDefinition where
  name : String := ""
  literals : List String := []

structure IndexDefinition where
  name : String := ""
  className : String := ""
  properties : List String := []

inductive Definition
  | ofClass (d : ClassDefinition)
  | ofEnum (d : EnumDefinition)
  | ofIndex (d : IndexDefinition)

/-- The kinds of definitions. -/
inductive DefinitionKind
  | class_
  | enum
  | index
deriving DecidableEq, Repr

namespace DefinitionKind

def names : List (String × DefinitionKind) :=
  [("class", .class_), ("enum", .enum), ("index", .index)]

/-- The kind stands as a text. -/
def read : Decoder DefinitionKind
  | .text s =>
    match names.lookup s with
    | some kind => .ok kind
    | none => .error (.unknownVariant s (names.map (·.1)))
  | t => .error (t.mismatch "variant identifier")

end DefinitionKind

namespace PropertyKind

def read : Decoder PropertyKind :=
  Tree.choice Tree.isNullOrEmpty [("attribute", .attribute), ("relation", .relation)]

end PropertyKind

namespace PropertyDefinition

/-- The last value written for a parameter counts. -/
def shape : Shape PropertyDefinition where
  name := "struct PropertyDef"
  surplus := .counted
  fields := [
    (Data.Field.of "kind" PropertyKind.read fun kind d => { d with kind }).must,
    (Data.Field.of "name" Tree.text? fun name d => { d with name }).must,
    (Data.Field.of "type" Tree.text? fun type d => { d with type }).must,
    .of "algorithm" (Tree.optional Tree.text?) fun algorithm d => { d with algorithm },
    .of "derived" Tree.boolean? fun derived d => { d with derived },
    .of "learned" Tree.boolean? fun learned d => { d with learned },
    .of "global" Tree.boolean? fun isGlobal d => { d with isGlobal },
    .of "parameters" (Tree.entries Tree.text?) fun es d =>
      { d with parameters := es.foldl (fun ps (key, value) => ps.insert key value) {} },
    .of "dependencies" (Tree.items Tree.text?) fun dependencies d => { d with dependencies }]

def read : Decoder PropertyDefinition := shape.read {}

/-- The defined property, which starts with no flag set and gets what else the
definition has. -/
def toProperty (d : PropertyDefinition) : Property :=
  let p : Property := { name := d.name, type := d.type, kind := d.kind }
  let p := d.algorithm.elim p p.setAlgorithm
  let p := if d.derived then p.setDerived else p
  let p := if d.learned then p.setLearned else p
  let p := if d.isGlobal then p.setGlobal else p
  let p := d.parameters.foldl Property.addParameter p
  d.dependencies.foldl Property.addDependency p

end PropertyDefinition

namespace ClassDefinition

def shape : Shape ClassDefinition where
  name := "struct ClassDef"
  surplus := .counted
  fields := [
    (Data.Field.of "name" Tree.text? fun name d => { d with name }).must,
    .of "parent" (Tree.optional Tree.text?) fun parent d => { d with parent },
    .of "properties" (Tree.items PropertyDefinition.read)
      fun properties d => { d with properties }]

/-- The defined class.  The last property of a name counts. -/
def toClass (d : ClassDefinition) : Except SchemaError Class := do
  let ident ← QualifiedName.parse d.name
  return d.properties.foldl (fun c p => c.addProperty p.toProperty)
    { ident, parent := d.parent }

end ClassDefinition

namespace EnumDefinition

def shape : Shape EnumDefinition where
  name := "struct EnumDef"
  surplus := .counted
  fields := [
    (Data.Field.of "name" Tree.text? fun name d => { d with name }).must,
    .of "literals" (Tree.items Tree.text?) fun literals d => { d with literals }]

def toEnum (d : EnumDefinition) : Except SchemaError Enumeration := do
  let ident ← QualifiedName.parse d.name
  return { ident, literals := d.literals }

end EnumDefinition

namespace IndexDefinition

def shape : Shape IndexDefinition where
  name := "struct IndexDef"
  surplus := .counted
  fields := [
    (Data.Field.of "name" Tree.text? fun name d => { d with name }).must,
    (Data.Field.of "class" Tree.text? fun className d => { d with className }).must,
    (Data.Field.of "properties" (Tree.items Tree.text?)
      fun properties d => { d with properties }).must]

end IndexDefinition

namespace Definition

/-- Key of the kind. -/
def kindKey : String := "kind"

/-- The definition of a kind, from its other fields. -/
def ofKind (fields : Tree) : DefinitionKind → Except DecodeError Definition
  | .class_ => .ofClass <$> ClassDefinition.shape.read {} fields
  | .enum => .ofEnum <$> EnumDefinition.shape.read {} fields
  | .index => .ofIndex <$> IndexDefinition.shape.read {} fields

/-- Looks for the kind among entries.  The kind is read where it stands, and the
other entries are only gone over. -/
def findKind (found : Option DefinitionKind) :
    List (String × Tree) → Except DecodeError (Option DefinitionKind)
  | [] => .ok found
  | (key, value) :: rest => do
    if key == kindKey then
      if found.isSome then throw (.duplicateField kindKey)
      let kind ← DefinitionKind.read value
      findKind (some kind) rest
    else
      match value.fault? with
      | some f => throw (.fault f)
      | none => findKind found rest

/-- The kind is an entry like the others, or the first item.  The other fields
are read when all of the definition has been gone over. -/
def read : Decoder Definition
  | .mapping entries fault => do
    let found ← findKind none entries
    match fault, found with
    | some f, _ => throw (.fault f)
    | none, none => throw (.missingField kindKey)
    | none, some kind => ofKind (.object (entries.filter (·.1 != kindKey))) kind
  | .sequence [] (some f) => .error (.fault f)
  | .sequence [] none => .error (.missingField kindKey)
  | .sequence (first :: rest) fault => do
    let kind ← DefinitionKind.read first
    match (Tree.sequence rest fault).fault? with
    | some f => throw (.fault f)
    | none => ofKind (.list rest) kind
  | t => .error (t.mismatch "internally tagged enum ClassifierDef")

/-- Adds a definition to a builder.  An index is only noted, and looked into when
the model is built. -/
def addTo (b : ModelBuilder) : Definition → Except SchemaError ModelBuilder
  | .ofClass d => b.addClass <$> d.toClass
  | .ofEnum d => b.addEnum <$> d.toEnum
  | .ofIndex d => .ok (b.addIndex d.name d.className d.properties)

end Definition

/-- A written model. -/
structure Document where
  definitions : List Definition := []

namespace Document

def shape : Shape Document where
  name := "struct Document"
  closed := true
  surplus := .trailing
  fields := [.of "classifiers" (Tree.items Definition.read) fun definitions _ => { definitions }]

/-- The document that a text holds. -/
def parse (source : String) : Except DecodeError Document := do
  let (tree, rest) := Data.Json.read source
  let document ← shape.read {} tree
  Tree.closing document rest

/-- Adds definitions up to the first that has no name. -/
def addAll (b : ModelBuilder) : List Definition → ModelBuilder × Option SchemaError
  | [] => (b, none)
  | d :: rest =>
    match d.addTo b with
    | .ok b => addAll b rest
    | .error e => (b, some e)

end Document

end Schema
end TypedGraph
