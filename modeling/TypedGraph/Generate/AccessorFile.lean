/-
The source files of accessors.
-/
import TypedGraph.Generate.Accessor

namespace TypedGraph
namespace Generate

open Schema (Primitive)
open Code (Path Ty Expr Stmt Segment Param Member Item Attribute Bound Arm FieldValue)

/-! ## Shapes that files share -/

def i64 : Ty := .name "i64"

def bool : Ty := .name "bool"

def refSelf : Param := .receiver "&self"

def mustUse : Attribute := .mark "must_use"

def derive (names : List String) : Attribute :=
  .mark ("derive(" ++ ", ".intercalate names ++ ")")

/-- A string literal. -/
def literal (text : String) : Expr := .word (Text.quote text)

def selfName : Expr := .name "self"

/-- `move |param: type| body` -/
def moveClosure (param : String) (type : Ty) (body : Expr) : Expr :=
  .closure true [(param, some type)] body

/-- A public method. -/
def method (attributes : List Attribute) (name : String) (params : List Param) (output : Option Ty)
    (body : List Stmt) : Member :=
  .function attributes "pub " { name, params, output } (some body)

/-- A public method that constants may use. -/
def constMethod (attributes : List Attribute) (name : String) (params : List Param)
    (output : Option Ty) (body : List Stmt) : Member :=
  .function attributes "pub " { isConst := true, name, params, output } (some body)

/-- A method of an implemented trait. -/
def traitMethod (name : String) (params : List Param) (output : Option Ty) (body : List Stmt) :
    Member :=
  .function [] "" { name, params, output } (some body)

/-- A public method that hands its result to a callback, which takes values of
the given type. -/
def callbackMethod (name : String) (params : List Param) (argument : Ty) (body : List Stmt) :
    Member :=
  let predicate : Code.Predicate := {
    type := .name "F"
    bounds := [.type (.path false [.callable "FnOnce" [argument] none]), .type (.name "Send"),
      .lifetime "'static"] }
  .function [] "pub "
    { name, params := refSelf :: params ++ [.typed "callback" (.name "F")],
      generics := { params := [{ name := "F" }], predicates := [predicate] } }
    (some body)

/-- `pub const name: &'static str = "text";` -/
def textConstant (visibility name text : String) : Member :=
  .constant visibility name .staticStr (literal text)

namespace Scope

variable (s : Scope)

def nodeType : Ty := s.hostType ["Node"]

/-- The conversion of nodes to a type, as it stands between commas. -/
def downcastTo (type : Ty) : List Expr :=
  Path.asArguments
    { s.host with
      segments := s.host.segments ++ [.plain "Node", .generic "downcast" true [.type type]] }

/-- Hands the nodes of a type among the found ones to the callback. -/
def callbackFound (type : Ty) : Stmt :=
  .run (.call (.name "callback")
    [.dot (.dot (.dot (.name "found") "into_iter" []) "filter_map" (s.downcastTo type))
      "collect" []])

end Scope

/-! ## Accessors -/

namespace Accessor

def constants (p : PropertyPlan) (s : Scope) : List Member :=
  textConstant "pub " p.constant p.property.name ::
    match p.typeConstant with
    | some c => [.constant "pub " c.name (.name "u8") (s.hostValue ["Type", c.primitive.tag])]
    | none => []

def valueType (p : PropertyPlan) : Ty :=
  .name (match p.typeConstant with
    | some c => c.primitive.valueType
    | none => "")

def plainMethods (s : Scope) (p : PropertyPlan) (a : PlainAccess) : List Member :=
  let type := valueType p
  let typeConstant := match p.typeConstant with
    | some c => c.name
    | none => ""
  let refresh := match a.cover with
    | some cover =>
      if s.config.reindexOnWrite then [Stmt.run (.dot selfName cover.method [])] else []
    | none => []
  [method [mustUse] a.getter [refSelf] (some (.app "Option" [type]))
      [.value (.method (.dot selfName "node" []) "get" [type] [.ofSelf p.constant])],
    method [] a.setter [refSelf, .typed "value" type] (some (.borrowed (.name "Self")))
      ([.run (.dot (.dot selfName "node" []) "set"
        [.ofSelf p.constant, .ofSelf typeConstant, .name "value"])] ++ refresh ++
        [.value selfName])]

/-- The statements that set up a gate on the graph and a second handle on it. -/
def gateStatements (graph : Expr) : List Stmt :=
  [.bindTo "gate" (.dot graph "new_sync_counter" [.word "1"]),
    .bindTo "waiter" (.dot (.name "gate") "clone" [])]

def learnedMethods (s : Scope) (p : PropertyPlan) (a : LearnedAccess) : List Member :=
  let type := valueType p
  let option := Ty.app "Option" [type]
  let learner := s.hostType ["ml", "RegressionNode"]
  let nodes := Ty.app "Vec" [s.nodeType]
  let firstLearner : Expr :=
    .dot (.dot (.name "found") "into_iter" []) "find_map" (s.downcastTo learner)
  let some_ (e : Expr) : Expr := .call (.name "Some") [e]
  [method [.doc " Extrapolated value, `None` before the first write.", mustUse] a.getter [refSelf]
      (some option)
      ([.bindTo "node" (.dot selfName "node" [])] ++
        gateStatements (.dot (.name "node") "graph" []) ++
        [.run (.dot (.name "node") "relation" [.ofSelf p.constant,
          moveClosure "found" nodes (.block [.value (.matchOn firstLearner
            [.mk "Some(learner)" (.dot (.name "learner") "extrapolate"
                [moveClosure "value" option (.dot (.name "waiter") "wrap" [.name "value"])]),
              .mk "None" (.method (.name "waiter") "wrap" [type] [.name "None"])])])]),
        .value (.method (.name "gate") "wait_result" [type] [])]),
    method [] a.setter [refSelf, .typed "value" type] (some (.borrowed (.name "Self")))
      ([.bindTo "node" (.dot selfName "node" []),
        .bindTo "graph" (.dot (.name "node") "graph" [])] ++
        gateStatements (.name "graph") ++
        [.bindTo "(world, time)" (.word "(node.world(), node.time())"),
          .bindTo "owner" (.dot (.name "node") "clone" []),
          .run (.dot (.name "node") "relation" [.ofSelf p.constant,
            moveClosure "found" nodes (.block [
              .bindTo "existing" firstLearner,
              .bindTo "learner" (.matchOn (.name "existing") [
                .mk "Some(learner)" (some_ (.name "learner")),
                .mk "None" (.block ([
                  .bindTo "created" (.dot (.name "graph") "new_typed_node"
                    [.name "world", .name "time", literal a.algorithm])] ++
                  a.parameters.map (fun (key, value) =>
                    .run (.dot (.name "created") "set_parameter"
                      [literal key, .word (Code.valueLiteral value)])) ++
                  [.run (.dot (.name "owner") "add_to_relation"
                      [.ofSelf p.constant, .borrow (.name "created")]),
                    .value (.method (.name "created") "downcast" [learner] [])]))]),
              .value (.matchOn (.name "learner") [
                .mk "Some(learner)" (.dot (.name "learner") "learn" [.name "value",
                  .closure true [] (.dot (.name "waiter") "count" [])]),
                .mk "None" (.dot (.name "waiter") "count" [])])])]),
          .run (.dot (.name "gate") "wait" []),
          .value selfName])]

/-- A call of a node's own mutator for one end of a relation. -/
def changeEnd (mutator : String) (p : PropertyPlan) : Stmt :=
  .run (.dot (.dot selfName "node" []) mutator
    [.ofSelf p.constant, .dot (.name "value") "node" []])

def relationMethods (s : Scope) (p : PropertyPlan) (a : RelationAccess) : List Member :=
  let target := a.target.ty
  let value : Param := .typed "value" (.borrowed target)
  let other (name : OppositeCalls → String) : List Stmt :=
    (a.opposite.map fun calls => Stmt.run (.dot (.name "value") (name calls) [selfName])).toList
  let mutator (name change : String) (other : List Stmt) : Member :=
    method [] name [refSelf, value] (some (.borrowed (.name "Self")))
      ([changeEnd change p] ++ other ++ [.value selfName])
  let internal (name change : String) : Member :=
    .function [] "pub(crate) " { name, params := [refSelf, value] } (some [changeEnd change p])
  [callbackMethod a.getter [] (.app "Vec" [target])
      [.run (.dot (.dot selfName "node" []) "relation" [.ofSelf p.constant,
        moveClosure "found" (.app "Vec" [s.nodeType]) (.block [s.callbackFound target])])],
    mutator a.add "add_to_relation" (other OppositeCalls.add),
    mutator a.remove "remove_from_relation" (other OppositeCalls.remove)] ++
  match a.internal with
  | some calls =>
    [internal calls.add "add_to_relation", internal calls.remove "remove_from_relation"]
  | none => []

def accessMethods (s : Scope) (p : PropertyPlan) : List Member :=
  match p.access with
  | .none => []
  | .plain a => plainMethods s p a
  | .learned a => learnedMethods s p a
  | .relation a => relationMethods s p a

def indexMethod (s : Scope) (m : IndexMethod) : Member :=
  let members : Expr := .borrow (.array (m.group.members.map Expr.ofSelf))
  let entry : Expr := .borrow (.name "entry")
  method [.doc " Re-register this node under the index with its current values."] m.group.method
    [refSelf] none
    ([.bindTo "node" (.dot selfName "node" [])] ++
      gateStatements (.dot (.name "node") "graph" []) ++
      [.bindTo "entry" (.dot (.name "node") "clone" []),
        .run (.dot (.dot (.name "node") "graph" []) "index"
          ([.dot (.name "node") "world" [], .dot (.name "node") "time" []] ++
            (m.facade.join [m.constant]).asArguments ++
            [moveClosure "index" (s.hostType ["NodeIndex"]) (.block [
              .run (.dot (.name "index") "remove_from_index" [entry, members]),
              .run (.dot (.name "index") "add_to_index" [entry, members]),
              .run (.dot (.name "waiter") "count" [])])])),
        .run (.dot (.name "gate") "wait" [])])

/-- The source file of an accessor. -/
def file (s : Scope) (a : Accessor) : Code.File :=
  let base := match a.base with
    | some path => path.ty
    | none => s.hostType ["BaseNode"]
  let baseField : Expr := .field selfName "base"
  let node : List Stmt := [.value (match a.base with
    | some _ => .dot baseField "node" []
    | none => .borrow baseField)]
  let nodeRef : Ty := .borrowed (s.hostType ["BaseNode"])
  let type := Ty.name a.typeName
  let create := method [mustUse] "new"
    [.typed "world" i64, .typed "time" i64, .typed "id" i64, .typed "graph" (s.hostType ["Graph"])]
    (some (.name "Self"))
    [.value (.record "Self" [.mk "base" (some (.call (.ofType base "new")
      [.name "world", .name "time", .name "id", .name "graph"]))])]
  { doc := some (headerDoc a.ident.fqn)
    items := [
      .struct [.doc (" Typed view over `" ++ a.nodeName ++ "` nodes."), derive ["Clone"]] "pub "
        a.typeName {} (.named [("base", base)]),
      .impl {} none type
        ([textConstant "pub " nodeNameConstant a.nodeName] ++
          a.properties.flatMap (constants · s) ++
          [create, method [mustUse] "node" [refSelf] (some nodeRef) node] ++
          a.properties.flatMap (accessMethods s) ++ a.indexMethods.map (indexMethod s)),
      .impl {} (some (.std ["ops", "Deref"])) type [
        .type "Target" base,
        traitMethod "deref" [refSelf]
          (some (.borrowed (.path false [.plain "Self", .plain "Target"])))
          [.value (.borrow baseField)]],
      .impl {} (some (s.host.join ["TypedNode"])) type [
        textConstant "" nodeNameConstant a.nodeName,
        traitMethod "node" [refSelf] (some nodeRef) node]] }

end Accessor

/-- The accessor of a class as an artifact. -/
def Scope.entityArtifact (s : Scope) (c : Schema.Class) : Traced GenerateError Artifact := do
  let accessor ← s.planAccessor c
  Traced.of (Artifact.render c.name c.ident.modulePackage .entity (accessor.file s))

end Generate
end TypedGraph
