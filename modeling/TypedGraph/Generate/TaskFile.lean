/-
The task package: functions that make actions, the action that changes worlds,
and for each class the adapter of a selection.
-/
import TypedGraph.Generate.AccessorFile

namespace TypedGraph
namespace Generate

open Schema (Index Property)
open Code (Path Ty Expr Stmt Member Item Param)

/-- A function of the task api.  `accessor`, `facade` and `action` are the types
whose constants or constructors it uses. -/
inductive TaskFunction
  | travelInRealWorld (facade : Path)
  | travelInPlannedWorld (facade : Path)
  | create (name : String) (accessor : Path)
  | setAttribute (name : String) (accessor : Path) (constant typeConstant : String)
  | getAttribute (name : String) (accessor : Path) (constant : String)
  | addToRelation (name : String) (accessor : Path) (constant : String)
  | traverse (name : String) (accessor : Path) (constant : String)
  | findAll (name : String) (facade : Path) (constant : String)
  | addToIndex (name : String) (facade : Path) (constant : String) (accessor : Path)
      (members : List String)
  | plannedVersion (action : Path)
  | realVersion (action : Path)

namespace TaskFunction

def name : TaskFunction → String
  | .travelInRealWorld _ => "travel_in_real_world"
  | .travelInPlannedWorld _ => "travel_in_planned_world"
  | .create name _ => name
  | .setAttribute name .. => name
  | .getAttribute name .. => name
  | .addToRelation name .. => name
  | .traverse name .. => name
  | .findAll name .. => name
  | .addToIndex name .. => name
  | .plannedVersion _ => "get_planned_version_node"
  | .realVersion _ => "get_real_version_node"

/-- The planned world, or the real one before a world was forked. -/
def plannedOrReal (facade : Path) : Expr :=
  .dot (.call (.ofType facade.ty "planned_world") []) "unwrap_or" [.ofType facade.ty "REAL_WORLD"]

def item (s : Scope) (f : TaskFunction) : Item :=
  let action (name : String) (args : List Expr) : List Stmt :=
    [.value (.call (s.hostValue ["actions", name]) args)]
  let text (name : String) : Param := .typed name (.borrowed (.name "str"))
  let function (docs : List Code.Attribute) (params : List Param) (body : List Stmt) : Item :=
    .function (docs ++ [mustUse]) "pub "
      { name := f.name, params, output := some (s.hostType ["Action"]) } body
  let travel (world : Expr) := action "travel_in_world" [.borrow (.dot world "to_string" [])]
  let version (actionType : Path) (planned : String) : List Stmt :=
    [.value (.call (s.hostValue ["Action", "new"])
      [.call (.ofType actionType.ty "new") [.word planned]])]
  match f with
  | .travelInRealWorld facade => function [] [] (travel (.ofType facade.ty "REAL_WORLD"))
  | .travelInPlannedWorld facade =>
    function [.doc " Falls back to the real world until the model has connected once."] []
      (.bindTo "world" (plannedOrReal facade) :: travel (.name "world"))
  | .create _ accessor =>
    function [] [] (action "create_typed_node" [.ofType accessor.ty nodeNameConstant])
  | .setAttribute _ accessor constant typeConstant =>
    function [] [text "value"] (action "set_attribute"
      [.ofType accessor.ty constant, .ofType accessor.ty typeConstant, .name "value"])
  | .getAttribute _ accessor constant =>
    function [] [] (action "attribute" [.ofType accessor.ty constant])
  | .addToRelation _ accessor constant =>
    function [] [text "variable"] (action "add_var_to_relation"
      [.ofType accessor.ty constant, .name "variable"])
  | .traverse _ accessor constant =>
    function [] [] (action "traverse" [.ofType accessor.ty constant])
  | .findAll _ facade constant =>
    function [] [] (action "read_global_index" [.ofType facade.ty constant])
  | .addToIndex _ facade constant accessor members =>
    function [] [] (action "add_to_global_index"
      [.ofType facade.ty constant, .borrow (.array (members.map (.ofType accessor.ty)))])
  | .plannedVersion actionType => function [] [] (version actionType "true")
  | .realVersion actionType => function [] [] (version actionType "false")

end TaskFunction

def taskPackageName : String := "task"

def otherWorldActionName : String := "ActionResolvedInOtherWorld"

namespace Scope

variable (s : Scope)

def taskPackage : Option String := s.targetPackage (some taskPackageName)

/-! ## The task api -/

/-- The functions of one property of a class. -/
def planPropertyTasks (className : String) (accessor : Path) (p : Property) :
    Except GenerateError (List TaskFunction) := do
  let constant ← constantIdent p
  let subject := className ++ "_" ++ Text.snakeCase p.name
  match p.kind with
  | .attribute =>
    let typeConstant ← checkedIdent (typeConstantName p.name) "a type constant"
    let set ← checkedIdent ("set_" ++ subject) "a set action"
    let get ← checkedIdent ("get_" ++ subject) "a get action"
    return [.setAttribute set accessor constant typeConstant, .getAttribute get accessor constant]
  | .relation =>
    let add ← checkedIdent ("add_to_" ++ subject) "an add action"
    let traverse ← checkedIdent ("traverse_" ++ subject) "a traverse action"
    return [.addToRelation add accessor constant, .traverse traverse accessor constant]

def planClassTasks (c : Schema.Class) : Except GenerateError (List TaskFunction) := do
  let accessor ← s.classifierPath c.ident
  let className := Text.snakeCase c.name
  let create ← checkedIdent ("create_" ++ className ++ "_node") "a create action"
  let tasks ← c.properties.mapM (planPropertyTasks className accessor)
  return .create create accessor :: tasks.flatten

def planIndexTasks (index : Index) : Except GenerateError (List TaskFunction) := do
  let facade ← s.modelPath
  let constant ← checkedIdent (indexConstantName index.name) "an index constant"
  let findAll ← checkedIdent (methodName "find_all" index.name) "a find action"
  let add ← checkedIdent (methodName "index" index.name) "an index action"
  let accessor ← s.classifierPath (← s.indexedIdent index)
  let members ← index.properties.mapM fun name =>
    checkedIdent (Text.constantCase name) ("member '" ++ name ++ "' of '" ++ index.fqn ++ "'")
  return [.findAll findAll facade constant, .addToIndex add facade constant accessor members]

/-- The functions of the task api, in the order they are written. -/
def planTaskApi : Except GenerateError (List TaskFunction) := do
  let facade ← s.modelPath
  let action ← s.artifactPath s.taskPackage otherWorldActionName
  let classes ← s.model.classes.mapM s.planClassTasks
  let indexes ← s.model.indexes.mapM s.planIndexTasks
  return [.travelInRealWorld facade, .travelInPlannedWorld facade] ++ classes.flatten ++
    indexes.flatten ++ [.plannedVersion action, .realVersion action]

def taskApiFile (functions : List TaskFunction) : Code.File :=
  { doc := some (headerDoc s.target.name), items := functions.map (TaskFunction.item s) }

def taskApiArtifact : Except GenerateError Artifact := do
  let functions ← s.planTaskApi
  Artifact.render (s.target.name ++ "TaskApi") s.taskPackage .taskApi (s.taskApiFile functions)

/-! ## The action that changes worlds -/

def evalBody : List Stmt :=
  let ctx := Expr.name "ctx"
  let ctxGraph : Expr := .dot ctx "graph" []
  let slots := Expr.name "slots"
  let slotType := Ty.app "Vec" [.app "Option" [s.nodeType]]
  let arc (name : String) (e : Expr) : Expr := .call (.names ["Arc", name]) [e]
  let idCount : Expr := .dot (.name "ids") "len" []
  [.bind "ids" (some (.app "Vec" [i64]))
      (.dot (.dot (.dot (.dot (.dot ctx "result" []) "nodes" []) "iter" []) "map"
        [.closure false [("node", none)] (.dot (.name "node") "id" [])]) "collect" []),
    .bind "slots" (some (.app "Arc" [.app "Mutex" [slotType]]))
      (arc "new" (.call (.names ["Mutex", "new"]) [.vecOf (.name "None") idCount])),
    .bindTo "counter" (.dot ctxGraph "new_counter" [idCount]),
    .bindTo "(world, time)" (.word "(self.world(), ctx.time())"),
    .value (.forEach "(slot, id)"
      (.dot (.dot (.name "ids") "into_iter" []) "enumerate" []) [
        .bindTo "slots" (arc "clone" (.borrow slots)),
        .bindTo "counter" (.dot (.name "counter") "clone" []),
        .run (.dot ctxGraph "lookup" [.name "world", .name "time", .name "id",
          moveClosure "found" (.app "Option" [s.nodeType]) (.block [
            .value (.branch (.binds "Ok(mut slots)" (.dot slots "lock" []))
              [.run (.word "slots[slot] = found")] none),
            .run (.dot (.name "counter") "count" [])])])]),
    .run (.dot (.name "counter") "then" [.closure true [] (.block [
      .bindTo "resolved" (.dot (.dot (.dot slots "lock" []) "map"
          [.closure false [("mut slots", none)]
            (.dot (.dot (.dot slots "drain" [.word ".."]) "flatten" []) "collect" [])])
        "unwrap_or_default" []),
      .run (.dot ctx "continue_with" [.name "resolved"])])])]

def otherWorldFile (facade : Path) : Code.File :=
  let type := Ty.name otherWorldActionName
  let planned : Expr := .field selfName "planned"
  { doc := some (headerDoc s.target.name)
    items := [
      .use "" "::std::sync::\x7bArc, Mutex\x7d",
      .struct [.doc " Replaces every node of the current result by its version in the",
        .doc " planned or the real world, keeping result order.",
        derive ["Clone", "Copy", "Debug"]] "pub " otherWorldActionName {}
        (.named [("planned", bool)]),
      .impl {} none type [
        constMethod [mustUse] "new" [.typed "planned" bool] (some (.name "Self"))
          [.value (.record "Self" [.mk "planned" none])],
        traitMethod "world" [.receiver "self"] (some i64) [.value (.branch planned
          [.value (TaskFunction.plannedOrReal facade)]
          (some [.value (.ofType facade.ty "REAL_WORLD")]))]],
      .impl {} (some (s.host.join ["TaskAction"])) type [
        traitMethod "eval" [refSelf, .typed "ctx" (s.hostType ["TaskContext"])] none s.evalBody,
        traitMethod "serialize" [refSelf, .typed "buffer" (.ref none true (s.hostType ["Buffer"]))]
          none
          [.run (.dot (.name "buffer") "write_str" [.branch planned
            [.value (literal "getPlannedVersionNode()")]
            (some [.value (literal "getRealVersionNode()")])])]]] }

def otherWorldArtifact : Except GenerateError Artifact := do
  Artifact.render otherWorldActionName s.taskPackage .action (s.otherWorldFile (← s.modelPath))

end Scope

/-! ## Selections -/

/-- A predicate over the nodes of a class, and its adapter to the runtime. -/
structure Selection where
  name : String
  /-- The documented class. -/
  className : String
  fqn : String
  accessor : Path
  trait_ : String
  adapter : String
  argument : String

namespace Selection

def file (s : Scope) (p : Selection) : Code.File :=
  let type := p.accessor.ty
  let context := Ty.borrowed (s.hostType ["TaskContext"])
  let predicate : Code.Bound := .type (.name p.trait_)
  let params : List Code.Param :=
    [refSelf, .typed p.argument (.borrowed type), .typed "ctx" context]
  let select (body : Option (List Stmt)) : Member :=
    .function [] "" { name := "select", params, output := some bool } body
  let function : Ty := .path false [.callable "Fn" [.borrowed type, context] (some bool)]
  let functions : Code.Predicate :=
    { type := .name "F", bounds := [.type function, .type (.name "Send"), .type (.name "Sync")] }
  { doc := some (headerDoc p.fqn)
    items := [
      .trait [.doc (" Selection predicate over `" ++ p.className ++ "` nodes.")] "pub " p.trait_
        [.type (.name "Send"), .type (.name "Sync")] [select none],
      .impl { params := [{ name := "F" }], predicates := [functions] }
        (some (.ofNames [p.trait_])) (.name "F")
        [select (some [.value (.call selfName [.name p.argument, .name "ctx"])])],
      .struct [.doc " Adapts a typed predicate to the host selection callback. Nodes of",
        .doc " any other type are rejected."] "pub " p.adapter { params := [{ name := "T" }] }
        (.positional [("pub ", .name "T")]),
      .impl { params := [{ name := "T", bounds := [predicate] }] }
        (some (s.host.join ["TaskFunctionSelect"])) (.app p.adapter [.name "T"]) [
        traitMethod "select" [refSelf, .typed "node" (.borrowed s.nodeType), .typed "ctx" context]
          (some bool)
          [.value (.dot (.method (.name "node") "downcast_ref" [type] []) "is_some_and"
            [.closure false [(p.argument, none)]
              (.dot (.field selfName "0") "select" [.name p.argument, .name "ctx"])])]]] }

end Selection

namespace Scope

variable (s : Scope)

def planSelection (c : Schema.Class) : Except GenerateError Selection := do
  let accessor ← s.classifierPath c.ident
  let name := "TaskFunctionSelect" ++ c.name
  let trait_ ← checkedIdent name "a select trait"
  let adapter ← checkedIdent ("Select" ++ c.name) "a select adapter"
  let argument ← checkedIdent (Text.snakeCase c.name) "a select argument"
  return { name, className := c.name, fqn := c.fqn, accessor, trait_, adapter, argument }

def selectionArtifact (c : Schema.Class) : Except GenerateError Artifact := do
  let selection ← s.planSelection c
  Artifact.render selection.name s.taskPackage .selection (selection.file s)

/-! ## The package -/

/-- The task api knows classes by their simple names. -/
def checkClassNames (seen : List String) : List Schema.Class → Except GenerateError Unit
  | [] => return ()
  | c :: rest =>
    if seen.contains c.name then
      .error (.invalidIdentifier "a second class of the same name in the task api" c.fqn)
    else checkClassNames (c.name :: seen) rest

def taskArtifacts : Except GenerateError (List Artifact) := do
  checkClassNames [] s.model.classes
  let api ← s.taskApiArtifact
  let action ← s.otherWorldArtifact
  let selections ← s.model.classes.mapM s.selectionArtifact
  return api :: action :: selections

end Scope

end Generate
end TypedGraph
