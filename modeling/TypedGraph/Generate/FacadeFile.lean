/-
The model facade: it owns a graph, makes typed nodes and asks indexes.
-/
import TypedGraph.Generate.AccessorFile

namespace TypedGraph
namespace Generate

open Schema (Index)
open Code (Path Ty Expr Stmt Member Item)

/-- Constant that holds the name of an index. -/
structure IndexConstant where
  name : String
  indexName : String
deriving DecidableEq, Repr

/-- Method that makes nodes of a class. -/
structure Factory where
  method : String
  accessor : Path

/-- Methods that ask an index for some or all of its nodes. -/
structure Query where
  find : String
  findAll : String
  constant : String
  accessor : Path

structure Facade where
  name : String
  typeName : String
  plugin : Path
  /-- Whether the graph needs the learning plugin. -/
  learns : Bool
  constants : List IndexConstant
  factories : List Factory
  queries : List Query

namespace Facade

def selfGraph : Expr := .field selfName "graph"

def factoryMethod (f : Factory) : Member :=
  let type := f.accessor.ty
  method [.doc " `None` when no factory is registered for the type.", mustUse] f.method
    [refSelf, .typed "world" i64, .typed "time" i64] (some (.app "Option" [type]))
    [.value (.method (.dot selfGraph "new_typed_node"
      [.name "world", .name "time", .ofType type nodeNameConstant]) "downcast" [type] [])]

/-- Resolves the index of a query, and hands no nodes on when there is none. -/
def askIndex (s : Scope) (q : Query) (ask : String) (args : List Expr) : Stmt :=
  let found := moveClosure "found" (.app "Vec" [s.nodeType])
    (.block [s.callbackFound q.accessor.ty])
  .run (.dot selfGraph "index_if_exists" [.name "world", .name "time", .ofSelf q.constant,
    moveClosure "index" (.app "Option" [s.hostType ["NodeIndex"]])
      (.block [.value (.matchOn (.name "index") [
        .mk "Some(index)" (.dot (.name "index") ask (args ++ [found])),
        .mk "None" (.call (.name "callback") [.call (.names ["Vec", "new"]) []])])])])

def queryMethods (s : Scope) (q : Query) : List Member :=
  let nodes := Ty.app "Vec" [q.accessor.ty]
  let place : List Code.Param := [.typed "world" i64, .typed "time" i64]
  [callbackMethod q.find (place ++ [.typed "query" (.borrowed (.name "str"))]) nodes
      [.bindTo "query" (.dot (.name "query") "to_string" []),
        askIndex s q "find" [.borrow (.name "query")]],
    callbackMethod q.findAll place nodes [askIndex s q "find_all" []]]

/-- A method that hands the answer of the graph on. -/
def graphCall (name : String) : Member :=
  callbackMethod name [] bool [.run (.dot selfGraph name [.name "callback"])]

def plannedWorld : Expr := .name "PLANNED_WORLD"

def nowValue : Expr :=
  .dot (.dot (.call (.path (.std ["time", "SystemTime", "now"])) []) "duration_since"
      [.path (.std ["time", "UNIX_EPOCH"])]) "map_or"
    [.word "0", .closure false [("d", none)]
      (.dot (.call (.names ["i64", "try_from"]) [.dot (.name "d") "as_millis" []]) "unwrap_or"
        [.names ["i64", "MAX"]])]

def connectMethod : Member :=
  callbackMethod "connect" [] bool [
    .bindTo "graph" (.dot selfGraph "clone" []),
    .run (.dot selfGraph "connect" [moveClosure "connected" bool (.block [
      .value (.branch (.name "connected")
        [.run (.dot plannedWorld "get_or_init"
          [.closure false [] (.dot (.name "graph") "fork" [.ofSelf "REAL_WORLD"])])] none),
      .run (.call (.name "callback") [.name "connected"])])])]

/-- A fresh cell that is written at most once. -/
def onceType : Ty :=
  .path true [.plain "std", .plain "sync", .generic "OnceLock" false [.type i64]]

/-- Adds a plugin to the graph that is to be built. -/
def withPlugin (plugin : Path) : Stmt :=
  .bindTo "builder" (.dot (.name "builder") "with_plugin" plugin.asArguments)

def constantMembers (f : Facade) : List Member :=
  [.constant "pub " "REAL_WORLD" i64 (.word "0")] ++
    f.constants.map (fun c => textConstant "pub " c.name c.indexName)

def constructor (s : Scope) (f : Facade) : Member :=
  let learning := if f.learns then [withPlugin (s.host.join ["ml", "MlPlugin"])] else []
  method [mustUse] "new" [.typed "builder" (s.hostType ["GraphBuilder"])] (some (.name "Self"))
    ([withPlugin f.plugin] ++ learning ++
      [.value (.record "Self" [.mk "graph" (some (.dot (.name "builder") "build" []))])])

/-- The methods that every facade has. -/
def ownMethods (s : Scope) : List Member :=
  [constMethod [mustUse] "graph" [refSelf] (some (.borrowed (s.hostType ["Graph"])))
      [.value (.borrow selfGraph)],
    method [.doc " World forked from the real world on the first successful connect.",
        mustUse] "planned_world" [] (some (.app "Option" [i64]))
      [.value (.dot (.dot plannedWorld "get" []) "copied" [])],
    method [.doc " Current wall-clock time in milliseconds.", mustUse] "now" [] (some i64)
      [.value nowValue],
    connectMethod, graphCall "disconnect", graphCall "save"]

def file (s : Scope) (f : Facade) : Code.File :=
  { doc := some (headerDoc s.target.name)
    items := [
      .staticValue "" "PLANNED_WORLD" onceType
        (.call (.path (.std ["sync", "OnceLock", "new"])) []),
      .struct [.doc " Owns the graph and exposes typed factories and index queries.",
        derive ["Clone"]] "pub " f.typeName {} (.named [("graph", s.hostType ["Graph"])]),
      .impl {} none (.name f.typeName)
        (f.constantMembers ++ [f.constructor s] ++ ownMethods s ++
          f.factories.map factoryMethod ++ f.queries.flatMap (queryMethods s))] }

end Facade

namespace Scope

variable (s : Scope)

/-- The constants of indexes, no two of which may have the same name. -/
def planIndexConstants (seen : List String) :
    List Index → Except GenerateError (List IndexConstant)
  | [] => return []
  | index :: rest => do
    let constant := indexConstantName index.name
    if seen.contains constant then
      .error (.invalidIdentifier ("a second index named '" ++ index.name ++ "'") constant)
    else
      let name ← checkedIdent constant ("index '" ++ index.fqn ++ "'")
      return ⟨name, index.name⟩ :: (← planIndexConstants (constant :: seen) rest)

def planFactory (c : Schema.Class) : Except GenerateError Factory := do
  let accessor ← s.classifierPath c.ident
  let method ← checkedIdent (methodName "new" c.name) ("the factory of '" ++ c.fqn ++ "'")
  return { method, accessor }

def planQuery (index : Index) : Except GenerateError Query := do
  let accessor ← s.classifierPath (← s.indexedIdent index)
  let constant ← checkedIdent (indexConstantName index.name) ("index '" ++ index.fqn ++ "'")
  let find ← checkedIdent (methodName "find" index.name) "an index query"
  let findAll ← checkedIdent (methodName "find_all" index.name) "an index query"
  return { find, findAll, constant, accessor }

def planFacade : Except GenerateError Facade := do
  let typeName ← checkedIdent s.modelName "the model facade"
  let plugin ← s.pluginPath
  let constants ← planIndexConstants [] s.model.indexes
  let factories ← s.model.classes.mapM s.planFactory
  let queries ← s.model.indexes.mapM s.planQuery
  return { name := s.modelName, typeName, plugin, learns := s.usesLearning, constants, factories,
           queries }

def facadeArtifact : Except GenerateError Artifact := do
  let facade ← s.planFacade
  Artifact.render facade.name (s.targetPackage none) .model (facade.file s)

end Scope

end Generate
end TypedGraph
