/-
The plugin, which registers a factory for every class when a graph starts.
-/
import TypedGraph.Generate.AccessorFile

namespace TypedGraph
namespace Generate

open Code (Path Ty Expr Stmt Item)

structure Plugin where
  name : String
  typeName : String
  /-- The accessor types, by the names of their classes. -/
  accessors : List Path

namespace Plugin

/-- The statement that registers the factory of an accessor type under its node
name. -/
def register (s : Scope) (accessor : Path) : Stmt :=
  let create := Expr.call (s.hostValue ["Node", "new"])
    [.call (.ofType accessor.ty "new") [.name "world", .name "time", .name "id", .name "graph"]]
  .run (.dot (.dot (.dot (.name "graph") "node_registry" []) "get_or_create_declaration"
      [.ofType accessor.ty nodeNameConstant]) "set_factory"
    [.closure false [("world", some i64), ("time", some i64), ("id", some i64),
      ("graph", some (s.hostType ["Graph"]))] (.block [.value create])])

def file (s : Scope) (p : Plugin) : Code.File :=
  { doc := some (headerDoc s.target.name)
    items := [
      .struct [.doc " Registers a factory for every generated node type.",
        derive ["Clone", "Copy", "Debug", "Default"]] "pub " p.typeName {} .none,
      .impl {} (some (s.host.join ["plugin", "Plugin"])) (.name p.typeName) [
        traitMethod "start" [refSelf, .typed "graph" (.borrowed (s.hostType ["Graph"]))] none
          (p.accessors.map (register s)),
        traitMethod "stop" [refSelf] none []]] }

end Plugin

namespace Scope

variable (s : Scope)

def planPlugin : Except GenerateError Plugin := do
  let typeName ← checkedIdent s.pluginName "the plugin"
  let accessors ← s.model.classes.mapM fun c => s.classifierPath c.ident
  return { name := s.pluginName, typeName, accessors }

def pluginArtifact : Except GenerateError Artifact := do
  let plugin ← s.planPlugin
  Artifact.render plugin.name (s.targetPackage none) .plugin (plugin.file s)

end Scope

end Generate
end TypedGraph
