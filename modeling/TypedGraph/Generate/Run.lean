/-
A whole generation run.

The artifacts of enumerations and classes come first, in name order, then the
global ones, and last the module indexes.  An error ends the run, and no artifact
of such a run is handed on.
-/
import TypedGraph.Generate.EnumFile
import TypedGraph.Generate.FacadeFile
import TypedGraph.Generate.ModuleIndex
import TypedGraph.Generate.PluginFile
import TypedGraph.Generate.TaskFile
import TypedGraph.Generate.TimeFile

namespace TypedGraph
namespace Generate

open Schema (Classifier Model)

namespace Scope

variable (s : Scope)

/-- The artifact of a classifier; an index has none of its own. -/
def classifierArtifact : Classifier → Traced GenerateError (Option Artifact)
  | .ofEnum e => Traced.of (some <$> enumArtifact e)
  | .ofClass c => some <$> s.entityArtifact c
  | .ofIndex _ => return none

def classifierArtifacts : List Classifier → Traced GenerateError (List Artifact)
  | [] => return []
  | c :: rest => do
    let artifact ← s.classifierArtifact c
    return artifact.toList ++ (← classifierArtifacts rest)

/-- The artifacts that stand for the model as a whole. -/
def globalArtifacts : Except GenerateError (List Artifact) := do
  let plugin ← s.pluginArtifact
  let facade ← s.facadeArtifact
  let tasks ← s.taskArtifacts
  let time ← s.timeArtifact
  return [plugin, facade] ++ tasks ++ [time]

def artifacts : Traced GenerateError (List Artifact) := do
  let own ← s.classifierArtifacts s.model.classifiers
  let global ← Traced.of s.globalArtifacts
  let indexes ← Traced.of (moduleIndexes (own ++ global))
  let all := own ++ global ++ indexes
  all.forM fun a => Traced.log (.generated a.display)
  Traced.log (.completed all.length s.target.fqn)
  return all

end Scope

/-- Every artifact of a model. -/
def generate (model : Model) (config : Config) : Traced GenerateError (List Artifact) := do
  let scope ← Traced.of (Scope.of model config)
  scope.artifacts

end Generate
end TypedGraph
