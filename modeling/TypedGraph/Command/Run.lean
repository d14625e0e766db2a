/-
Running the command.

A run ends with an exit code and what it prints.  The code is 1 when nothing was
written because something failed, and 2 when some artifacts could not be written
or the command line could not be understood.
-/
import TypedGraph.Command.Arguments
import TypedGraph.Data.JsonWriter
import TypedGraph.Generate.Persist

namespace TypedGraph
namespace Command

open Files (Disk FilePath)
open Generate (Artifact Config MemoryFiles Report RunError Sink)

/-- How a run ends. -/
structure Outcome where
  code : Nat := 0
  output : List String := []
  errors : List String := []
deriving DecidableEq, Repr

namespace Outcome

def failure (message : String) : Outcome := { code := 1, errors := ["error: " ++ message] }

def usage (e : UsageError) : Outcome := { code := 2, errors := ["error: " ++ e.message] }

end Outcome

def versionText : String := "nodegen 0.4.0"

def usageText : String := "Usage: nodegen [OPTIONS] <generate|check>"

/-- The artifacts that would be written, with the number of their lines. -/
def listing (artifacts : List Artifact) : List String :=
  let (_, files) := (Generate.persist MemoryFiles.sink artifacts).run []
  files.map fun (path, body) =>
    path.text ++ "\t" ++ toString (Text.lines body).length ++ " lines"

/-- Lists or prints artifacts instead of writing them. -/
def dryRun (disk : Disk) (settings : Settings) (json : Bool) : Outcome :=
  match (Generate.generateFrom disk settings.input.dir settings.input.deep
      settings.generator).outcome with
  | .error e => .failure e.message
  | .ok artifacts =>
    if json then { output := [(Data.Tree.list (artifacts.map Artifact.toTree)).pretty 0] }
    else { output := listing artifacts }

/-- What is said about artifacts that were handed over. -/
def reportOutcome (root : FilePath) (r : Report) : Outcome :=
  if r.isComplete then
    { output := [toString r.written.length ++ " artifacts written to " ++ root.text] }
  else
    { code := 2
      errors := r.failed.map (fun (a, e) => "not written: " ++ a.fqn ++ ": " ++ e.message) ++
        [toString r.written.length ++ " of " ++ toString r.total ++ " artifacts written to " ++
          root.text] }

/-- Generates and writes. -/
def generate {m : Type → Type} [Monad m] (sinkAt : FilePath → Sink m) (disk : Disk)
    (settings : Settings) : m Outcome := do
  let root := settings.output.dir
  let run ← Generate.generateDirectory (sinkAt root) disk settings.input.dir settings.input.deep
    settings.generator
  match run.outcome with
  | .error e => return .failure e.message
  | .ok report => return reportOutcome root report

/-- Loads and generates without writing.  A model with diagnostics fails. -/
def check (disk : Disk) (settings : Settings) : Outcome :=
  match (Schema.loadModel disk settings.input.dir settings.input.deep).outcome with
  | .error e => .failure e.message
  | .ok model =>
    match (Generate.generate model settings.generator).outcome with
    | .error e => .failure e.message
    | .ok artifacts =>
      let diagnostics := model.diagnostics
      { code := if diagnostics.isEmpty then 0 else 1
        output := diagnostics.map (·.display) ++
          [toString model.size ++ " classifiers, " ++ toString artifacts.length ++
            " artifacts, " ++ toString diagnostics.length ++ " diagnostics"] }

/-- Runs a task with the settings of a file, or the default ones. -/
def runTask {m : Type → Type} [Monad m] (sinkAt : FilePath → Sink m) (disk : Disk)
    (file : Option FilePath) (task : Task) : m Outcome :=
  match Settings.resolve disk file with
  | .error e => return .failure e.message
  | .ok settings =>
    let settings := task.apply settings
    match task with
    | .check _ => return check disk settings
    | .generate o =>
      if o.dryRun then return dryRun disk settings o.json else generate sinkAt disk settings

/-- Runs a command line. -/
def run {m : Type → Type} [Monad m] (sinkAt : FilePath → Sink m) (disk : Disk)
    (arguments : List String) : m Outcome :=
  match Invocation.parse arguments with
  | .error e => return .usage e
  | .ok .help => return { output := [usageText] }
  | .ok .nothing => return { code := 2, errors := [usageText] }
  | .ok .version => return { output := [versionText] }
  | .ok (.run file task) => runTask sinkAt disk file task

end Command
end TypedGraph
