/-
Generation as a step of a build.

The step tells the build what it depends on, and then writes all artifacts as
one file into the directory that the build names.
-/
import TypedGraph.Command.Run

namespace TypedGraph
namespace Command

open Files (Disk FilePath)
open Generate (Config)

/-- File that the step writes. -/
def buildFile : String := "nodegen.rs"

/-- What the step prints before it does anything. -/
def dependencies (dir : FilePath) : List String :=
  ["cargo:rerun-if-changed=build.rs", "cargo:rerun-if-changed=" ++ dir.text]

/-- Runs the step, where the build may not have named a directory. -/
def buildStep (disk : Disk) (dir : FilePath) (config : Config) (out : Option FilePath) :
    Outcome × Disk :=
  let printed := dependencies dir
  let failure (message : String) : Outcome × Disk :=
    ({ Outcome.failure message with output := printed }, disk)
  match out with
  | none => failure "environment variable not found"
  | some out =>
    match (Generate.generateInline disk dir config).outcome with
    | .error e => failure e.message
    | .ok source =>
      match disk.writeText (out.push buildFile) source with
      | .error e => failure e.message
      | .ok disk => ({ output := printed }, disk)

end Command
end TypedGraph
