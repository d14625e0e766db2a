/-
The command line.

What a run may look at, its settings file and the directory of its model, is
copied first.  Everything is decided on the copy, and artifacts are written when
they are handed over.
-/
import TypedGraph.Command.Run

namespace TypedGraph
namespace Main

open Files (Disk FileError)

/-- Copies the file or directory at a path, as far as it can be read. -/
partial def copy (disk : Disk) (path : Files.FilePath) : IO Disk := do
  let place := System.mkFilePath [path.text]
  if ← place.isDir then
    let (disk, _) := disk.makeDirectories path
    (← place.readDir).foldlM (fun disk entry => copy disk (path.push entry.fileName)) disk
  else
    try return disk.provide path (← IO.FS.readBinFile place)
    catch _ => return disk

/-- An empty copy with the working directory of the process. -/
def workingDirectory : IO Disk := do
  let here : Files.FilePath := ⟨(← IO.currentDir).toString⟩
  let (disk, _) := Disk.makeDirectories {} here
  return { disk with here := here.components.filterMap fun
    | .normal name => some name
    | _ => none }

/-- What a command line may look at. -/
def snapshot (arguments : List String) : IO Disk := do
  let disk ← workingDirectory
  match Command.Invocation.parse arguments with
  | .ok (.run file task) =>
    let disk ← copy disk (file.getD Command.Settings.defaultFile)
    match Command.Settings.resolve disk file with
    | .ok settings => copy disk (task.apply settings).input.dir
    | .error _ => return disk
  | _ => return disk

def causeOf : IO.Error → FileError
  | .noFileOrDirectory .. => .notFound
  | .alreadyExists .. => .exists
  | .inappropriateType .. => .notDirectory
  | e => .refused (toString e)

/-- Writes artifacts below a root, in directories made for them. -/
def fileSink (root : Files.FilePath) : Generate.Sink IO := fun a => do
  let path := a.pathBelow root
  let above := ((path.parent?).getD ⟨"."⟩).text
  try
    IO.FS.createDirAll (System.mkFilePath [if above.isEmpty then "." else above])
    IO.FS.writeFile (System.mkFilePath [path.text]) a.body
    return .ok path
  catch e => return .error { path, cause := causeOf e }

end Main
end TypedGraph

def main (arguments : List String) : IO UInt32 := do
  let disk ← TypedGraph.Main.snapshot arguments
  let outcome ← TypedGraph.Command.run TypedGraph.Main.fileSink disk arguments
  for line in outcome.output do IO.println line
  for line in outcome.errors do IO.eprintln line
  return outcome.code.toUInt32
