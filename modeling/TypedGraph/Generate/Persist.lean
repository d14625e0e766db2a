/-
Writing artifacts to where they are kept.

Every artifact is handed over, whatever became of those before it, and the
report says what became of each.  Nothing is handed over when the model cannot
be loaded or an artifact cannot be generated.
-/
import TypedGraph.Generate.Inline
import TypedGraph.Generate.Run
import TypedGraph.Schema.Source

namespace TypedGraph
namespace Generate

open Files (Disk FilePath FileError)
open Schema (SourceError)

/-- An artifact could not be written. -/
structure WriteError where
  path : FilePath
  cause : FileError
deriving DecidableEq, Repr

namespace WriteError

def message (e : WriteError) : String :=
  "failed to write '" ++ e.path.text ++ "': " ++ e.cause.message

end WriteError

/-- Takes an artifact, and answers where it went. -/
abbrev Sink (m : Type → Type) := Artifact → m (Except WriteError FilePath)

structure Report where
  written : List FilePath := []
  failed : List (Artifact × WriteError) := []

/-- Why a run does not end with all of its artifacts written. -/
inductive RunError
  | source (e : SourceError)
  | generate (e : GenerateError)
  | incomplete (failed total : Nat)
deriving DecidableEq, Repr

namespace RunError

def message : RunError → String
  | .source e => e.message
  | .generate e => e.message
  | .incomplete failed total =>
    toString failed ++ " of " ++ toString total ++ " artifacts could not be written"

end RunError

namespace Report

def isComplete (r : Report) : Bool := r.failed.isEmpty

def total (r : Report) : Nat := r.written.length + r.failed.length

/-- The paths, if every artifact was written. -/
def result (r : Report) : Except RunError (List FilePath) :=
  if r.isComplete then .ok r.written else .error (.incomplete r.failed.length r.total)

def record (r : Report) (a : Artifact) : Except WriteError FilePath → Report
  | .ok path => { r with written := r.written ++ [path] }
  | .error e => { r with failed := r.failed ++ [(a, e)] }

def events (r : Report) : List Event :=
  r.failed.map (fun (a, e) => .notWritten a.display e.message) ++
    [.persisted r.written.length r.failed.length]

end Report

/-- Hands every artifact to a sink. -/
def persist {m : Type → Type} [Monad m] (sink : Sink m) (artifacts : List Artifact) : m Report :=
  artifacts.foldlM (fun r a => do return r.record a (← sink a)) {}

/-! ## Sinks -/

/-- Files by path.  Two spellings of one path are one key, and the first stays. -/
abbrev MemoryFiles := List (FilePath × String)

namespace MemoryFiles

def insert (path : FilePath) (text : String) : MemoryFiles → MemoryFiles
  | [] => [(path, text)]
  | (p, old) :: rest =>
    match path.order p with
    | .lt => (path, text) :: (p, old) :: rest
    | .eq => (p, text) :: rest
    | .gt => (p, old) :: insert path text rest

def get? (files : MemoryFiles) (path : FilePath) : Option String :=
  (files.find? fun (p, _) => path.order p == .eq).map (·.2)

/-- Keeps artifacts in memory, and never fails. -/
def sink : Sink (StateM MemoryFiles) := fun a => do
  modify (insert a.relativePath a.body)
  return .ok a.relativePath

end MemoryFiles

/-- Path of an artifact below a root. -/
def Artifact.pathBelow (root : FilePath) (a : Artifact) : FilePath := root.join a.relativePath

/-- Writes artifacts below a root, in directories made for them. -/
def diskSink (root : FilePath) : Sink (StateM Disk) := fun a => do
  let path := a.pathBelow root
  let fail (cause : FileError) : Except WriteError FilePath := .error { path, cause }
  match (← get).makeDirectories ((path.parent?).getD ⟨""⟩) with
  | (disk, .error e) =>
    set disk
    return fail e
  | (disk, .ok ()) =>
    set disk
    match disk.writeText path a.body with
    | .error e => return fail e
    | .ok disk =>
      set disk
      return .ok path

/-! ## From directories -/

/-- The artifacts of the model in a directory. -/
def generateFrom (disk : Disk) (dir : FilePath) (deep : Bool) (config : Config) :
    Traced RunError (List Artifact) := do
  let model ← (Schema.loadModel disk dir deep).mapError .source
  (generate model config).mapError .generate

/-- Generates from a directory and hands the artifacts to a sink. -/
def generateDirectory {m : Type → Type} [Monad m] (sink : Sink m) (disk : Disk) (dir : FilePath)
    (deep : Bool) (config : Config) : m (Traced RunError Report) :=
  match generateFrom disk dir deep config with
  | ⟨events, .error e⟩ => return ⟨events, .error e⟩
  | ⟨events, .ok artifacts⟩ => do
    let report ← persist sink artifacts
    return ⟨events ++ report.events, .ok report⟩

/-- Generates from a directory, and those in it, into one text. -/
def generateInline (disk : Disk) (dir : FilePath) (config : Config) : Traced RunError String :=
  inline <$> generateFrom disk dir true config

end Generate
end TypedGraph
