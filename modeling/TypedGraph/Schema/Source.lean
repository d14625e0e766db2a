/-
Models in files.

A format reads sources of one kind, which it knows by the end of their names.
A scan hands it the sources directly inside a directory, and a deep scan those
at any depth, in the order of their paths up to the first failure.  A path that
is too long is no error here: what stands there counts neither as a file nor as
a directory.
-/
import TypedGraph.Files.Disk
import TypedGraph.Number.Shortest
import TypedGraph.Schema.Diagnostic
import TypedGraph.Schema.Document
import TypedGraph.Trace

namespace TypedGraph
namespace Schema

open Files (Disk Entry FilePath FileError)

inductive SourceError
  | unreadable (path : FilePath) (cause : FileError)
  | unparsable (path : FilePath) (reason : String)
  | schema (e : SchemaError)
deriving DecidableEq, Repr

namespace SourceError

def message : SourceError → String
  | .unreadable path cause => "cannot read '" ++ path.text ++ "': " ++ cause.message
  | .unparsable path reason => "cannot parse '" ++ path.text ++ "': " ++ reason
  | .schema e => e.message

end SourceError

/-- A kind of sources.  A source that fails part way keeps what it had done to
the state. -/
structure SourceFormat (σ : Type) where
  /-- End of the file names, with the leading dot. -/
  extension : String
  parse : FilePath → String → σ → σ × Option SourceError

/-! ## Documents as sources -/

namespace Document

/-- Adds the definitions of a source to a builder. -/
def parseInto (path : FilePath) (source : String) (b : ModelBuilder) :
    ModelBuilder × Option SourceError :=
  match Document.parse source with
  | .error e => (b, some (.unparsable path (e.message Number.Double.jsonText)))
  | .ok document =>
    match addAll b document.definitions with
    | (b, e) => (b, e.map .schema)

def format : SourceFormat ModelBuilder := { extension := ".mm.json", parse := parseInto }

end Document

/-! ## Scanning -/

/-- What a scan has come to: a state, and the number of sources read unless one
failed. -/
abbrev Scanned (σ : Type) := σ × Traced SourceError Nat

/-- Goes on with a scan that has not failed. -/
def Scanned.andThen (first : Scanned σ) (next : σ → Scanned σ) : Scanned σ :=
  match first with
  | (state, ⟨events, .error e⟩) => (state, ⟨events, .error e⟩)
  | (state, ⟨events, .ok n⟩) =>
    match next state with
    | (state, rest) => (state, ⟨events ++ rest.events, rest.outcome.map (n + ·)⟩)

namespace SourceFormat

variable {σ : Type} (format : SourceFormat σ)

/-- Blanks around a file name do not count. -/
def accepts (name : String) : Bool := (Text.trimText name).endsWith format.extension

/-- Hands a source to the format. -/
def scanFile (path : FilePath) (content : ByteArray) (state : σ) : Scanned σ :=
  match String.fromUTF8? content with
  | none => (state, .of (.error (.unreadable path .notText)))
  | some source =>
    match format.parse path source state with
    | (state, none) => (state, ⟨[.parsing path.text], .ok 1⟩)
    | (state, some e) => (state, ⟨[.parsing path.text], .error e⟩)

mutual

/-- Reads a source, or goes over a directory if the scan is a deep one. -/
def scanEntry (deep : Bool) (path : FilePath) (name : String) : Entry → σ → Scanned σ
  | .file content, state =>
    if format.accepts name && (Disk.checkPath path).isOk then format.scanFile path content state
    else (state, pure 0)
  | .directory entries, state =>
    if deep && (Disk.checkPath path).isOk then scanEntries deep path entries state
    else (state, pure 0)

def scanEntries (deep : Bool) (above : FilePath) : List (String × Entry) → σ → Scanned σ
  | [], state => (state, pure 0)
  | (name, e) :: rest, state =>
    Scanned.andThen (scanEntry deep (above.push name) name e state) (scanEntries deep above rest)

end

/-- Scans a directory, and those in it if the scan is a deep one. -/
def scan (disk : Disk) (deep : Bool) (dir : FilePath) (state : σ) : Scanned σ :=
  match disk.entry dir with
  | .ok (.directory entries) => format.scanEntries deep dir (Entry.sortedAll entries) state
  | .ok (.file _) => (state, .of (.error (.unreadable dir .notDirectory)))
  | .error e => (state, .of (.error (.unreadable dir e)))

end SourceFormat

/-- The model in a directory. -/
def loadModel (disk : Disk) (dir : FilePath) (deep : Bool) : Traced SourceError Model := do
  let (builder, scanned) := Document.format.scan disk deep dir {}
  let files ← scanned
  let model ← Traced.of (builder.build.mapError .schema)
  Traced.log (.populated model.size)
  Traced.log (.loaded files model.size dir.text)
  model.diagnostics.forM fun d => Traced.log (.diagnosed d.display)
  return model

end Schema
end TypedGraph
