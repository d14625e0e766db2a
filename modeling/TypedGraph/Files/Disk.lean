/-
A tree of files and directories, and what can be asked of it and done to it.

A path is walked component by component from the working directory, or from the
root when it is absolute.  `Disk.place` says where a path leads: to an entry, or
to a free name in an existing directory.
-/
import TypedGraph.Files.Path

namespace TypedGraph
namespace Files

/-- Why an operation on a file fails. -/
inductive FileError
  | notFound
  | exists
  | notDirectory
  | isDirectory
  | nameTooLong
  | notText
  | nulByte
  /-- Whoever was asked has a reason of its own. -/
  | refused (reason : String)
deriving DecidableEq, Repr

namespace FileError

def message : FileError → String
  | .notFound => "No such file or directory (os error 2)"
  | .exists => "File exists (os error 17)"
  | .notDirectory => "Not a directory (os error 20)"
  | .isDirectory => "Is a directory (os error 21)"
  | .nameTooLong => "File name too long (os error 36)"
  | .notText => "stream did not contain valid UTF-8"
  | .nulByte => "file name contained an unexpected NUL byte"
  | .refused reason => reason

end FileError

/-- The names in a directory are in order. -/
inductive Entry
  | file (content : ByteArray)
  | directory (entries : List (String × Entry))

namespace Entry

def empty : Entry := .directory []

def isDirectory : Entry → Bool
  | .directory _ => true
  | .file _ => false

/-- The entry under names that lead down from here. -/
def get? : Entry → List String → Option Entry
  | e, [] => some e
  | .directory entries, name :: rest => (entries.lookup name).bind (·.get? rest)
  | .file _, _ :: _ => none

/-- Gives a name in a directory another entry. -/
def put (name : String) (e : Entry) : List (String × Entry) → List (String × Entry)
  | [] => [(name, e)]
  | (n, old) :: rest =>
    match compare name n with
    | .lt => (name, e) :: (n, old) :: rest
    | .eq => (name, e) :: rest
    | .gt => (n, old) :: put name e rest

mutual

/-- An entry with the names of its directories in order.  Of entries of one name
the first is kept, which is the one that the name leads to. -/
def sorted : Entry → Entry
  | .file content => .file content
  | .directory entries => .directory (sortedAll entries)

def sortedAll : List (String × Entry) → List (String × Entry)
  | [] => []
  | (name, e) :: rest => put name e.sorted (sortedAll rest)

end

/-- Replaces the entry under names whose directories exist. -/
def set (new : Entry) : List String → Entry → Entry
  | [], _ => new
  | name :: rest, .directory entries =>
    .directory (put name (set new rest ((entries.lookup name).getD empty)) entries)
  | _ :: _, e => e

end Entry

structure Disk where
  root : Entry := .empty
  /-- Names that lead from the root to the working directory. -/
  here : List String := []

/-- Where a path leads. -/
inductive Place
  | found (names : List String) (e : Entry)
  /-- A name that is free in its directory. -/
  | free (names : List String)

namespace Disk

/-- Bytes of a name, and of a path with its end. -/
def longestName : Nat := 255

def longestPath : Nat := 4095

/-- An empty working directory below the root. -/
def fresh : Disk := { root := .directory [("work", .empty)], here := ["work"] }

def get? (d : Disk) (names : List String) : Option Entry := d.root.get? names

def set (d : Disk) (names : List String) (e : Entry) : Disk :=
  { d with root := Entry.set e names d.root }

/-- Goes on to the components of a path from a place. -/
def walk (d : Disk) (names : List String) : List Component → Except FileError Place
  | [] =>
    match d.get? names with
    | some e => .ok (.found names e)
    | none => .ok (.free names)
  | c :: rest =>
    match d.get? names with
    | some (.directory entries) =>
      match c with
      | .root | .current => walk d names rest
      | .parent => walk d names.dropLast rest
      | .normal name =>
        if name.utf8ByteSize > longestName then .error .nameTooLong
        else if (entries.lookup name).isNone && !rest.isEmpty then .error .notFound
        else walk d (names ++ [name]) rest
    | _ => .error .notDirectory

/-- Where the components of a path start. -/
def start (d : Disk) (p : FilePath) : List String := if p.isAbsolute then [] else d.here

/-- A path that no file can have. -/
def checkPath (p : FilePath) : Except FileError Unit :=
  if p.text.toList.contains '\x00' then .error .nulByte
  else if p.text.isEmpty then .error .notFound
  else if p.text.utf8ByteSize > longestPath then .error .nameTooLong
  else .ok ()

/-- Whether the text of a path ends so that it has to be a directory. -/
def namesDirectory (p : FilePath) : Bool :=
  match p.text.toList.reverse with
  | '/' :: _ => true
  | '.' :: '/' :: _ => true
  | _ => false

def place (d : Disk) (p : FilePath) : Except FileError Place := do
  checkPath p
  let place ← d.walk (d.start p) p.components
  match place with
  | .found _ (.file _) => if namesDirectory p then throw .notDirectory else return place
  | _ => return place

/-- The entry that a path leads to. -/
def entry (d : Disk) (p : FilePath) : Except FileError Entry := do
  match ← d.place p with
  | .found _ e => return e
  | .free _ => throw .notFound

def isFile (d : Disk) (p : FilePath) : Bool :=
  match d.entry p with
  | .ok (.file _) => true
  | _ => false

def isDirectory (d : Disk) (p : FilePath) : Bool :=
  match d.entry p with
  | .ok (.directory _) => true
  | _ => false

def readText (d : Disk) (p : FilePath) : Except FileError String := do
  match ← d.entry p with
  | .directory _ => throw .isDirectory
  | .file content =>
    match String.fromUTF8? content with
    | some s => return s
    | none => throw .notText

/-- The names in a directory, in order. -/
def list (d : Disk) (p : FilePath) : Except FileError (List String) := do
  match ← d.entry p with
  | .directory entries => return entries.map (·.1)
  | .file _ => throw .notDirectory

/-- Makes the directories of a path that are missing.  The ones made before a
failure stay. -/
def makeDirectories (d : Disk) (p : FilePath) : Disk × Except FileError Unit :=
  if p.text.isEmpty then (d, .ok ())
  else
    match checkPath p with
    | .error e => (d, .error e)
    | .ok () => go d (d.start p) p.components
where
  go (d : Disk) (names : List String) : List Component → Disk × Except FileError Unit
    | [] => (d, .ok ())
    | c :: rest =>
      match d.walk names [c] with
      | .ok (.found names (.directory _)) => go d names rest
      | .ok (.found _ (.file _)) =>
        (d, .error (if rest.isEmpty then .exists else .notDirectory))
      | .ok (.free names) => go (d.set names .empty) names rest
      | .error e => (d, .error e)

/-- Writes a file, in place of one that is there. -/
def write (d : Disk) (p : FilePath) (content : ByteArray) : Except FileError Disk := do
  match ← d.place p with
  | .found names (.file _) => return d.set names (.file content)
  | .found _ (.directory _) => throw .isDirectory
  | .free names =>
    if namesDirectory p then throw .isDirectory else return d.set names (.file content)

/-- Writes a file after making the directories that are missing above it.  What
cannot be written is left out. -/
def provide (d : Disk) (p : FilePath) (content : ByteArray) : Disk :=
  let d := (d.makeDirectories ((p.parent?).getD ⟨""⟩)).1
  (d.write p content).toOption.getD d

def writeText (d : Disk) (p : FilePath) (text : String) : Except FileError Disk :=
  d.write p text.toUTF8

end Disk

namespace Entry

mutual

/-- The files below an entry, each directory's in path order. -/
def files (above : FilePath) : Entry → List (FilePath × ByteArray)
  | .file content => [(above, content)]
  | .directory entries => filesIn above entries

def filesIn (above : FilePath) : List (String × Entry) → List (FilePath × ByteArray)
  | [] => []
  | (name, e) :: rest => e.files (above.push name) ++ filesIn above rest

end

end Entry

namespace Disk

/-- The files below a path, with their contents. -/
def filesBelow (d : Disk) (p : FilePath) : List (FilePath × ByteArray) :=
  match d.entry p with
  | .ok (.directory entries) => Entry.filesIn p entries
  | _ => []

end Disk

end Files
end TypedGraph
