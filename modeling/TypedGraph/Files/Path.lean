/-
File paths.

A path is a text whose components are parted by slashes.  Two paths that differ
only in repeated slashes, or in dots between slashes, name the same file;
`components` is what they have in common.
-/
import TypedGraph.Text.Blank

namespace TypedGraph
namespace Files

structure FilePath where
  text : String
deriving DecidableEq, Repr

inductive Component
  | root
  | current
  | parent
  | normal (name : String)
deriving DecidableEq, Repr

namespace Component

/-- The order of paths: the root, `.`, `..`, then names. -/
def rank : Component → Nat
  | .root => 0
  | .current => 1
  | .parent => 2
  | .normal _ => 3

def text : Component → String
  | .root => "/"
  | .current => "."
  | .parent => ".."
  | .normal name => name

def order : Component → Component → Ordering
  | .normal a, .normal b => compare a b
  | a, b => compare a.rank b.rank

end Component

namespace FilePath

def isAbsolute (p : FilePath) : Bool := p.text.toList.head? == some '/'

/-- Continues a path.  An absolute path replaces what came before it. -/
def push (p : FilePath) (next : String) : FilePath :=
  if next.toList.head? == some '/' then ⟨next⟩
  else if p.text.isEmpty || p.text.toList.getLast? == some '/' then ⟨p.text ++ next⟩
  else ⟨p.text ++ "/" ++ next⟩

def join (p q : FilePath) : FilePath := p.push q.text

def ofSegments (segments : List String) : FilePath := segments.foldl push ⟨""⟩

/-- A dot counts only at the start of a relative path. -/
def components (p : FilePath) : List Component :=
  let pieces := (p.text.toList.splitOn '/').map String.ofList
  let named := (pieces.filter fun s => s != "" && s != ".").map fun s =>
    if s = ".." then Component.parent else .normal s
  if p.isAbsolute then .root :: named
  else if pieces.head? == some "." then .current :: named
  else named

/-- The path as far as its last component, which has to be more than the root. -/
def parent? (p : FilePath) : Option FilePath :=
  match p.components.reverse with
  | [] | .root :: _ => none
  | _ :: before => some (before.reverse.foldl (fun q c => q.push c.text) ⟨""⟩)

/-- The last component, when it is a name. -/
def fileName? (p : FilePath) : Option String :=
  match p.components.getLast? with
  | some (.normal name) => some name
  | _ => none

def orderComponents : List Component → List Component → Ordering
  | [], [] => .eq
  | [], _ :: _ => .lt
  | _ :: _, [] => .gt
  | a :: as, b :: bs => (a.order b).then (orderComponents as bs)

def order (p q : FilePath) : Ordering := orderComponents p.components q.components

end FilePath

end Files
end TypedGraph
