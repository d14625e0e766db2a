/-
Writing of JSON.

A tree without faults is written on one line, or indented by two spaces with
every item and entry on a line of its own.
-/
import TypedGraph.Data.Tree
import TypedGraph.Number.Shortest

namespace TypedGraph
namespace Data
namespace Json

/-- The two hexadecimal digits of a control character. -/
def controlDigits (c : Char) : String :=
  String.ofList [Nat.digitChar (c.toNat / 16), Nat.digitChar (c.toNat % 16)]

def escape (c : Char) : String :=
  if c = '"' then "\\\""
  else if c = '\\' then "\\\\"
  else if c = '\x08' then "\\b"
  else if c = '\x0c' then "\\f"
  else if c = '\n' then "\\n"
  else if c = '\r' then "\\r"
  else if c = '\t' then "\\t"
  else if c.toNat < 0x20 then "\\u00" ++ controlDigits c
  else c.toString

def quote (s : String) : String := "\"" ++ String.join (s.toList.map escape) ++ "\""

/-- Puts parts between brackets, each on a line of its own. -/
def spread (opening closing : String) (indent : Nat) (parts : List String) : String :=
  let margin (n : Nat) : String := "\n" ++ String.ofList (List.replicate (2 * n) ' ')
  if parts.isEmpty then opening ++ closing
  else
    opening ++ ",".intercalate (parts.map (margin (indent + 1) ++ ·)) ++ margin indent ++ closing

end Json

namespace Tree

open Json (quote spread)

mutual

/-- The tree on one line. -/
def compact : Tree → String
  | .null => "null"
  | .boolean true => "true"
  | .boolean false => "false"
  | .integer n => toString n
  | .float x => x.jsonText
  | .text s => quote s
  | .sequence items _ => "[" ++ ",".intercalate (compactItems items) ++ "]"
  | .mapping entries _ => "\x7b" ++ ",".intercalate (compactEntries entries) ++ "\x7d"
  | .broken _ => ""

def compactItems : List Tree → List String
  | [] => []
  | t :: rest => t.compact :: compactItems rest

def compactEntries : List (String × Tree) → List String
  | [] => []
  | (key, t) :: rest => (quote key ++ ":" ++ t.compact) :: compactEntries rest

end

mutual

/-- The tree over lines, which start at an indentation. -/
def pretty (indent : Nat) : Tree → String
  | .sequence items _ => spread "[" "]" indent (prettyItems (indent + 1) items)
  | .mapping entries _ => spread "\x7b" "\x7d" indent (prettyEntries (indent + 1) entries)
  | .null => "null"
  | .boolean true => "true"
  | .boolean false => "false"
  | .integer n => toString n
  | .float x => x.jsonText
  | .text s => quote s
  | .broken _ => ""

def prettyItems (indent : Nat) : List Tree → List String
  | [] => []
  | t :: rest => t.pretty indent :: prettyItems indent rest

def prettyEntries (indent : Nat) : List (String × Tree) → List String
  | [] => []
  | (key, t) :: rest => (quote key ++ ": " ++ t.pretty indent) :: prettyEntries indent rest

end

/-- Puts an entry where its key belongs, in place of one with the same key. -/
def insertEntry (key : String) (value : Tree) : List (String × Tree) → List (String × Tree)
  | [] => [(key, value)]
  | (k, v) :: rest =>
    match compare key k with
    | .lt => (key, value) :: (k, v) :: rest
    | .eq => (key, value) :: rest
    | .gt => (k, v) :: insertEntry key value rest

mutual

/-- The tree with the keys of every mapping in order; the last of several entries
with one key stays. -/
def sorted : Tree → Tree
  | .sequence items f => .sequence (sortedItems items) f
  | .mapping entries f =>
    .mapping ((sortedEntries entries).foldl (fun es (k, v) => insertEntry k v es) []) f
  | t => t

def sortedItems : List Tree → List Tree
  | [] => []
  | t :: rest => t.sorted :: sortedItems rest

def sortedEntries : List (String × Tree) → List (String × Tree)
  | [] => []
  | (key, t) :: rest => (key, t.sorted) :: sortedEntries rest

end

end Tree

end Data
end TypedGraph
