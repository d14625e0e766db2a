/-
Reading values and records out of data.

A record is read from a mapping or, by position, from a sequence.  Its shape says
which fields it has; fields are read in the order of the data, and fields that
are missing are noticed at the end of it.
-/
import TypedGraph.Data.Tree
import TypedGraph.Number.Shortest
import TypedGraph.Text.Quoted

namespace TypedGraph
namespace Data

open Number (Double)

/-- What stands where something else was expected. -/
inductive Found
  | null
  | boolean (b : Bool)
  | integer (n : Int)
  | float (x : Double)
  | text (s : String)
  | sequence
  | mapping
deriving DecidableEq, Repr

inductive DecodeError
  | fault (f : Fault)
  | invalidType (found : Found) (expected : String)
  | invalidValue (found : Found) (expected : String)
  | invalidLength (length : Nat) (expected : String)
  | missingField (name : String)
  | duplicateField (name : String)
  | unknownField (name : String) (known : List String)
  | unknownVariant (name : String) (known : List String)
deriving DecidableEq, Repr

namespace Found

/-- Numbers are written as the notation of the document writes them. -/
def describe (floatText : Double → String) : Found → String
  | .null => "null"
  | .boolean b => "boolean \x60" ++ (if b then "true" else "false") ++ "\x60"
  | .integer n => "integer \x60" ++ toString n ++ "\x60" ++ width n
  | .float x => "floating point \x60" ++ floatText x ++ "\x60"
  | .text s => "string " ++ Text.shown s
  | .sequence => "sequence"
  | .mapping => "map"
where
  /-- Integers of more than 64 bits are shown with the width that holds them. -/
  width (n : Int) : String :=
    if -Int.pow 2 63 ≤ n && n < Int.pow 2 64 then ""
    else if n < Int.pow 2 127 then " as i128" else " as u128"

end Found

namespace DecodeError

def marked (name : String) : String := "\x60" ++ name ++ "\x60"

/-- The known names: one, either of two, or one of more. -/
def choices : List String → String
  | [] => ""
  | [a] => marked a
  | [a, b] => marked a ++ " or " ++ marked b
  | names => "one of " ++ ", ".intercalate (names.map marked)

def message (floatText : Double → String) : DecodeError → String
  | .fault f => f.message
  | .invalidType found expected =>
    "invalid type: " ++ found.describe floatText ++ ", expected " ++ expected
  | .invalidValue found expected =>
    "invalid value: " ++ found.describe floatText ++ ", expected " ++ expected
  | .invalidLength length expected =>
    "invalid length " ++ toString length ++ ", expected " ++ expected
  | .missingField name => "missing field " ++ marked name
  | .duplicateField name => "duplicate field " ++ marked name
  | .unknownField name known => "unknown field " ++ marked name ++ ", expected " ++ choices known
  | .unknownVariant name known =>
    "unknown variant " ++ marked name ++ ", expected " ++ choices known

end DecodeError

/-- Reads a value of a type. -/
abbrev Decoder (α : Type) := Tree → Except DecodeError α

namespace Tree

/-- What a reader finds who expected something else. -/
def mismatch (expected : String) : Tree → DecodeError
  | .null => .invalidType .null expected
  | .boolean b => .invalidType (.boolean b) expected
  | .integer n => .invalidType (.integer n) expected
  | .float x => .invalidType (.float x) expected
  | .text s => .invalidType (.text s) expected
  | .sequence .. => .invalidType .sequence expected
  | .mapping .. => .invalidType .mapping expected
  | .broken f => .fault f

/-- A text that is called otherwise in messages. -/
def textAs (expected : String) : Decoder String
  | .text s => .ok s
  | t => .error (t.mismatch expected)

def text? : Decoder String := textAs "a string"

def boolean? : Decoder Bool
  | .boolean b => .ok b
  | t => .error (t.mismatch "a boolean")

/-- Null is no value. -/
def optional (value : Decoder α) : Decoder (Option α)
  | .null => .ok none
  | t => some <$> value t

/-- What a fault at the end of the data makes of a value. -/
def closing (value : α) : Option Fault → Except DecodeError α
  | none => .ok value
  | some f => .error (.fault f)

def items (item : Decoder α) : Decoder (List α)
  | .sequence trees fault => do closing (← trees.mapM item) fault
  | t => .error (t.mismatch "a sequence")

/-- The entries of a mapping, in the order they are written. -/
def entries (value : Decoder α) : Decoder (List (String × α))
  | .mapping trees fault => do
    closing (← trees.mapM fun (key, t) => do return (key, ← value t)) fault
  | t => .error (t.mismatch "a map")

def isNull : Tree → Bool
  | .null => true
  | _ => false

def isNullOrEmpty : Tree → Bool
  | .null | .mapping [] none => true
  | _ => false

/-- A choice among names, which stands as a text or as the one key of a mapping
to what says nothing. -/
def choice (saysNothing : Tree → Bool) (known : List (String × α)) : Decoder α
  | .text s => pick s
  | .mapping [(key, value)] none => do
    let picked ← pick key
    if saysNothing value then return picked else throw (value.mismatch "unit")
  | .mapping .. => .error (.invalidValue .mapping "map with a single key")
  | t => .error (t.mismatch "string or map")
where
  pick (s : String) : Except DecodeError α :=
    match known.lookup s with
    | some a => .ok a
    | none => .error (.unknownVariant s (known.map (·.1)))

end Tree

/-! ## Records -/

/-- A field fills its part of a record. -/
structure Field (α : Type) where
  name : String
  required : Bool := false
  read : Tree → α → Except DecodeError α

namespace Field

/-- A field that `put` stores a value of. -/
def of (name : String) (value : Decoder β) (put : β → α → α) : Field α :=
  { name, read := fun t record => do return put (← value t) record }

def must (f : Field α) : Field α := { f with required := true }

end Field

/-- What becomes of items past the last field of a record. -/
inductive Surplus
  /-- They are left in the text, which should have ended. -/
  | trailing
  /-- They are counted against the fields. -/
  | counted
  /-- There are too many of them. -/
  | tooMany
  | ignored

structure Shape (α : Type) where
  /-- What messages call the record. -/
  name : String
  fields : List (Field α)
  /-- Whether other keys are refused. -/
  closed : Bool := false
  surplus : Surplus := .ignored

namespace Shape

variable (shape : Shape α)

def fieldNames : List String := shape.fields.map (·.name)

def missing? (seen : List String) : Option String :=
  (shape.fields.find? fun f => f.required && !seen.contains f.name).map (·.name)

/-- Goes on with entries, where the keys in `seen` came before. -/
def readEntries (record : α) (seen : List String) :
    List (String × Tree) → Except DecodeError (α × List String)
  | [] => .ok (record, seen)
  | (key, value) :: rest =>
    match shape.fields.find? (·.name == key) with
    | none =>
      if shape.closed then .error (.unknownField key shape.fieldNames)
      else readEntries record seen rest
    | some field =>
      if seen.contains key then .error (.duplicateField key)
      else
        match field.read value record with
        | .ok record => readEntries record (key :: seen) rest
        | .error e => .error e

def elements (count : Nat) : String :=
  if count = 1 then "1 element" else toString count ++ " elements"

/-- What the items are found to be after the last field. -/
def surplusError? (length : Nat) (items : List Tree) (fault : Option Fault) : Option DecodeError :=
  match shape.surplus with
  | .trailing =>
    if !items.isEmpty || fault == some .expectedListComma then some (.fault .trailingCharacters)
    else fault.map .fault
  | .counted =>
    if items.isEmpty then none
    else some (.invalidLength (length + items.length) (elements length ++ " in sequence"))
  | .tooMany =>
    if items.isEmpty then none
    else some (.invalidLength (length + items.length) "fewer elements in array")
  | .ignored => none

/-- Goes on with fields by position, `index` of which came before. -/
def readItems (record : α) (index : Nat) (fault : Option Fault) :
    List (Field α) → List Tree → Except DecodeError α
  | [], items =>
    match shape.surplusError? index items fault with
    | some e => .error e
    | none => .ok record
  | field :: fields, [] =>
    match fault with
    | some f => .error (.fault f)
    | none =>
      if field.required then
        .error (.invalidLength index (shape.name ++ " with " ++ elements shape.fields.length))
      else readItems record (index + 1) none fields []
  | field :: fields, item :: items =>
    match field.read item record with
    | .ok record => readItems record (index + 1) fault fields items
    | .error e => .error e

/-- Reads a record, whose fields start out as in `start`. -/
def read (start : α) : Decoder α
  | .mapping entries fault => do
    let (record, seen) ← shape.readEntries start [] entries
    let record ← Tree.closing record fault
    match shape.missing? seen with
    | some name => throw (.missingField name)
    | none => return record
  | .sequence items fault => shape.readItems start 0 fault shape.fields items
  | t => .error (t.mismatch shape.name)

end Shape

end Data
end TypedGraph
