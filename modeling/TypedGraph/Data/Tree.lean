/-
Documents as they are read.

A tree of data keeps what a document holds in the order it is written.  Where
the text stops being a document, the tree ends in the fault that was met: as a
value of its own, or as what came in place of the end of a sequence or mapping.
So whoever walks the tree meets faults in reading order.
-/
import TypedGraph.Number.Double

namespace TypedGraph
namespace Data

open Number (Double)

/-- Why a text is not a document. -/
inductive Fault
  | valueEnds
  | objectEnds
  | listEnds
  | textEnds
  | expectedValue
  | expectedWord
  | expectedColon
  | expectedObjectComma
  | expectedListComma
  | keyNotText
  | trailingComma
  | trailingCharacters
  | badEscape
  | pairEnds
  | lonePairHalf
  | badNumber
  | numberTooLarge
  | controlCharacter
  | tooDeep
deriving DecidableEq, Repr

namespace Fault

def message : Fault → String
  | .valueEnds => "EOF while parsing a value"
  | .objectEnds => "EOF while parsing an object"
  | .listEnds => "EOF while parsing a list"
  | .textEnds => "EOF while parsing a string"
  | .expectedValue => "expected value"
  | .expectedWord => "expected ident"
  | .expectedColon => "expected \x60:\x60"
  | .expectedObjectComma => "expected \x60,\x60 or \x60\x7d\x60"
  | .expectedListComma => "expected \x60,\x60 or \x60]\x60"
  | .keyNotText => "key must be a string"
  | .trailingComma => "trailing comma"
  | .trailingCharacters => "trailing characters"
  | .badEscape => "invalid escape"
  | .pairEnds => "unexpected end of hex escape"
  | .lonePairHalf => "lone leading surrogate in hex escape"
  | .badNumber => "invalid number"
  | .numberTooLarge => "number out of range"
  | .controlCharacter => "control character (\\u0000-\\u001F) found while parsing a string"
  | .tooDeep => "recursion limit exceeded"

end Fault

inductive Tree
  | null
  | boolean (b : Bool)
  | integer (n : Int)
  | float (x : Double)
  | text (s : String)
  | sequence (items : List Tree) (fault : Option Fault)
  | mapping (entries : List (String × Tree)) (fault : Option Fault)
  | broken (f : Fault)

namespace Tree

/-- A mapping without faults. -/
def object (entries : List (String × Tree)) : Tree := .mapping entries none

/-- A sequence without faults. -/
def list (items : List Tree) : Tree := .sequence items none

mutual

/-- The fault that a reader of the whole tree meets. -/
def fault? : Tree → Option Fault
  | .broken f => some f
  | .sequence items f => (faultIn? items).or f
  | .mapping entries f => (faultInEntries? entries).or f
  | _ => none

def faultIn? : List Tree → Option Fault
  | [] => none
  | t :: rest => t.fault?.or (faultIn? rest)

def faultInEntries? : List (String × Tree) → Option Fault
  | [] => none
  | (_, t) :: rest => t.fault?.or (faultInEntries? rest)

end

/-- The value of the last entry with a key. -/
def entry? (key : String) : Tree → Option Tree
  | .mapping entries _ => (entries.reverse.find? (·.1 == key)).map (·.2)
  | _ => none

end Tree

end Data
end TypedGraph
