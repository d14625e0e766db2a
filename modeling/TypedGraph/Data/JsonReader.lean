/-
Reading of JSON.

A value, and each item and entry in it, is read up to where it ends; the rest of
the text is then read by whoever asked for the value.  Arrays and objects may be
nested 127 deep.
-/
import TypedGraph.Data.Tree
import TypedGraph.Number.Reading

namespace TypedGraph
namespace Data
namespace Json

open Number (Double isDigit digitValue)

/-- A value and the text after it, if the value could be read whole. -/
abbrev Reading (α : Type) := α × Option (List Char)

/-- Arrays and objects may not be nested so deep. -/
def depthLimit : Nat := 128

def isSpace (c : Char) : Bool := c = ' ' || c = '\n' || c = '\t' || c = '\r'

def skipSpace (cs : List Char) : List Char := cs.dropWhile isSpace

/-! ## Numbers -/

def wordLimit : Nat := Nat.pow 2 64

/-- Goes on with a number's digits as long as they fit a word; the result says
how many digits were taken, and how many left out. -/
def takeDigits (value taken : Nat) : List Char → Nat × Nat × Nat × List Char
  | [] => (value, taken, 0, [])
  | c :: rest =>
    if isDigit c then
      let next := value * 10 + digitValue c
      if next < wordLimit then takeDigits next (taken + 1) rest
      else (value, taken, ((c :: rest).takeWhile isDigit).length, (c :: rest).dropWhile isDigit)
    else (value, taken, 0, c :: rest)

/-- Greatest power of ten that is a double. -/
def greatestPower : Int := 308

/-- A significand times a power of ten, each step of which is rounded; a lower
power takes two steps. -/
def scaleFloat (negative : Bool) (significand : Nat) (exponent : Int) : Tree :=
  match Double.ofRatio negative significand 1 with
  | .finite _ 0 _ => .float (.ofRatio negative 0 1)
  | start =>
    if exponent > greatestPower then .broken .numberTooLarge
    else if exponent < -2 * greatestPower then .float (.ofRatio negative 0 1)
    else
      let scaled := if exponent < -greatestPower then
          (start.scaleByTen (-greatestPower)).scaleByTen (exponent + greatestPower)
        else start.scaleByTen exponent
      match scaled with
      | .infinite _ => .broken .numberTooLarge
      | x => .float x

/-- The exponent after `e`. -/
def readExponent (negative : Bool) (significand : Nat) (before : Int) (cs : List Char) :
    Reading Tree :=
  let (down, digits) := Number.takeSign cs
  match digits with
  | [] => (.broken .valueEnds, none)
  | c :: _ =>
    if !isDigit c then (.broken .badNumber, none)
    else
      let n := Number.ofDigits (digits.takeWhile isDigit)
      let rest := some (digits.dropWhile isDigit)
      if n ≥ Nat.pow 2 31 then
        if significand ≠ 0 && !down then (.broken .numberTooLarge, none)
        else (.float (.ofRatio negative 0 1), rest)
      else (scaleFloat negative significand (before + if down then -(n : Int) else n), rest)

def isExponentMark (c : Char) : Bool := c = 'e' || c = 'E'

/-- What may follow the whole part of a number that is not an integer. -/
def readFraction (negative : Bool) (significand : Nat) (before : Int) : List Char → Reading Tree
  | '.' :: cs =>
    match takeDigits significand 0 cs with
    | (value, taken, left, rest) =>
      if taken + left = 0 then
        if cs.isEmpty then (.broken .valueEnds, none) else (.broken .badNumber, none)
      else
        let exponent := before - taken
        match rest with
        | c :: more =>
          if isExponentMark c then readExponent negative value exponent more
          else (scaleFloat negative value exponent, some rest)
        | [] => (scaleFloat negative value exponent, some [])
  | c :: more =>
    if isExponentMark c then readExponent negative significand before more
    else (scaleFloat negative significand before, some (c :: more))
  | [] => (scaleFloat negative significand before, some [])

/-- An integer has to fit a word, which is signed when there is a minus; zero
with a minus is no integer. -/
def wholeNumber (negative : Bool) (value : Nat) : Tree :=
  if !negative then .integer value
  else if value = 0 || value > Nat.pow 2 63 then .float (.ofRatio true value 1)
  else .integer (-(value : Int))

def readNumber (negative : Bool) (cs : List Char) : Reading Tree :=
  match cs with
  | [] => (.broken .valueEnds, none)
  | '0' :: c :: _ => if isDigit c then (.broken .badNumber, none) else go
  | c :: _ => if isDigit c then go else (.broken .badNumber, none)
where
  go : Reading Tree :=
    match takeDigits 0 0 cs with
    | (value, _, left, rest) =>
      let fraction := match rest with
        | c :: _ => c = '.' || isExponentMark c
        | [] => false
      if fraction || left > 0 then readFraction negative value left rest
      else (wholeNumber negative value, some rest)

/-! ## Texts -/

def hexValue? (c : Char) : Option Nat :=
  if isDigit c then some (digitValue c)
  else if 'a' ≤ c && c ≤ 'f' then some (c.toNat - 'a'.toNat + 10)
  else if 'A' ≤ c && c ≤ 'F' then some (c.toNat - 'A'.toNat + 10)
  else none

/-- The first four bytes as a number in hexadecimal. -/
def readUnit (cs : List Char) : Except Fault (Nat × List Char) :=
  if (cs.take 4).foldl (fun n c => n + c.utf8Size) 0 < 4 then .error .textEnds
  else
    match (cs.take 4).mapM hexValue? with
    | some digits => .ok (digits.foldl (fun n d => n * 16 + d) 0, cs.drop 4)
    | none => .error .badEscape

/-- The other half of a pair of units. -/
def readPairHalf : List Char → Except Fault (Nat × List Char)
  | [] => .error .textEnds
  | '\\' :: [] => .error .textEnds
  | '\\' :: 'u' :: rest => readUnit rest
  | _ => .error .pairEnds

def isLeading (unit : Nat) : Bool := 0xD800 ≤ unit && unit ≤ 0xDBFF

def isTrailing (unit : Nat) : Bool := 0xDC00 ≤ unit && unit ≤ 0xDFFF

/-- The character that one unit or a pair of them writes. -/
def readUnicode (cs : List Char) : Except Fault (Char × List Char) := do
  let (unit, rest) ← readUnit cs
  if isTrailing unit then throw .lonePairHalf
  if isLeading unit then
    let (other, rest) ← readPairHalf rest
    if !isTrailing other then throw .lonePairHalf
    return (Char.ofNat (0x10000 + (unit - 0xD800) * 0x400 + (other - 0xDC00)), rest)
  return (Char.ofNat unit, rest)

/-- The character after a backslash. -/
def readEscape : List Char → Except Fault (Char × List Char)
  | [] => .error .textEnds
  | 'u' :: rest => readUnicode rest
  | c :: rest =>
    match c with
    | '"' => .ok ('"', rest)
    | '\\' => .ok ('\\', rest)
    | '/' => .ok ('/', rest)
    | 'b' => .ok ('\x08', rest)
    | 'f' => .ok ('\x0c', rest)
    | 'n' => .ok ('\n', rest)
    | 'r' => .ok ('\r', rest)
    | 't' => .ok ('\t', rest)
    | _ => .error .badEscape

/-- Goes on with a text, whose characters so far are given backwards.  Every
step takes a character, so as many steps as there are characters suffice. -/
def readTextFrom (before : List Char) : Nat → List Char → Except Fault (String × List Char)
  | 0, _ => .error .textEnds
  | _ + 1, [] => .error .textEnds
  | steps + 1, c :: rest =>
    if c = '"' then .ok (String.ofList before.reverse, rest)
    else if c = '\\' then
      match readEscape rest with
      | .ok (escaped, rest) => readTextFrom (escaped :: before) steps rest
      | .error f => .error f
    else if c.toNat < 0x20 then .error .controlCharacter
    else readTextFrom (c :: before) steps rest

/-- The text up to the closing quote. -/
def readText (cs : List Char) : Except Fault (String × List Char) :=
  readTextFrom [] (cs.length + 1) cs

/-! ## Values -/

/-- A word that starts with a character already seen. -/
def readWord (value : Tree) : List Char → List Char → Reading Tree
  | [], rest => (value, some rest)
  | _ :: _, [] => (.broken .valueEnds, none)
  | c :: word, d :: rest =>
    if c = d then readWord value word rest else (.broken .expectedWord, none)

mutual

/-- A value at a depth.  Every value takes a character, so as many steps as there
are characters suffice. -/
def readValue (depth : Nat) : Nat → List Char → Reading Tree
  | 0, _ => (.broken .valueEnds, none)
  | steps + 1, cs =>
    match skipSpace cs with
    | [] => (.broken .valueEnds, none)
    | 'n' :: rest => readWord .null ['u', 'l', 'l'] rest
    | 't' :: rest => readWord (.boolean true) ['r', 'u', 'e'] rest
    | 'f' :: rest => readWord (.boolean false) ['a', 'l', 's', 'e'] rest
    | '-' :: rest => readNumber true rest
    | '"' :: rest =>
      match readText rest with
      | .ok (s, rest) => (.text s, some rest)
      | .error f => (.broken f, none)
    | '[' :: rest =>
      if depth + 1 ≥ depthLimit then (.broken .tooDeep, none)
      else
        match readItems (depth + 1) true steps rest with
        | (items, fault, rest) => (.sequence items fault, rest)
    | '\x7b' :: rest =>
      if depth + 1 ≥ depthLimit then (.broken .tooDeep, none)
      else
        match readEntries (depth + 1) true steps rest with
        | (entries, fault, rest) => (.mapping entries fault, rest)
    | c :: rest =>
      if isDigit c then readNumber false (c :: rest) else (.broken .expectedValue, none)
termination_by structural steps => steps

/-- An item and those after it. -/
def readItem (depth : Nat) : Nat → List Char → List Tree × Option Fault × Option (List Char)
  | 0, _ => ([], some .listEnds, none)
  | steps + 1, cs =>
    match readValue depth steps cs with
    | (item, none) => ([item], none, none)
    | (item, some rest) =>
      match readItems depth false steps rest with
      | (items, fault, rest) => (item :: items, fault, rest)
termination_by structural steps => steps

/-- The items up to the end of an array. -/
def readItems (depth : Nat) (first : Bool) :
    Nat → List Char → List Tree × Option Fault × Option (List Char)
  | 0, _ => ([], some .listEnds, none)
  | steps + 1, cs =>
    match skipSpace cs with
    | [] => ([], some .listEnds, none)
    | ']' :: rest => ([], none, some rest)
    | c :: rest =>
      if first then readItem depth steps (c :: rest)
      else if c = ',' then
        match skipSpace rest with
        | ']' :: _ => ([], some .trailingComma, none)
        | rest => readItem depth steps rest
      else ([], some .expectedListComma, none)
termination_by structural steps => steps

/-- An entry, after the quote that its key starts with, and those after it. -/
def readEntry (depth : Nat) :
    Nat → List Char → List (String × Tree) × Option Fault × Option (List Char)
  | 0, _ => ([], some .objectEnds, none)
  | steps + 1, cs =>
    match readText cs with
    | .error f => ([], some f, none)
    | .ok (key, rest) =>
      match skipSpace rest with
      | [] => ([(key, .broken .objectEnds)], none, none)
      | ':' :: rest =>
        match readValue depth steps rest with
        | (value, none) => ([(key, value)], none, none)
        | (value, some rest) =>
          match readEntries depth false steps rest with
          | (entries, fault, rest) => ((key, value) :: entries, fault, rest)
      | _ => ([(key, .broken .expectedColon)], none, none)
termination_by structural steps => steps

/-- The entries up to the end of an object. -/
def readEntries (depth : Nat) (first : Bool) :
    Nat → List Char → List (String × Tree) × Option Fault × Option (List Char)
  | 0, _ => ([], some .objectEnds, none)
  | steps + 1, cs =>
    match skipSpace cs with
    | [] => ([], some .objectEnds, none)
    | '\x7d' :: rest => ([], none, some rest)
    | c :: rest =>
      if first then
        if c = '"' then readEntry depth steps rest else ([], some .keyNotText, none)
      else if c = ',' then
        match skipSpace rest with
        | [] => ([], some .valueEnds, none)
        | '"' :: rest => readEntry depth steps rest
        | '\x7d' :: _ => ([], some .trailingComma, none)
        | _ => ([], some .keyNotText, none)
      else ([], some .expectedObjectComma, none)
termination_by structural steps => steps

end

/-- The fault after a whole document, if more text follows. -/
def endFault? : Option (List Char) → Option Fault
  | some rest => if (skipSpace rest).isEmpty then none else some .trailingCharacters
  | none => none

/-- The value that a text starts with, and the fault in what follows. -/
def read (source : String) : Tree × Option Fault :=
  let cs := source.toList
  match readValue 0 (2 * cs.length + 4) cs with
  | (t, rest) => (t, endFault? rest)

end Json
end Data
end TypedGraph
