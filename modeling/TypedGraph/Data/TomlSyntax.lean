/-
The lines of a TOML document.

A document is a list of statements: headers of tables and of elements of arrays
of tables, and keys with values.  A key is a list of names.
-/
import TypedGraph.Data.JsonReader

namespace TypedGraph
namespace Data
namespace Toml

open Number (Double isDigit)
open Json (hexValue?)

/-- Why a text is not a document. -/
inductive Fault
  | unclosedText (quote : String)
  | badEscape
  | badCharacter
  | loneReturn
  | keyExpected
  | keyWithoutValue
  | unquotedText
  | unclosedArray
  | missingItemComma
  | unclosedInlineTable
  | missingEntryComma
  | unclosedHeader (bracket : String)
  | lineEndExpected
  | badNumber
  | badDate
  | duplicateKey
  | extendsValue (kind : String)
deriving DecidableEq, Repr

namespace Fault

def message : Fault → String
  | .unclosedText quote =>
    let name := if quote == "\"" then "basic string"
      else if quote == "'" then "literal string"
      else if quote == "\"\"\"" then "multi-line basic string"
      else "multi-line literal string"
    "invalid " ++ name ++ ", expected \x60" ++ quote ++ "\x60"
  | .badEscape =>
    let escapes := ["b", "e", "f", "n", "r", "\\", "\"", "x", "u", "U"]
    "missing escaped value, expected " ++
      ", ".intercalate (escapes.map fun e => "\x60" ++ e ++ "\x60")
  | .badCharacter => "invalid character"
  | .loneReturn => "carriage return must be followed by newline, expected newline"
  | .keyExpected => "unquoted keys cannot be empty, expected letters, numbers, \x60-\x60, \x60_\x60"
  | .keyWithoutValue => "key with no value, expected \x60=\x60"
  | .unquotedText => "string values must be quoted, expected literal string"
  | .unclosedArray => "unclosed array, expected \x60]\x60"
  | .missingItemComma => "missing comma between array elements, expected \x60,\x60"
  | .unclosedInlineTable => "unclosed inline table, expected \x60\x7d\x60"
  | .missingEntryComma => "missing comma between key-value pairs, expected \x60,\x60"
  | .unclosedHeader bracket => "unclosed table, expected \x60" ++ bracket ++ "\x60"
  | .lineEndExpected => "unexpected key or value, expected newline, \x60#\x60"
  | .badNumber => "invalid integer"
  | .badDate => "invalid datetime"
  | .duplicateKey => "duplicate key"
  | .extendsValue kind => "cannot extend value of type " ++ kind ++ " with a dotted key"

end Fault

/-! What is read comes with the text after it. -/

/-! ## Blanks -/

def isBlank (c : Char) : Bool := c = ' ' || c = '\t'

def skipBlanks (cs : List Char) : List Char := cs.dropWhile isBlank

/-- Skips a comment, which ends before the end of its line. -/
def skipComment : List Char → List Char
  | '#' :: rest => rest.dropWhile (· ≠ '\n')
  | cs => cs

/-- Skips blanks, line ends and comments; every step skips one of them. -/
def skipLines : Nat → List Char → List Char
  | 0, cs => cs
  | steps + 1, cs =>
    match skipBlanks cs with
    | '\n' :: rest => skipLines steps rest
    | '\r' :: '\n' :: rest => skipLines steps rest
    | '#' :: rest => skipLines steps (skipComment ('#' :: rest))
    | cs => cs

def skipAll (cs : List Char) : List Char := skipLines cs.length cs

/-- What may follow on a line: blanks, a comment and the line's end. -/
def endLine (cs : List Char) : Except Fault (List Char) :=
  match skipComment (skipBlanks cs) with
  | [] => .ok []
  | '\n' :: rest => .ok rest
  | '\r' :: '\n' :: rest => .ok rest
  | '\r' :: _ => .error .loneReturn
  | _ => .error .lineEndExpected

/-! ## Texts -/

/-- The character of so many hexadecimal digits. -/
def readCode (count : Nat) (cs : List Char) : Except Fault (Char × List Char) :=
  match (cs.take count).mapM hexValue? with
  | some digits =>
    let n := digits.foldl (fun n d => n * 16 + d) 0
    if digits.length = count && Nat.isValidChar n then .ok (Char.ofNat n, cs.drop count)
    else .error .badEscape
  | none => .error .badEscape

/-- The character after a backslash. -/
def readEscape : List Char → Except Fault (Char × List Char)
  | [] => .error .badEscape
  | c :: rest =>
    match c with
    | 'b' => .ok ('\x08', rest)
    | 't' => .ok ('\t', rest)
    | 'n' => .ok ('\n', rest)
    | 'f' => .ok ('\x0c', rest)
    | 'r' => .ok ('\r', rest)
    | 'e' => .ok ('\x1b', rest)
    | '"' => .ok ('"', rest)
    | '\\' => .ok ('\\', rest)
    | 'x' => readCode 2 rest
    | 'u' => readCode 4 rest
    | 'U' => readCode 8 rest
    | _ => .error .badEscape

def isControl (c : Char) : Bool := (c.toNat < 0x20 && c ≠ '\t') || c.toNat = 0x7F

/-- Goes on with a text on one line, whose characters so far are given
backwards. -/
def readLineText (quote : Char) (before : List Char) :
    Nat → List Char → Except Fault (String × List Char)
  | 0, _ => .error (.unclosedText quote.toString)
  | _ + 1, [] => .error (.unclosedText quote.toString)
  | steps + 1, c :: rest =>
    if c = quote then .ok (String.ofList before.reverse, rest)
    else if c = '\n' || c = '\r' then .error (.unclosedText quote.toString)
    else if c = '\\' && quote = '"' then
      match readEscape rest with
      | .ok (escaped, rest) => readLineText quote (escaped :: before) steps rest
      | .error f => .error f
    else if isControl c then .error .badCharacter
    else readLineText quote (c :: before) steps rest

/-- A backslash at the end of a line drops the blanks and line ends after it. -/
def joinsLines (cs : List Char) : Bool :=
  match skipBlanks cs with
  | '\n' :: _ => true
  | '\r' :: '\n' :: _ => true
  | _ => false

def isGap (c : Char) : Bool := isBlank c || c = '\n' || c = '\r'

/-- Goes on with a text over lines.  Up to two quotes may stand before the three
that end it. -/
def readBlockText (quote : Char) (before : List Char) :
    Nat → List Char → Except Fault (String × List Char)
  | 0, _ => .error (.unclosedText (String.ofList [quote, quote, quote]))
  | _ + 1, [] => .error (.unclosedText (String.ofList [quote, quote, quote]))
  | steps + 1, c :: rest =>
    let quotes := ((c :: rest).takeWhile (· = quote)).length
    if quotes ≥ 3 then
      let inside := min (quotes - 3) 2
      .ok (String.ofList (before.reverse ++ List.replicate inside quote),
        (c :: rest).drop (inside + 3))
    else if c = '\\' && quote = '"' then
      if joinsLines rest then readBlockText quote before steps (rest.dropWhile isGap)
      else
        match readEscape rest with
        | .ok (escaped, rest) => readBlockText quote (escaped :: before) steps rest
        | .error f => .error f
    else if c = '\r' then
      match rest with
      | '\n' :: rest => readBlockText quote ('\n' :: '\r' :: before) steps rest
      | _ => .error .loneReturn
    else if isControl c && c ≠ '\n' then .error .badCharacter
    else readBlockText quote (c :: before) steps rest

/-- A line end right after the opening quotes does not count. -/
def dropFirstLineEnd : List Char → List Char
  | '\n' :: rest => rest
  | '\r' :: '\n' :: rest => rest
  | cs => cs

/-- A text after its first quote. -/
def readText (quote : Char) (rest : List Char) : Except Fault (String × List Char) :=
  match rest with
  | c :: d :: more =>
    if c = quote && d = quote then
      readBlockText quote [] (more.length + 1) (dropFirstLineEnd more)
    else readLineText quote [] (rest.length + 1) rest
  | _ => readLineText quote [] (rest.length + 1) rest

/-! ## Keys -/

def isKeyChar (c : Char) : Bool := c.isAlphanum || c = '_' || c = '-'

def readName : List Char → Except Fault (String × List Char)
  | '"' :: rest => readLineText '"' [] (rest.length + 1) rest
  | '\'' :: rest => readLineText '\'' [] (rest.length + 1) rest
  | cs =>
    let name := cs.takeWhile isKeyChar
    if name.isEmpty then .error .keyExpected
    else .ok (String.ofList name, cs.drop name.length)

/-- Names with dots between them; every step reads one. -/
def readKey : Nat → List Char → Except Fault (List String × List Char)
  | 0, _ => .error .keyExpected
  | steps + 1, cs => do
    let (name, rest) ← readName (skipBlanks cs)
    match skipBlanks rest with
    | '.' :: rest =>
      let (names, rest) ← readKey steps rest
      return (name :: names, rest)
    | rest => return ([name], rest)

/-! ## Plain values -/

/-- Drops the underscores of a number, which stand between digits only. -/
def plainDigits? : List Char → Option (List Char)
  | [] => some []
  | [c] => if c = '_' then none else some [c]
  | c :: '_' :: d :: rest =>
    if c.isAlphanum && d.isAlphanum then (plainDigits? (d :: rest)).map (c :: ·) else none
  | c :: rest => if c = '_' then none else (plainDigits? rest).map (c :: ·)

def digitsIn? (base : Nat) (cs : List Char) : Option Nat :=
  if cs.isEmpty then none
  else
    cs.foldlM (fun n c => do
      let d ← hexValue? c
      if d < base then some (n * base + d) else none) 0

/-- No number but zero starts with a zero. -/
def noLeadingZero : List Char → Bool
  | '0' :: c :: _ => !isDigit c
  | _ => true

def wholeNumber? (cs : List Char) : Option Int :=
  match cs with
  | '0' :: 'x' :: digits => (digitsIn? 16 digits).map Int.ofNat
  | '0' :: 'o' :: digits => (digitsIn? 8 digits).map Int.ofNat
  | '0' :: 'b' :: digits => (digitsIn? 2 digits).map Int.ofNat
  | _ =>
    let (negative, digits) := Number.takeSign cs
    if noLeadingZero digits then
      (digitsIn? 10 digits).map fun n => if negative then -(n : Int) else n
    else none

/-- A point has digits on both sides. -/
def fraction? (cs : List Char) : Option Double :=
  let (negative, digits) := Number.takeSign cs
  let word := String.ofList digits
  if word == "inf" then some (.infinite negative)
  else if word == "nan" then some .nan
  else
    let whole := digits.takeWhile isDigit
    let bare := match digits.drop whole.length with
      | '.' :: c :: _ => isDigit c
      | '.' :: [] => false
      | _ => true
    if whole.isEmpty || !bare || !noLeadingZero digits then none
    else (Number.decimal? digits).map fun (n, e) => Double.ofDecimal negative n e

/-- Whether characters are digits, and as many as there should be. -/
def areDigits (count : Nat) (cs : List Char) : Bool := cs.length = count && cs.all isDigit

def isTime (cs : List Char) : Bool :=
  match cs.splitOn ':' with
  | [h, m] => areDigits 2 h && areDigits 2 m && Number.ofDigits h < 24 && Number.ofDigits m < 60
  | [h, m, s] =>
    let whole := s.take 2
    let part := match s.drop 2 with
      | [] => true
      | '.' :: digits => !digits.isEmpty && digits.all isDigit
      | _ => false
    areDigits 2 h && areDigits 2 m && areDigits 2 whole && part && Number.ofDigits h < 24 &&
      Number.ofDigits m < 60 && Number.ofDigits whole ≤ 60
  | _ => false

def isDay (cs : List Char) : Bool :=
  match cs.splitOn '-' with
  | [y, m, d] =>
    areDigits 4 y && areDigits 2 m && areDigits 2 d && 1 ≤ Number.ofDigits m &&
      Number.ofDigits m ≤ 12 && 1 ≤ Number.ofDigits d && Number.ofDigits d ≤ 31
  | _ => false

/-- The part of a time before its offset. -/
def dropOffset (cs : List Char) : List Char :=
  match cs.reverse with
  | 'Z' :: rest | 'z' :: rest => rest.reverse
  | a :: b :: ':' :: c :: d :: sign :: rest =>
    if areDigits 4 [a, b, c, d] && (sign = '+' || sign = '-') then rest.reverse else cs
  | _ => cs

def isDate (cs : List Char) : Bool :=
  let day := cs.take 10
  match cs.drop 10 with
  | [] => isDay day || isTime cs
  | c :: time =>
    (isDay day && (c = 'T' || c = 't' || c = ' ') && isTime (dropOffset time)) || isTime cs

/-- Key of a date, which is a mapping to readers. -/
def dateKey : String := "$__toml_private_datetime"

/-- The value of a word that stands for itself. -/
def plainValue (cs : List Char) : Except Fault Tree :=
  let word := String.ofList cs
  if word == "true" then .ok (.boolean true)
  else if word == "false" then .ok (.boolean false)
  else if isDate cs then .ok (.object [(dateKey, .text word)])
  else
    let number := (plainDigits? cs).bind fun digits =>
      ((wholeNumber? digits).map Tree.integer).or ((fraction? digits).map Tree.float)
    match number, cs with
    | some t, _ => .ok t
    | none, c :: _ =>
      if isDigit c || c = '+' || c = '-' then .error .badNumber else .error .unquotedText
    | none, [] => .error .unquotedText

def endsPlain (c : Char) : Bool :=
  isBlank c || c = ',' || c = ']' || c = '}' || c = '#' || c = '\n' || c = '\r' || c = '='

/-- A plain value; a date may have a blank before its time. -/
def readPlain (cs : List Char) : Except Fault (Tree × List Char) := do
  let word := cs.takeWhile (!endsPlain ·)
  let rest := cs.drop word.length
  let time := (rest.drop 1).takeWhile (!endsPlain ·)
  if isDay word && rest.head? == some ' ' && isTime (dropOffset time) then
    return (← plainValue (word ++ ' ' :: time), rest.drop (1 + time.length))
  else return (← plainValue word, rest)

end Toml
end Data
end TypedGraph
