/-
Tokens of source text.

`tokens` cuts a text into identifiers, literals, punctuation, delimiters and
documentation comments, and drops blanks and other comments.  It has no answer
when a piece of the text is no token or the delimiters do not match.

The scanners for single tokens take the text from the token on and give what
follows it.
-/
import TypedGraph.Text.Blank
import TypedGraph.Text.IdentifierChars

namespace TypedGraph
namespace Code

inductive Token
  /-- An identifier or keyword, with `r#` when it is raw. -/
  | ident (text : String)
  | literal (text : String)
  /-- A punctuation character; `joint` when another one follows it directly. -/
  | punct (c : Char) (joint : Bool)
  | opening (c : Char)
  | closing (c : Char)
  | doc (inner : Bool) (text : String)
deriving DecidableEq, Repr

namespace Scan

/-! ## Identifiers -/

def identifier (cs : List Char) : Option (List Char) :=
  match cs with
  | c :: rest => if Text.isIdentStart c then some (rest.dropWhile Text.isIdentContinue) else none
  | [] => none

/-- A literal may end in an identifier. -/
def suffix (cs : List Char) : List Char := (identifier cs).getD cs

/-- The text between two ends of the input. -/
def between (cs rest : List Char) : List Char := cs.take (cs.length - rest.length)

def startsWith (start : String) (cs : List Char) : Bool := start.toList.isPrefixOf cs

/-- What no raw identifier may be. -/
def unrawable : List String := ["_", "super", "self", "Self", "crate"]

def anyIdentifier (cs : List Char) : Option (List Char) :=
  if startsWith "r#" cs then do
    let name := cs.drop 2
    let rest ← identifier name
    if unrawable.contains (String.ofList (between name rest)) then none else some rest
  else identifier cs

/-! ## Quoted literals -/

def hexValue? (c : Char) : Option Nat :=
  if '0' ≤ c && c ≤ '9' then some (c.toNat - '0'.toNat)
  else if 'a' ≤ c && c ≤ 'f' then some (c.toNat - 'a'.toNat + 10)
  else if 'A' ≤ c && c ≤ 'F' then some (c.toNat - 'A'.toNat + 10)
  else none

def isScalar (n : Nat) : Bool := n < 0xD800 || (0xDFFF < n && n < 0x110000)

/-- Characters, bytes, or text that is to end in a NUL. -/
inductive Encoding
  | text
  | bytes
  | zeroEnded
deriving DecidableEq

/-- Whether a character may stand in a quoted literal as itself. -/
def Encoding.allows : Encoding → Char → Bool
  | .text, _ => true
  | .bytes, c => c.toNat < 128
  | .zeroEnded, c => c != '\x00'

/-- Whether `\x` may be followed by two digits of these values. -/
def Encoding.allowsHex : Encoding → Nat → Nat → Bool
  | .text, high, _ => high < 8
  | .bytes, _, _ => true
  | .zeroEnded, high, low => high != 0 || low != 0

/-- Where a scan of a quoted literal stands. -/
inductive Within
  | plain
  | afterReturn
  | escape
  | hexHigh
  | hexLow (high : Nat)
  | brace
  | scalar (digits value : Nat)
  | continuation
  | continuationReturn
deriving DecidableEq

/-- One character of a quoted literal, or `none` where it may not stand.  The
closing quote is not among them. -/
def Within.next (e : Encoding) : Within → Char → Option Within
  | .plain, c | .continuation, c =>
    if c == '\r' then some .afterReturn
    else if c == '\\' then some .escape
    else if e.allows c then some .plain
    else none
  | .afterReturn, c => if c == '\n' then some .plain else none
  | .escape, c =>
    if c == 'x' then some .hexHigh
    else if c == 'u' then if e = .bytes then none else some .brace
    else if c == '0' then if e = .zeroEnded then none else some .plain
    else if c == '\n' then some .continuation
    else if c == '\r' then some .continuationReturn
    else if ['n', 'r', 't', '\\', '\'', '"'].contains c then some .plain
    else none
  | .hexHigh, c => (hexValue? c).map .hexLow
  | .hexLow high, c =>
    (hexValue? c).bind fun low => if e.allowsHex high low then some .plain else none
  | .brace, c => if c == '\x7b' then some (.scalar 0 0) else none
  | .scalar digits value, c =>
    match hexValue? c with
    | some d => if digits = 6 then none else some (.scalar (digits + 1) (value * 16 + d))
    | none =>
      if digits = 0 then none
      else if c == '_' then some (.scalar digits value)
      else if c == '\x7d' && isScalar value && !(e = .zeroEnded && value = 0) then some .plain
      else none
  | .continuationReturn, c => if c == '\n' then some .continuation else none

/-- A literal after its opening quote. -/
def cooked (e : Encoding) : Within → List Char → Option (List Char)
  | _, [] => none
  | w, c :: rest =>
    match w, c with
    | .plain, '"' => some (suffix rest)
    | .continuation, '"' => some (suffix rest)
    | .continuation, ' ' => cooked e .continuation rest
    | .continuation, '\t' => cooked e .continuation rest
    | .continuation, '\n' => cooked e .continuation rest
    | .continuation, '\r' => cooked e .continuationReturn rest
    | _, _ =>
      match w.next e c with
      | some w' => cooked e w' rest
      | none => none

/-- A raw literal after its opening quote; `seen` counts the marks after the
last quote, if nothing else stands after it. -/
def rawTail (e : Encoding) (marks : Nat) : Option Nat → Bool → List Char → Option (List Char)
  | seen, afterReturn, [] =>
    if seen = some marks && !afterReturn then some [] else none
  | seen, afterReturn, c :: rest =>
    if seen = some marks then some (suffix (c :: rest))
    else if afterReturn then if c == '\n' then rawTail e marks none false rest else none
    else if c == '"' then rawTail e marks (some 0) false rest
    else if c == '#' then rawTail e marks (seen.map (· + 1)) false rest
    else if c == '\r' then rawTail e marks none true rest
    else if e.allows c then rawTail e marks none false rest
    else none

/-- A raw literal after its `r`. -/
def raw (e : Encoding) (cs : List Char) : Option (List Char) :=
  let marks := (cs.takeWhile (· == '#')).length
  match cs.drop marks with
  | '"' :: rest => if marks ≤ 255 then rawTail e marks none false rest else none
  | _ => none

/-- The escape after a backslash in a character literal. -/
def charEscape (e : Encoding) : Within → List Char → Option (List Char)
  | _, [] => none
  | w, c :: rest =>
    if w = .escape && (c == '\n' || c == '\r') then none
    else
      match w.next e c with
      | some .plain => some rest
      | some w' => charEscape e w' rest
      | none => none

/-- A character literal after its opening quote. -/
def character (e : Encoding) (cs : List Char) : Option (List Char) :=
  let body := match cs with
    | '\\' :: rest => charEscape e .escape rest
    | c :: rest => if e.allows c then some rest else none
    | [] => none
  match body with
  | some ('\'' :: rest) => some (suffix rest)
  | _ => none

def quoted (cs : List Char) : Option (List Char) :=
  match cs with
  | '"' :: rest => cooked .text .plain rest
  | 'r' :: rest => raw .text rest
  | 'b' :: '"' :: rest => cooked .bytes .plain rest
  | 'b' :: 'r' :: rest => raw .bytes rest
  | 'c' :: '"' :: rest => cooked .zeroEnded .plain rest
  | 'c' :: 'r' :: rest => raw .zeroEnded rest
  | 'b' :: '\'' :: rest => character .bytes rest
  | '\'' :: rest => character .text rest
  | _ => none

/-! ## Numbers -/

/-- Digits, underscores and one point; where they end, whether there was a
point, and whether an exponent follows. -/
def mantissa (point : Bool) : List Char → Option (List Char × Bool × Bool)
  | [] => some ([], point, false)
  | c :: rest =>
    if c.isDigit || c == '_' then mantissa point rest
    else if c == '.' then
      if point then some (c :: rest, point, false)
      else if rest.head?.any (fun d => d == '.' || Text.isIdentStart d) then none
      else mantissa true rest
    else if c == 'e' || c == 'E' then some (c :: rest, point, true)
    else some (c :: rest, point, false)

/-- The exponent after its letter, or `none` when it has no digits. -/
def exponent (sign digits : Bool) : List Char → Option (List Char)
  | [] => if digits then some [] else none
  | c :: rest =>
    if c == '+' || c == '-' then
      if digits then some (c :: rest) else if sign then none else exponent true digits rest
    else if c.isDigit then exponent sign true rest
    else if c == '_' then exponent sign digits rest
    else if digits then some (c :: rest)
    else none

def floatDigits (cs : List Char) : Option (List Char) :=
  match cs with
  | c :: rest =>
    if !c.isDigit then none
    else
      match mantissa false rest with
      | none => none
      | some (rest, point, false) => if point then some rest else none
      | some (rest, point, true) =>
        match exponent false false (rest.drop 1) with
        | some rest => some rest
        | none => if point then some rest else none
  | [] => none

/-- The digits of a number in a base below eleven or sixteen, after the letters
that name the base. -/
def baseDigits (base : Nat) (empty : Bool) : List Char → Option (List Char)
  | [] => if empty then none else some []
  | c :: rest =>
    match hexValue? c with
    | some d =>
      if d < base then baseDigits base false rest
      else if d < 10 then none
      else if empty then none
      else some (c :: rest)
    | none =>
      if c == '_' then
        if empty && base = 10 then none else baseDigits base empty rest
      else if empty then none
      else some (c :: rest)

def integerDigits (cs : List Char) : Option (List Char) :=
  if startsWith "0x" cs then baseDigits 16 true (cs.drop 2)
  else if startsWith "0o" cs then baseDigits 8 true (cs.drop 2)
  else if startsWith "0b" cs then baseDigits 2 true (cs.drop 2)
  else baseDigits 10 true cs

/-- A number with its suffix, which no further identifier character follows. -/
def numberEnd (rest : List Char) : Option (List Char) :=
  let rest := suffix rest
  if rest.head?.any Text.isIdentContinue then none else some rest

def number (cs : List Char) : Option (List Char) :=
  match (floatDigits cs).bind numberEnd with
  | some rest => some rest
  | none => (integerDigits cs).bind numberEnd

/-! ## Comments and punctuation -/

/-- A block comment, whose delimiters nest. -/
def blockComment (depth : Nat) : List Char → Option (List Char)
  | '/' :: '*' :: rest => blockComment (depth + 1) rest
  | '*' :: '/' :: rest => if depth ≤ 1 then some rest else blockComment (depth - 1) rest
  | _ :: rest => blockComment depth rest
  | [] => none

/-- The rest of the line, without its end. -/
def lineEnd : List Char → List Char
  | [] => []
  | '\r' :: '\n' :: rest => '\r' :: '\n' :: rest
  | c :: rest => if c = '\n' then c :: rest else lineEnd rest

/-- Directional marks count as blanks too. -/
def isBlank (c : Char) : Bool := Text.isBlank c || c == '\u200e' || c == '\u200f'

/-- Drops one blank or one comment that documents nothing. -/
def blank (cs : List Char) : Option (List Char) :=
  if startsWith "//" cs && (!startsWith "///" cs || startsWith "////" cs) && !startsWith "//!" cs
  then some (lineEnd cs)
  else if startsWith "/**/" cs then some (cs.drop 4)
  else if startsWith "/*" cs && (!startsWith "/**" cs || startsWith "/***" cs) &&
      !startsWith "/*!" cs then
    blockComment 0 cs
  else
    match cs with
    | c :: rest => if isBlank c then some rest else none
    | [] => none

/-- A carriage return in a documentation comment has to end a line. -/
def returnsEndLines : List Char → Bool
  | '\r' :: '\n' :: rest => returnsEndLines rest
  | '\r' :: _ => false
  | _ :: rest => returnsEndLines rest
  | [] => true

/-- A documentation comment: whether it documents what it stands in, its text,
and the rest. -/
def docComment (cs : List Char) : Option (Bool × List Char × List Char) :=
  let line (inner : Bool) := some (inner, between (cs.drop 3) (lineEnd (cs.drop 3)),
    lineEnd (cs.drop 3))
  let block (inner : Bool) := (blockComment 0 cs).map fun rest =>
    (inner, (between cs rest).drop 3 |>.dropLast.dropLast, rest)
  let found :=
    if startsWith "//!" cs then line true
    else if startsWith "/*!" cs then block true
    else if startsWith "///" cs then if startsWith "////" cs then none else line false
    else if startsWith "/**" cs && !startsWith "/***" cs then block false
    else none
  found.filter fun (_, text, _) => returnsEndLines text

def punctuation : List Char := "~!@#$%^&*-=+|;:,<.>/?'".toList

def startsPunct (cs : List Char) : Bool :=
  !startsWith "//" cs && !startsWith "/*" cs && cs.head?.any punctuation.contains

/-- A quote as punctuation starts a lifetime. -/
def lifetimeQuote (rest : List Char) : Bool :=
  match anyIdentifier rest with
  | none => false
  | some after => !(startsWith "'" after || (startsWith "#" after && !startsWith "r#" rest))

def punct (cs : List Char) : Option (Token × List Char) :=
  if !startsPunct cs then none
  else
    match cs with
    | '\'' :: rest => if lifetimeQuote rest then some (.punct '\'' true, rest) else none
    | c :: rest => some (.punct c (startsPunct rest), rest)
    | [] => none

/-- Starts of literals, which start no identifier. -/
def literalStarts : List String :=
  ["r\"", "r#\"", "r##", "b\"", "b'", "br\"", "br#", "c\"", "cr\"", "cr#"]

/-- An identifier, a literal or a punctuation character. -/
def leaf (cs : List Char) : Option (Token × List Char) :=
  match (quoted cs).orElse fun _ => number cs with
  | some rest => some (.literal (String.ofList (between cs rest)), rest)
  | none =>
    match punct cs with
    | some found => some found
    | none =>
      if literalStarts.any (startsWith · cs) then none
      else (anyIdentifier cs).map fun rest => (.ident (String.ofList (between cs rest)), rest)

/-- The delimiter that closes an opening one. -/
def closer? : Char → Option Char
  | '(' => some ')'
  | '[' => some ']'
  | '\x7b' => some '\x7d'
  | _ => none

/-- `all steps open cs` reads tokens up to the end, where the delimiters in
`open` are still to be closed.  Every step takes at least one character. -/
def all : Nat → List Char → List Char → Option (List Token)
  | 0, _, _ => none
  | steps + 1, opened, cs =>
    match cs with
    | [] => if opened.isEmpty then some [] else none
    | c :: rest =>
      match blank cs with
      | some rest => all steps opened rest
      | none =>
        match docComment cs with
        | some (inner, text, rest) =>
          (all steps opened rest).map (Token.doc inner (String.ofList text) :: ·)
        | none =>
          match closer? c with
          | some close => (all steps (close :: opened) rest).map (Token.opening c :: ·)
          | none =>
            if c == ')' || c == ']' || c == '\x7d' then
              match opened with
              | close :: outer =>
                if close = c then (all steps outer rest).map (Token.closing c :: ·) else none
              | [] => none
            else
              match leaf cs with
              | some (token, rest) => (all steps opened rest).map (token :: ·)
              | none => none

end Scan

/-- The tokens of a text, which may start with a byte order mark. -/
def tokens (s : String) : Option (List Token) :=
  let cs := match s.toList with
    | '\ufeff' :: rest => rest
    | cs => cs
  Scan.all (cs.length + 1) [] cs

end Code
end TypedGraph
