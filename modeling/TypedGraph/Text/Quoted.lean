/-
Text between double quotes.

`quote` writes a text as a string literal, and `shown` as messages show it: what
ends the text or starts an escape is escaped, and so is what could not be seen
in it.
-/
import TypedGraph.Text.Visible

namespace TypedGraph
namespace Text

/-- Lower-case hexadecimal digits without leading zeros. -/
def hex (n : Nat) : String := String.ofList (Nat.toDigits 16 n)

/-- The escaped form of one character. -/
def escapeChar (c : Char) : String :=
  if c == '\x00' then "\\0"
  else if c == '\t' then "\\t"
  else if c == '\r' then "\\r"
  else if c == '\n' then "\\n"
  else if c == '"' then "\\\""
  else if c == '\\' then "\\\\"
  else if isGraphemeExtend c || !isPrintable c then "\\u\x7b" ++ hex c.toNat ++ "\x7d"
  else c.toString

def isOctal (c : Char) : Bool := '0' ≤ c && c ≤ '7'

/-- A NUL before an octal digit is spelled out, so that it cannot be read as an
octal escape. -/
def escapeChars : List Char → String
  | [] => ""
  | c :: rest =>
    (if c == '\x00' && rest.head?.any isOctal then "\\x00" else escapeChar c) ++ escapeChars rest

/-- A text as a string literal. -/
def quote (s : String) : String := "\"" ++ escapeChars s.toList ++ "\""

/-- A text between quotes, for a reader. -/
def shown (s : String) : String := "\"" ++ String.join (s.toList.map escapeChar) ++ "\""

end Text
end TypedGraph
