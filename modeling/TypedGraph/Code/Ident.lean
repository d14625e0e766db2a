/-
Identifiers and literals given as text.

A text is an identifier when it is one token that is no keyword; blanks and
comments around the token do not count.  A parameter value is written as it
stands when it is one literal, and between quotes otherwise.
-/
import TypedGraph.Code.Lexer
import TypedGraph.Text.Quoted

namespace TypedGraph
namespace Code

/-- Words that cannot name anything. -/
def keywords : List String :=
  ["_", "abstract", "as", "async", "await", "become", "box", "break", "const", "continue",
    "crate", "do", "dyn", "else", "enum", "extern", "false", "final", "fn", "for", "if", "impl",
    "in", "let", "loop", "macro", "match", "mod", "move", "mut", "override", "priv", "pub", "ref",
    "return", "Self", "self", "static", "struct", "super", "trait", "true", "try", "type",
    "typeof", "unsafe", "unsized", "use", "virtual", "where", "while", "yield"]

/-- The identifier that a text holds. -/
def identifier? (text : String) : Option String :=
  match tokens text with
  | some [.ident name] => if keywords.contains name then none else some name
  | _ => none

/-- Whether a literal token is a number. -/
def isNumber (literal : String) : Bool := literal.toList.head?.any Char.isDigit

/-- The literal that a text holds, with the sign of a number in front. -/
def literal? (text : String) : Option String :=
  match tokens text with
  | some [.literal t] => some t
  | some [.ident name] => if name == "true" || name == "false" then some name else none
  | some [.punct '-' _, .literal t] => if isNumber t then some ("-" ++ t) else none
  | _ => none

/-- The number that a text holds. -/
def number? (text : String) : Option String :=
  (literal? text).filter fun t => isNumber t || t.toList.head? == some '-'

/-- A literal as it stands, or else the text between quotes. -/
def valueLiteral (text : String) : String :=
  match literal? text with
  | some t => t
  | none =>
    match text.toList with
    | '-' :: rest =>
      match number? (String.ofList rest) with
      | some t => "-" ++ t
      | none => Text.quote text
    | _ => Text.quote text

end Code
end TypedGraph
