/-
Paths given as text.

`path?` reads names joined by `::`, each with type arguments if it has any.  A
path of this kind can stand where a type is expected; `Path.inExpression` tells
whether it can also start an expression, where arguments need `::` before them.
-/
import TypedGraph.Code.Ident
import TypedGraph.Code.Tree

namespace TypedGraph
namespace Code

/-- Keywords that may be names of a path, but take no arguments. -/
def pathKeywords : List String := ["super", "self", "crate", "try"]

namespace PathReader

def colons? : List Token → Option (List Token)
  | .punct ':' true :: .punct ':' _ :: rest => some rest
  | _ => none

/-- Whether arguments follow: `<` that is not part of `<=` or `<<=`. -/
def opensArguments : List Token → Bool
  | .punct '<' joint :: rest =>
    match rest with
    | .punct '=' _ :: _ => !joint
    | .punct '<' true :: .punct '=' _ :: _ => !joint
    | _ => true
  | _ => false

def isLifetime : List Token → Bool
  | .punct '\'' _ :: .ident _ :: _ => true
  | _ => false

/-- A type that was read after words. -/
def marked? (words : String) : Option (Ty × List Token) → Option (Ty × List Token)
  | some (t, rest) => some (.marked words t, rest)
  | none => none

mutual

/-- A type; the readers give up when their steps are used up. -/
def type? : Nat → List Token → Option (Ty × List Token)
  | 0, _ => none
  | steps + 1, ts =>
    match ts with
    | .punct '&' _ :: rest =>
      let (lifetime, rest) := match rest with
        | .punct '\'' _ :: .ident name :: rest => (some ("'" ++ name), rest)
        | rest => (none, rest)
      let (mutable, rest) := match rest with
        | .ident "mut" :: rest => (true, rest)
        | rest => (false, rest)
      match type? steps rest with
      | some (t, rest) => some (.ref lifetime mutable t, rest)
      | none => none
    | .punct '!' _ :: rest => some (.word "!", rest)
    | .ident "_" :: rest => some (.word "_", rest)
    | .opening '[' :: rest =>
      match type? steps rest with
      | some (t, .closing ']' :: rest) => some (.slice t, rest)
      | some (t, .punct ';' _ :: .literal n :: .closing ']' :: rest) => some (.array t n, rest)
      | _ => none
    | .opening '(' :: rest =>
      match types? steps rest with
      | some ([inner], false, rest) => some (.parenthesized inner, rest)
      | some (items, _, rest) => some (.tuple items, rest)
      | none => none
    | .punct '*' _ :: .ident "const" :: rest => marked? "*const" (type? steps rest)
    | .punct '*' _ :: .ident "mut" :: rest => marked? "*mut" (type? steps rest)
    | .ident "dyn" :: rest => marked? "dyn" (type? steps rest)
    | .ident "try" :: _ => none
    | _ =>
      match path? steps ts with
      | some (p, rest) => some (p.ty, rest)
      | none => none

/-- Types up to the closing parenthesis, and whether a comma stands before it. -/
def types? : Nat → List Token → Option (List Ty × Bool × List Token)
  | 0, _ => none
  | steps + 1, ts =>
    match ts with
    | .closing ')' :: rest => some ([], true, rest)
    | _ =>
      match type? steps ts with
      | some (t, .closing ')' :: rest) => some ([t], false, rest)
      | some (t, .punct ',' _ :: rest) =>
        match types? steps rest with
        | some (more, comma, rest) => some (t :: more, comma, rest)
        | none => none
      | _ => none

def path? : Nat → List Token → Option (Path × List Token)
  | 0, _ => none
  | steps + 1, ts =>
    let (leading, ts) := match colons? ts with
      | some rest => (true, rest)
      | none => (false, ts)
    match segments? steps ts with
    | some (segments, rest) => some ({ leading, segments }, rest)
    | none => none

def segments? : Nat → List Token → Option (List Segment × List Token)
  | 0, _ => none
  | steps + 1, ts =>
    match segment? steps ts with
    | none => none
    | some (s, rest) =>
      match colons? rest with
      | none => some ([s], rest)
      | some more =>
        match segments? steps more with
        | some (ss, rest) => some (s :: ss, rest)
        | none => none

def segment? : Nat → List Token → Option (Segment × List Token)
  | 0, _ => none
  | steps + 1, ts =>
    match ts with
    | .ident name :: rest =>
      if pathKeywords.contains name then some (.plain name, rest)
      else if keywords.contains name && name != "Self" then none
      else if opensArguments rest then
        match arguments? steps (rest.drop 1) with
        | some (args, rest) => some (.generic name false args, rest)
        | none => none
      else
        match colons? rest with
        | some (.punct '<' _ :: more) =>
          match arguments? steps more with
          | some (args, rest) => some (.generic name true args, rest)
          | none => none
        | _ => some (.plain name, rest)
    | _ => none

/-- Arguments up to the closing `>`; a comma may stand before it. -/
def arguments? : Nat → List Token → Option (List Argument × List Token)
  | 0, _ => none
  | steps + 1, ts =>
    match ts with
    | .punct '>' _ :: rest => some ([], rest)
    | _ =>
      match argument? steps ts with
      | some (a, .punct '>' _ :: rest) => some ([a], rest)
      | some (a, .punct ',' _ :: rest) =>
        match arguments? steps rest with
        | some (as, rest) => some (a :: as, rest)
        | none => none
      | _ => none

def argument? : Nat → List Token → Option (Argument × List Token)
  | 0, _ => none
  | steps + 1, ts =>
    match ts with
    | .punct '\'' _ :: .ident name :: rest => some (.lifetime ("'" ++ name), rest)
    | .literal t :: rest => some (.literal t, rest)
    | .ident "true" :: rest => some (.literal "true", rest)
    | .ident "false" :: rest => some (.literal "false", rest)
    | .punct '-' _ :: .literal t :: rest =>
      if isNumber t then some (.literal ("-" ++ t), rest) else none
    | _ =>
      match type? steps ts with
      | some (t, rest) => some (.type t, rest)
      | none => none

end

end PathReader

/-- The path that a text holds.  Every token is read by at most seven readers. -/
def path? (text : String) : Option Path :=
  match tokens text with
  | none => none
  | some ts =>
    match PathReader.path? (7 * ts.length + 7) ts with
    | some (p, []) => some p
    | _ => none

namespace Segment

def name : Segment → String
  | .plain n => n
  | .generic n _ _ => n
  | .callable n _ _ => n

/-- Whether nothing is applied to the name. -/
def isPlain : Segment → Bool
  | .plain _ => true
  | _ => false

/-- Arguments written directly after a name are a comparison in an
expression. -/
def inExpression : Segment → Bool
  | .plain _ => true
  | .generic _ turbofish _ => turbofish
  | .callable .. => false

end Segment

namespace Path

def inExpression (p : Path) : Bool := p.segments.all Segment.inExpression

/-- The keyword `try` starts no type. -/
def inType (p : Path) : Bool :=
  p.leading || p.segments.head?.all (fun s => s.name != "try")

end Path

end Code
end TypedGraph
