/-
Reading of numbers.
-/
import TypedGraph.Number.Double

namespace TypedGraph
namespace Number

def isDigit (c : Char) : Bool := '0' ≤ c && c ≤ '9'

def digitValue (c : Char) : Nat := c.toNat - '0'.toNat

/-- The number that a run of decimal digits writes. -/
def ofDigits (digits : List Char) : Nat := digits.foldl (fun n c => n * 10 + digitValue c) 0

/-- Splits a sign off; without one the number is not negative. -/
def takeSign : List Char → Bool × List Char
  | '-' :: rest => (true, rest)
  | '+' :: rest => (false, rest)
  | cs => (false, cs)

/-- Lower case of the letters from A to Z. -/
def lowerAscii (c : Char) : Char :=
  if 'A' ≤ c && c ≤ 'Z' then Char.ofNat (c.toNat + 32) else c

/-- The exponent of a decimal, which has at least one digit. -/
def exponent? (cs : List Char) : Option Int :=
  let (negative, digits) := takeSign cs
  if digits.isEmpty || !digits.all isDigit then none
  else
    let n : Int := ofDigits digits
    some (if negative then -n else n)

/-- A decimal without a sign: digits with a point before, between or after them,
and then possibly an exponent. -/
def decimal? (cs : List Char) : Option (Nat × Int) :=
  let whole := cs.takeWhile isDigit
  let rest := cs.drop whole.length
  let (fraction, rest) := match rest with
    | '.' :: more => (more.takeWhile isDigit, more.dropWhile isDigit)
    | _ => ([], rest)
  if whole.isEmpty && fraction.isEmpty then none
  else
    let digits := ofDigits (whole ++ fraction)
    let places : Int := fraction.length
    match rest with
    | [] => some (digits, -places)
    | c :: more =>
      if c = 'e' || c = 'E' then (exponent? more).map fun e => (digits, e - places) else none

namespace Double

/-- Reads a number as decimals are written, or one of the words for what is not
finite. -/
def ofText? (s : String) : Option Double :=
  let (negative, rest) := takeSign s.toList
  let word := String.ofList (rest.map lowerAscii)
  if word == "inf" || word == "infinity" then some (.infinite negative)
  else if word == "nan" then some .nan
  else (decimal? rest).map fun (digits, exponent) => ofDecimal negative digits exponent

end Double

end Number
end TypedGraph
