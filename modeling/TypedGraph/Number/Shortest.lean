/-
The shortest decimal that reads back as a double.

The reals that round to a double form an interval, whose ends belong to it when
the mantissa is even.  Of the decimals in it, `shortest` takes one with the
fewest digits, and of those the one nearest to the double.
-/
import TypedGraph.Number.Double

namespace TypedGraph
namespace Number

/-- `digits * 10 ^ exponent` -/
structure Decimal where
  digits : Nat
  exponent : Int
deriving DecidableEq, Repr

namespace Decimal

/-- Drops zeros at the end of the digits, of which there are at most `count`. -/
def strip : Nat → Decimal → Decimal
  | 0, d => d
  | count + 1, d =>
    if d.digits % 10 = 0 then strip count ⟨d.digits / 10, d.exponent + 1⟩ else d

end Decimal

namespace Double

/-- Numbers on one scale: of a grid of decimals, and of the quarters of a
mantissa's last place. -/
structure Grid where
  /-- Width of the grid. -/
  step : Nat
  /-- A quarter of the mantissa's last place. -/
  quarter : Nat

namespace Grid

/-- The grid of the multiples of `10 ^ place`. -/
def of (exponent place : Int) : Grid :=
  { step := Nat.pow 10 place.toNat * Nat.pow 2 (2 - exponent).toNat
    quarter := Nat.pow 2 (exponent - 2).toNat * Nat.pow 10 (-place).toNat }

end Grid

/-- Whether a number lies within the reals that round to the double. -/
def roundsTo (mantissa : Nat) (exponent : Int) (g : Grid) (x : Nat) : Bool :=
  let below := if mantissa = Nat.pow 2 (mantissaBits - 1) && exponent > leastExponent then 1 else 2
  let low := (4 * mantissa - below) * g.quarter
  let high := (4 * mantissa + 2) * g.quarter
  if mantissa % 2 = 0 then low ≤ x && x ≤ high else low < x && x < high

/-- The nearer of the double's two neighbours on a grid that rounds to it, as a
multiple of the grid's width. -/
def onGrid? (mantissa : Nat) (exponent : Int) (g : Grid) : Option Nat :=
  let value := 4 * mantissa * g.quarter
  let lower := value / g.step
  let upper := lower + 1
  let fits (n : Nat) : Bool := roundsTo mantissa exponent g (n * g.step)
  let below := value - lower * g.step
  let above := upper * g.step - value
  let nearest := if below < above || (below == above && lower % 2 == 0) then lower else upper
  let other := if nearest = lower then upper else lower
  if fits nearest && nearest != 0 then some nearest
  else if fits other && other != 0 then some other
  else none

/-- Tries grids from `count` places below `place` down. -/
def shortestFrom (mantissa : Nat) (exponent : Int) : Nat → Int → Decimal
  | 0, place => ⟨mantissa, place⟩
  | count + 1, place =>
    match onGrid? mantissa exponent (.of exponent place) with
    | some digits => ⟨digits, place⟩
    | none => shortestFrom mantissa exponent count (place - 1)

/-- Number of digits before the point of `mantissa * 2 ^ exponent`; zero or less
when the point comes before the first digit. -/
def decimalSize (mantissa : Nat) (exponent : Int) : Int :=
  if 0 ≤ exponent then (Nat.toDigits 10 (mantissa * Nat.pow 2 exponent.toNat)).length
  else
    let places := (-exponent).toNat
    (Nat.toDigits 10 (mantissa * Nat.pow 5 places)).length - places

/-- The shortest decimal of a positive magnitude; seventeen digits always
suffice. -/
def shortest (mantissa : Nat) (exponent : Int) : Decimal :=
  (shortestFrom mantissa exponent 17 (decimalSize mantissa exponent - 1)).strip 17

/-! ## Texts -/

def sign (negative : Bool) : String := if negative then "-" else ""

def digitsText (n : Nat) : String := String.ofList (Nat.toDigits 10 n)

def zeros (count : Nat) : String := String.ofList (List.replicate count '0')

/-- All digits of a decimal, with a point only where it stands between them. -/
def positional (d : Decimal) : String :=
  let digits := Nat.toDigits 10 d.digits
  let point : Int := digits.length + d.exponent
  if 0 ≤ d.exponent then String.ofList digits ++ zeros d.exponent.toNat
  else if point ≤ 0 then "0." ++ zeros (-point).toNat ++ String.ofList digits
  else String.ofList (digits.take point.toNat) ++ "." ++ String.ofList (digits.drop point.toNat)

/-- The plain text of a double: never an exponent, and no point in a whole
number. -/
def text : Double → String
  | .nan => "NaN"
  | .infinite negative => sign negative ++ "inf"
  | .finite negative mantissa exponent =>
    sign negative ++ if mantissa = 0 then "0" else positional (shortest mantissa exponent)

/-- The plain text, with a point in every finite number. -/
def pointText (x : Double) : String :=
  let plain := x.text
  if x.isFinite && !plain.toList.contains '.' then plain ++ ".0" else plain

/-- The text in a JSON document: an exponent from `10 ^ 16` on and below
`10 ^ -5`, and a point in every number without one. -/
def jsonText (x : Double) : String :=
  match x with
  | .finite negative mantissa exponent =>
    if mantissa = 0 then sign negative ++ "0.0"
    else
      let d := shortest mantissa exponent
      let digits := Nat.toDigits 10 d.digits
      let point : Int := digits.length + d.exponent
      if -5 < point && point ≤ 16 then x.pointText
      else
        let rest := digits.drop 1
        let fraction := if rest.isEmpty then "" else "." ++ String.ofList rest
        sign negative ++ String.ofList (digits.take 1) ++ fraction ++ "e" ++ toString (point - 1)
  | _ => "null"

end Double

end Number
end TypedGraph
