/-
Double-precision numbers.

A finite double is a sign and a magnitude `mantissa * 2 ^ exponent`, in the one
form whose mantissa has 53 bits, or fewer at the least exponent.
`Double.ofRatio` is the double nearest to a quotient, and a quotient halfway
between two goes to the one with the even mantissa.
-/

namespace TypedGraph
namespace Number

inductive Double
  | nan
  | infinite (negative : Bool)
  | finite (negative : Bool) (mantissa : Nat) (exponent : Int)
deriving DecidableEq, Repr

namespace Double

/-- Bits of a full mantissa. -/
def mantissaBits : Nat := 53

def leastExponent : Int := -1074

def greatestExponent : Int := 971

/-- `num / den * 2 ^ -e`, as a quotient of two numbers. -/
def scaled (num den : Nat) (e : Int) : Nat × Nat :=
  if 0 ≤ e then (num, den * Nat.pow 2 e.toNat) else (num * Nat.pow 2 (-e).toNat, den)

/-- The whole number nearest to a quotient, the even one of two. -/
def roundDiv (num den : Nat) : Nat :=
  let q := num / den
  let twice := 2 * (num % den)
  if twice > den || (twice == den && q % 2 == 1) then q + 1 else q

/-- A finite double, unless the exponent is too large. -/
def pack (negative : Bool) (mantissa : Nat) (exponent : Int) : Double :=
  if mantissa = Nat.pow 2 mantissaBits then
    if exponent + 1 > greatestExponent then .infinite negative
    else .finite negative (Nat.pow 2 (mantissaBits - 1)) (exponent + 1)
  else if exponent > greatestExponent then .infinite negative
  else .finite negative mantissa exponent

/-- The double nearest to `num / den`. -/
def ofRatio (negative : Bool) (num den : Nat) : Double :=
  if num = 0 then .finite negative 0 leastExponent
  else
    let low := max ((num.log2 : Int) - den.log2 - mantissaBits) leastExponent
    let (n, d) := scaled num den low
    let e := if n / d < Nat.pow 2 mantissaBits then low else low + 1
    let (n, d) := scaled num den e
    pack negative (roundDiv n d) e

/-- The double nearest to `digits * 10 ^ exponent`. -/
def ofDecimal (negative : Bool) (digits : Nat) (exponent : Int) : Double :=
  if digits = 0 then ofRatio negative 0 1
  else
    let size : Int := (Nat.toDigits 10 digits).length + exponent
    if size > 400 then .infinite negative
    else if size < -400 then ofRatio negative 0 1
    else if 0 ≤ exponent then ofRatio negative (digits * Nat.pow 10 exponent.toNat) 1
    else ofRatio negative digits (Nat.pow 10 (-exponent).toNat)

/-- The magnitude of a finite double as a quotient. -/
def ratio (mantissa : Nat) (exponent : Int) : Nat × Nat :=
  if 0 ≤ exponent then (mantissa * Nat.pow 2 exponent.toNat, 1)
  else (mantissa, Nat.pow 2 (-exponent).toNat)

/-- A finite double times a power of ten, which is itself a double; the product
or quotient is rounded. -/
def scaleByTen (x : Double) (power : Int) : Double :=
  match x, ofDecimal false 1 power.natAbs with
  | .finite negative m e, .finite _ n f =>
    let (a, b) := ratio m e
    let (c, d) := ratio n f
    if 0 ≤ power then ofRatio negative (a * c) (b * d) else ofRatio negative (a * d) (b * c)
  | x, _ => x

def isFinite : Double → Bool
  | .finite .. => true
  | _ => false

end Double

end Number
end TypedGraph
