/-!
# Binary floating-point numbers of 64 bits, read and written in decimal

A finite number is a mantissa below 2^53 times a power of two from 2^-1074 on; all arithmetic here
is exact.

* `Binary64.ofDecimal` rounds a decimal fraction to the nearest number, a tie to the even mantissa.
* `Binary64.text` writes the shortest decimal fraction that rounds back to the number, of those with
  as few digits the nearest, and of two that are as near the greater. It never uses an exponent, and
  a whole number keeps `.0`.
-/

namespace Clamd

/-- A binary floating-point number of 64 bits. -/
inductive Binary64 where
  /-- `mantissa * 2 ^ exponent`, negated if `negative`. -/
  | finite (negative : Bool) (mantissa : Nat) (exponent : Int)
  | infinite (negative : Bool)
  | nan
  deriving DecidableEq, Repr

namespace Binary64

/-- The least exponent of two. -/
def minExponent : Int := -1074

/-- The greatest exponent of two. -/
def maxExponent : Int := 971

/-- `num / den` to the nearest whole number, a tie to the even one. -/
def roundDiv (num den : Nat) : Nat :=
  let q := num / den
  let twice := 2 * (num % den)
  if twice < den then q
  else if den < twice then q + 1
  else if q % 2 = 0 then q else q + 1

/-- The fraction `num / den` times `2 ^ e`, as a numerator and a denominator. -/
def scaleTwo (num den : Nat) (e : Int) : Nat × Nat :=
  if 0 ≤ e then (num * Nat.pow 2 e.toNat, den) else (num, den * Nat.pow 2 (-e).toNat)

/-- The fraction `num / den` times `10 ^ e`, as a numerator and a denominator. -/
def scaleTen (num den : Nat) (e : Int) : Nat × Nat :=
  if 0 ≤ e then (num * Nat.pow 10 e.toNat, den) else (num, den * Nat.pow 10 (-e).toNat)

/-- The greatest `k` with `2 ^ k ≤ num / den`, for a positive fraction. -/
def floorLogTwo (num den : Nat) : Int :=
  let guess : Int := (Nat.log2 num : Int) - (Nat.log2 den : Int)
  let (n, d) := scaleTwo num den (-guess)
  if n < d then guess - 1 else guess

/-- The number nearest to the positive fraction `num / den`. -/
def ofFraction (negative : Bool) (num den : Nat) : Binary64 :=
  let exponent := max (floorLogTwo num den - 52) minExponent
  let (n, d) := scaleTwo num den (-exponent)
  let mantissa := roundDiv n d
  let (mantissa, exponent) :=
    if mantissa = Nat.pow 2 53 then (Nat.pow 2 52, exponent + 1) else (mantissa, exponent)
  if maxExponent < exponent then infinite negative else finite negative mantissa exponent

/-- The number nearest to `digits * 10 ^ exponent`. Fractions far outside the range are not
computed. -/
def ofDecimal (negative : Bool) (digits : Nat) (exponent : Int) : Binary64 :=
  let size : Int := (Nat.toDigits 10 digits).length + exponent
  if digits = 0 || size < -400 then finite negative 0 minExponent
  else if 400 < size then infinite negative
  else
    let (num, den) := scaleTen digits 1 exponent
    ofFraction negative num den

/-- The greatest `k` with `10 ^ k ≤ num / den`, for a positive fraction above `10 ^ -400`. -/
def floorLogTen (num den : Nat) : Int :=
  if den ≤ num then (Nat.toDigits 10 (num / den)).length - 1
  else -(((List.range 400).find? fun j => den ≤ num * Nat.pow 10 j).getD 400 : Nat)

/-- The reals that round to a positive finite number: an interval given by the numerators of its
ends and of the number over a common denominator, with whether the ends belong to it. -/
structure Neighbourhood where
  low : Nat
  value : Nat
  high : Nat
  den : Nat
  closed : Bool

/-- The reals that round to `mantissa * 2 ^ exponent`. Below a power of two the next number is only
half as far away. -/
def neighbourhood (mantissa : Nat) (exponent : Int) : Neighbourhood :=
  let (unit, den) := scaleTwo 1 1 (exponent - 2)
  let below := if mantissa = Nat.pow 2 52 ∧ minExponent < exponent then 1 else 2
  { low := (4 * mantissa - below) * unit
    value := 4 * mantissa * unit
    high := (4 * mantissa + 2) * unit
    den
    closed := mantissa % 2 = 0 }

/-- Whether `digits * 10 ^ exponent` rounds to the number. -/
def Neighbourhood.contains (r : Neighbourhood) (digits : Nat) (exponent : Int) : Bool :=
  let (n, d) := scaleTen digits 1 exponent
  let point := n * r.den
  if r.closed then r.low * d ≤ point && point ≤ r.high * d
  else r.low * d < point && point < r.high * d

/-- The multiple of `10 ^ exponent` that rounds to the number and is nearest to it, if one of the
two next to it does. The greater one is taken when both are as near. -/
def Neighbourhood.onGrid (r : Neighbourhood) (exponent : Int) : Option Nat :=
  let (n, d) := scaleTen r.value r.den (-exponent)
  let down := n / d
  let order := if 2 * (n % d) < d then [down, down + 1] else [down + 1, down]
  order.find? (r.contains · exponent)

/-- The digits of the shortest decimal that rounds to a positive finite number, and the power of ten
of the last one. The coarsest grid tried is the one on which the number lies below the first point:
that point may round to it, as `1e-7` does to a number a little less than itself. -/
def shortest (mantissa : Nat) (exponent : Int) : Nat × Int :=
  let r := neighbourhood mantissa exponent
  let top := floorLogTen r.value r.den + 1
  ((List.range 18).findSome? fun (places : Nat) =>
    let last : Int := top - places
    (r.onGrid last).map fun digits => (digits, last)).getD (0, 0)

/-- `digits * 10 ^ exponent` without an exponent. A whole number ends in `.0`. -/
def positional (digits : Nat) (exponent : Int) : List Char :=
  if 0 ≤ exponent then Nat.toDigits 10 (digits * Nat.pow 10 exponent.toNat) ++ ['.', '0']
  else
    let places := (-exponent).toNat
    let whole := digits / Nat.pow 10 places
    let part := Nat.toDigits 10 (digits % Nat.pow 10 places)
    Nat.toDigits 10 whole ++ ['.'] ++ List.replicate (places - part.length) '0' ++ part

/-- The text of a number. -/
def text : Binary64 → String
  | nan => "NaN"
  | infinite negative => if negative then "-inf" else "inf"
  | finite negative mantissa exponent =>
    let sign := if negative then ['-'] else []
    let body :=
      if mantissa = 0 then ['0', '.', '0']
      else
        let (digits, last) := shortest mantissa exponent
        positional digits last
    String.ofList (sign ++ body)

end Binary64

end Clamd
