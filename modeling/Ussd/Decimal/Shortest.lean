import Ussd.Decimal.Binary64
/-!
# The shortest decimal of a double

Among the decimals that are read back as a given double, the one with the fewest digits is chosen,
of several such the nearest to the double, and of two equally near ones the even one. The search
looks, for 1, 2, ... 17 digits, at the two neighbours of the value on the decimal grid of that many
digits; 17 digits always suffice.
-/

namespace Ussd

structure Decimal where
  digits : Nat
  exponent : Int
  deriving DecidableEq, Repr, Inhabited

namespace Binary64

/-- The interval of numbers that round to a positive finite double, as numerators over one common
denominator: lower end, value, upper end, denominator. -/
structure RoundingInterval where
  lower : Nat
  value : Nat
  upper : Nat
  denominator : Nat
  closed : Bool

/-- The interval has half the width below a power of two, where the doubles lie twice as close. -/
def roundingInterval (mantissa : Nat) (exponent : Int) : RoundingInterval :=
  let narrow := decide (mantissa = 0x10000000000000) && decide (leastExponent < exponent)
  let scale := fun quarter => (scaleByTwo quarter 1 (exponent - 2)).1
  { lower := scale (if narrow then 4 * mantissa - 1 else 4 * mantissa - 2)
    value := scale (4 * mantissa)
    upper := scale (4 * mantissa + 2)
    denominator := (scaleByTwo 1 1 (exponent - 2)).2
    closed := mantissa % 2 == 0 }

def RoundingInterval.contains (interval : RoundingInterval) (digits : Nat) (exponent : Int) :
    Bool :=
  let point := digits * Nat.pow 10 exponent.toNat * interval.denominator
  let down := Nat.pow 10 (-exponent).toNat
  if interval.closed then
    decide (interval.lower * down ≤ point) && decide (point ≤ interval.upper * down)
  else
    decide (interval.lower * down < point) && decide (point < interval.upper * down)

/-- The neighbour of the value on the grid of `10 ^ exponent` that reads back, if one does. -/
def RoundingInterval.gridPoint? (interval : RoundingInterval) (exponent : Int) : Option Nat :=
  let numerator := interval.value * Nat.pow 10 (-exponent).toNat
  let denominator := interval.denominator * Nat.pow 10 exponent.toNat
  let below := numerator / denominator
  let nearest := roundQuotient numerator denominator
  let other := if nearest = below then below + 1 else below
  if interval.contains nearest exponent then some nearest
  else if interval.contains other exponent then some other
  else none

def floorLog10 (numerator denominator : Nat) : Int :=
  let whole := numerator / denominator
  if whole ≠ 0 then (decimalLength whole : Int) - 1
  else
    let inverse := denominator / numerator
    -- `1 / quotient` lies in `[10 ^ (k - 1), 10 ^ k)` up to its fractional part
    let length : Nat := decimalLength inverse
    if denominator ≤ numerator * Nat.pow 10 (length - 1) then -((length : Int) - 1)
    else -(length : Int)

def searchShortest (interval : RoundingInterval) (leading : Int) : Nat → Nat → Decimal
  | 0, digitCount =>
    let exponent := leading - (digitCount : Int) + 1
    { digits := roundQuotient (interval.value * Nat.pow 10 (-exponent).toNat)
        (interval.denominator * Nat.pow 10 exponent.toNat)
      exponent := exponent }
  | remaining + 1, digitCount =>
    let exponent := leading - (digitCount : Int) + 1
    match interval.gridPoint? exponent with
    | some digits => { digits := digits, exponent := exponent }
    | none => searchShortest interval leading remaining (digitCount + 1)

def Decimal.strip (fuel : Nat) (decimal : Decimal) : Decimal :=
  match fuel with
  | 0 => decimal
  | fuel + 1 =>
    if decimal.digits % 10 = 0 ∧ decimal.digits ≠ 0 then
      Decimal.strip fuel { digits := decimal.digits / 10, exponent := decimal.exponent + 1 }
    else decimal

/-- The shortest decimal that is read back as the positive double `mantissa * 2 ^ exponent`. -/
def shortest (mantissa : Nat) (exponent : Int) : Decimal :=
  if mantissa = 0 then { digits := 0, exponent := 0 }
  else
    let interval := roundingInterval mantissa exponent
    let leading := floorLog10 interval.value interval.denominator
    Decimal.strip 20 (searchShortest interval leading 16 1)

example : shortest 1 (-1074) = { digits := 5, exponent := -324 } := by decide +kernel

def placePoint (digits : List Char) (point : Int) : List Char × List Char :=
  if point ≤ 0 then ([], List.replicate (-point).toNat '0' ++ digits)
  else
    let whole := digits.take point.toNat
    (whole ++ List.replicate (point.toNat - digits.length) '0', digits.drop point.toNat)

def plainText : Binary64 → String
  | .nan => "NaN"
  | .infinite negative => if negative then "-inf" else "inf"
  | .finite negative mantissa exponent =>
    let decimal := shortest mantissa exponent
    let digits := Nat.toDigits 10 decimal.digits
    let parts := placePoint digits (digits.length + decimal.exponent)
    let whole := if parts.1.isEmpty then ['0'] else parts.1
    let sign := if negative then ['-'] else []
    let tail := if parts.2.isEmpty then [] else '.' :: parts.2
    String.ofList (sign ++ whole ++ tail)

example :
    plainText ((ofDecimal false 1 (-1)).add (ofDecimal false 2 (-1))) = "0.30000000000000004" ∧
      plainText (ofDecimal false 3 (-1)) = "0.3" := by
  decide +kernel

end Binary64

end Ussd
