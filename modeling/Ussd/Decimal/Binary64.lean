/-!
# Floating-point numbers of 64 bits

A double is kept as its exact value: a sign, a whole mantissa and a power of two. The finite values
are held in one canonical form (the mantissa has 53 bits unless the exponent is the least one), so
two finite doubles other than the zeros are equal exactly when they are the same term, and every
operation is exact integer arithmetic followed by one rounding to the nearest double, ties to even.
-/

namespace Ussd

inductive Binary64 where
  | nan
  | infinite (negative : Bool)
  | finite (negative : Bool) (mantissa : Nat) (exponent : Int)
  deriving DecidableEq, Repr, Inhabited

/-- The whole number nearest to a quotient; a half goes to the even neighbour. -/
def roundQuotient (numerator denominator : Nat) : Nat :=
  let quotient := numerator / denominator
  let twice := 2 * (numerator % denominator)
  if twice < denominator then quotient
  else if denominator < twice then quotient + 1
  else if quotient % 2 = 0 then quotient
  else quotient + 1

namespace Binary64

def leastExponent : Int := -1074

def greatestExponent : Int := 971

def zero (negative : Bool) : Binary64 := .finite negative 0 leastExponent

def scaleByTwo (numerator denominator : Nat) (power : Int) : Nat × Nat :=
  (numerator * Nat.pow 2 power.toNat, denominator * Nat.pow 2 (-power).toNat)

def floorLog2 (numerator denominator : Nat) : Int :=
  let estimate : Int := (numerator.log2 : Int) - (denominator.log2 : Int)
  let scaled := scaleByTwo numerator denominator (-estimate)
  if scaled.2 ≤ scaled.1 then estimate else estimate - 1

/-- The double nearest to `numerator / denominator`; ties go to the even mantissa, and what rounds
beyond the largest finite double is infinite. -/
def ofRatio (negative : Bool) (numerator denominator : Nat) : Binary64 :=
  if numerator = 0 then zero negative
  else
    let exponent := max leastExponent (floorLog2 numerator denominator - 52)
    let scaled := scaleByTwo numerator denominator (-exponent)
    let mantissa := roundQuotient scaled.1 scaled.2
    if mantissa < 0x20000000000000 then
      if greatestExponent < exponent then .infinite negative
      else .finite negative mantissa exponent
    else if greatestExponent < exponent + 1 then .infinite negative
    else .finite negative 0x10000000000000 (exponent + 1)

def ofNat (value : Nat) : Binary64 := ofRatio false value 1

def ofInt (value : Int) : Binary64 := ofRatio (decide (value < 0)) value.natAbs 1

def decimalLength (value : Nat) : Nat := (Nat.toDigits 10 value).length

/-- The double nearest to `digits * 10 ^ exponent`. Numbers that lie far outside the range of the
doubles are settled by their length alone, so the powers stay small. -/
def ofDecimal (negative : Bool) (digits : Nat) (exponent : Int) : Binary64 :=
  if digits = 0 then zero negative
  else
    let magnitude := exponent + (decimalLength digits : Int)
    if 310 < magnitude then .infinite negative
    else if magnitude < -330 then zero negative
    else if 0 ≤ exponent then ofRatio negative (digits * Nat.pow 10 exponent.toNat) 1
    else ofRatio negative digits (Nat.pow 10 (-exponent).toNat)

def isNegative : Binary64 → Bool
  | .nan => false
  | .infinite negative => negative
  | .finite negative _ _ => negative

def isFinite : Binary64 → Bool
  | .finite .. => true
  | _ => false

def negate : Binary64 → Binary64
  | .nan => .nan
  | .infinite negative => .infinite (!negative)
  | .finite negative mantissa exponent => .finite (!negative) mantissa exponent

def magnitude : Binary64 → Binary64
  | .nan => .nan
  | .infinite _ => .infinite false
  | .finite _ mantissa exponent => .finite false mantissa exponent

def fraction (mantissa : Nat) (exponent : Int) : Nat × Nat :=
  scaleByTwo mantissa 1 exponent

def signed (negative : Bool) (value : Nat) : Int :=
  if negative then -(value : Int) else value

/-- Two finite values as whole numbers of one common unit, `2 ^ min` of the two exponents. -/
def aligned (leftNegative : Bool) (leftMantissa : Nat) (leftExponent : Int)
    (rightNegative : Bool) (rightMantissa : Nat) (rightExponent : Int) : Int × Int :=
  let unit := min leftExponent rightExponent
  (signed leftNegative (leftMantissa * Nat.pow 2 (leftExponent - unit).toNat),
    signed rightNegative (rightMantissa * Nat.pow 2 (rightExponent - unit).toNat))

def lt : Binary64 → Binary64 → Bool
  | .nan, _ => false
  | _, .nan => false
  | .infinite left, .infinite right => left && !right
  | .infinite left, .finite .. => left
  | .finite .., .infinite right => !right
  | .finite leftNegative leftMantissa leftExponent,
    .finite rightNegative rightMantissa rightExponent =>
    let pair := aligned leftNegative leftMantissa leftExponent
      rightNegative rightMantissa rightExponent
    decide (pair.1 < pair.2)

def equal : Binary64 → Binary64 → Bool
  | .nan, _ => false
  | _, .nan => false
  | .infinite left, .infinite right => left == right
  | .finite leftNegative leftMantissa leftExponent,
    .finite rightNegative rightMantissa rightExponent =>
    let pair := aligned leftNegative leftMantissa leftExponent
      rightNegative rightMantissa rightExponent
    decide (pair.1 = pair.2)
  | _, _ => false

def le (left right : Binary64) : Bool := left.lt right || left.equal right

/-- The sum, rounded once. An exact zero is negative only if both operands are negative zeros. -/
def add : Binary64 → Binary64 → Binary64
  | .nan, _ => .nan
  | _, .nan => .nan
  | .infinite left, .infinite right => if left = right then .infinite left else .nan
  | .infinite left, .finite .. => .infinite left
  | .finite .., .infinite right => .infinite right
  | .finite leftNegative leftMantissa leftExponent,
    .finite rightNegative rightMantissa rightExponent =>
    let unit := min leftExponent rightExponent
    let pair := aligned leftNegative leftMantissa leftExponent
      rightNegative rightMantissa rightExponent
    let sum := pair.1 + pair.2
    if sum = 0 then zero (leftNegative && rightNegative)
    else
      let parts := fraction sum.natAbs unit
      ofRatio (decide (sum < 0)) parts.1 parts.2

def multiplyFinite : Binary64 → Binary64 → Binary64
  | .finite leftNegative leftMantissa leftExponent,
    .finite rightNegative rightMantissa rightExponent =>
    let parts := fraction (leftMantissa * rightMantissa) (leftExponent + rightExponent)
    ofRatio (leftNegative != rightNegative) parts.1 parts.2
  | _, _ => .nan

def divideFinite : Binary64 → Binary64 → Binary64
  | .finite leftNegative leftMantissa leftExponent,
    .finite rightNegative rightMantissa rightExponent =>
    if rightMantissa = 0 then .nan
    else
      let scaled := scaleByTwo leftMantissa rightMantissa (leftExponent - rightExponent)
      ofRatio (leftNegative != rightNegative) scaled.1 scaled.2
  | _, _ => .nan

end Binary64

end Ussd
