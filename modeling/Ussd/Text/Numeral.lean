import Ussd.Decimal.Binary64
/-!
# Numbers written as text

Numerals of whole numbers and of doubles. Only ASCII digits count, an explicit plus sign is
accepted, and no blank may stand before, within or after the digits.
-/

namespace Ussd.Text

def digitValue (c : Char) : Nat := c.toNat - '0'.toNat

def digitsValue (digits : List Char) : Nat :=
  digits.foldl (fun value c => value * 10 + digitValue c) 0

theorem digitsValue_eq (digits : List Char) : digitsValue digits = Nat.ofDigitChars 10 digits 0 := by
  have step : (fun value c => value * 10 + digitValue c) =
      fun value (c : Char) => 10 * value + (c.toNat - '0'.toNat) := by
    funext value c
    rw [Nat.mul_comm]
    rfl
  rw [digitsValue, step]
  rfl

def natural? (text : List Char) : Option Nat :=
  if text.isEmpty || !text.all Char.isDigit then none else some (digitsValue text)

def digitIn? (radix : Nat) (c : Char) : Option Nat :=
  let value :=
    if '0' ≤ c ∧ c ≤ '9' then some (c.toNat - '0'.toNat)
    else if 'a' ≤ c ∧ c ≤ 'f' then some (c.toNat - 'a'.toNat + 10)
    else if 'A' ≤ c ∧ c ≤ 'F' then some (c.toNat - 'A'.toNat + 10)
    else none
  value.filter (· < radix)

def digitsIn? (radix : Nat) (text : List Char) : Option Nat :=
  text.foldlM (fun value c => (digitIn? radix c).map (value * radix + ·)) 0

/-- The number that the leading digits of a text denote in a radix, and what follows them; there must
be one digit at least. -/
def takeDigitsIn? (radix : Nat) (text : List Char) : Option (Nat × List Char) :=
  let digits := text.takeWhile fun c => (digitIn? radix c).isSome
  if digits.isEmpty then none
  else (digitsIn? radix digits).map fun value => (value, text.drop digits.length)

example : digitsIn? 16 "fF".toList = some 255 := by decide
example : takeDigitsIn? 8 "178".toList = some (15, ['8']) := by decide

def greatestWord : Nat := 0xFFFFFFFFFFFFFFFF

def signedLimit : Nat := 0x8000000000000000

/-- The sign of a numeral, `true` for minus, and what follows it. -/
def takeSign : List Char → Bool × List Char
  | '-' :: rest => (true, rest)
  | '+' :: rest => (false, rest)
  | text => (false, text)

def unsignedUpTo? (limit : Nat) (text : List Char) : Option Nat :=
  let digits := match text with
    | '+' :: rest => rest
    | _ => text
  (natural? digits).filter (· ≤ limit)

def unsigned? (text : List Char) : Option Nat := unsignedUpTo? greatestWord text

def signed? (text : List Char) : Option Int :=
  let parts := takeSign text
  match natural? parts.2 with
  | none => none
  | some value =>
    if parts.1 then (if value ≤ signedLimit then some (-(value : Int)) else none)
    else if value < signedLimit then some (value : Int) else none

def exponent? (text : List Char) : Option Int :=
  let parts := takeSign text
  (natural? parts.2).map fun value => if parts.1 then -(value : Int) else (value : Int)

/-- A decimal without sign: digits with an optional point, at least one digit in all, and an
optional exponent. -/
def unsignedDecimal? (negative : Bool) (text : List Char) : Option Binary64 :=
  let whole := text.takeWhile Char.isDigit
  let afterWhole := text.dropWhile Char.isDigit
  let fractionText := match afterWhole with
    | '.' :: rest => rest.takeWhile Char.isDigit
    | _ => []
  let tail := match afterWhole with
    | '.' :: rest => rest.dropWhile Char.isDigit
    | rest => rest
  if whole.isEmpty && fractionText.isEmpty then none
  else
    let digits := digitsValue (whole ++ fractionText)
    let scale := -(fractionText.length : Int)
    match tail with
    | [] => some (.ofDecimal negative digits scale)
    | mark :: rest =>
      if mark = 'e' || mark = 'E' then
        (exponent? rest).map fun power => .ofDecimal negative digits (scale + power)
      else none

/-- A double: a decimal, or one of the words for infinity and for a value that is no number, in any
case. -/
def double? (text : List Char) : Option Binary64 :=
  let parts := takeSign text
  let word := String.ofList (parts.2.map Char.toLower)
  if word = "inf" || word = "infinity" then some (.infinite parts.1)
  else if word = "nan" then some .nan
  else unsignedDecimal? parts.1 parts.2

end Ussd.Text
