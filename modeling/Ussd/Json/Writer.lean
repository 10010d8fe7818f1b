import Ussd.Json.Basic
/-!
# Writing JSON

Compact text: no blanks, the quotation mark, the backslash and the control characters escaped, every
other character as it is. Doubles have their shortest digits, written plainly for decimal exponents
from -5 to 15 and in scientific notation otherwise.
-/

namespace Ussd

def wholeText (value : Int) : List Char :=
  if value < 0 then '-' :: Nat.toDigits 10 value.natAbs else Nat.toDigits 10 value.natAbs

namespace Number

/-- The digits of a positive double: plain within the stated range of exponents. -/
def doubleDigits (decimal : Decimal) : List Char :=
  let digits := Nat.toDigits 10 decimal.digits
  let point : Int := digits.length + decimal.exponent
  if -5 < point ∧ point ≤ 16 then
    let parts := Binary64.placePoint digits point
    let whole := if parts.1.isEmpty then ['0'] else parts.1
    let fraction := if parts.2.isEmpty then ['0'] else parts.2
    whole ++ '.' :: fraction
  else
    let power := point - 1
    let mantissa := match digits with
      | [] => []
      | [digit] => [digit]
      | digit :: rest => digit :: '.' :: rest
    let sign := if power < 0 then ['-'] else ['+']
    mantissa ++ 'e' :: sign ++ Nat.toDigits 10 power.natAbs

/-- A number as it stands in JSON; values that are not finite have no numeral. -/
def write : Number → List Char
  | .whole value => wholeText value
  | .double (.finite negative mantissa exponent) =>
    (if negative then ['-'] else []) ++ doubleDigits (Binary64.shortest mantissa exponent)
  | .double _ => "null".toList

end Number

namespace Json

def hexDigit (value : Nat) : Char :=
  if value < 10 then Char.ofNat ('0'.toNat + value) else Char.ofNat ('a'.toNat + (value - 10))

def escapeChar (c : Char) : List Char :=
  if c = '"' then ['\\', '"']
  else if c = '\\' then ['\\', '\\']
  else if c = '\n' then ['\\', 'n']
  else if c = '\r' then ['\\', 'r']
  else if c = '\t' then ['\\', 't']
  else if c.toNat = 8 then ['\\', 'b']
  else if c.toNat = 12 then ['\\', 'f']
  else if c.toNat < 32 then
    ['\\', 'u', '0', '0', hexDigit (c.toNat / 16), hexDigit (c.toNat % 16)]
  else [c]

def quote (text : List Char) : List Char :=
  '"' :: text.flatMap escapeChar ++ ['"']

mutual

def write : Json → List Char
  | .null => "null".toList
  | .bool true => "true".toList
  | .bool false => "false".toList
  | .number value => value.write
  | .text value => quote value.toList
  | .list items => '[' :: writeItems items ++ [']']
  | .object fields => '\x7b' :: writeFields fields ++ ['\x7d']

def writeItems : List Json → List Char
  | [] => []
  | [item] => write item
  | item :: rest => write item ++ ',' :: writeItems rest

def writeFields : List (String × Json) → List Char
  | [] => []
  | [(name, value)] => quote name.toList ++ ':' :: write value
  | (name, value) :: rest => quote name.toList ++ ':' :: write value ++ ',' :: writeFields rest

end

example : write (.list [.number (.double (.ofNat 100)), .null, .text "a\n"]) =
    "[100.0,null,\"a\\n\"]".toList := by
  decide +kernel

def writeText (value : Json) : String := String.ofList value.write

/-- The text shown for a value inside a message: nothing for null, a text as it is, and the compact
JSON text otherwise. -/
def display : Json → String
  | .null => ""
  | .text value => value
  | value => value.writeText

end Json

end Ussd
