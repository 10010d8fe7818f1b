import Ussd.Json.Node
import Ussd.Text.Numeral
/-!
# Reading JSON

Strict JSON: no comments, no trailing commas, no raw control characters in texts, no lone
surrogates. A number without point and exponent that fits 64 bits is read exactly. Any other number
is read as a double from its leading digits, as many as fit an unsigned number of 64 bits, and a
power of ten: the digits are rounded to a double, which is then multiplied or divided by the double
nearest to that power. A number beyond the doubles is no value, and neither is a list or an object
below 127 others.
-/

namespace Ussd.Json

def isSpace (c : Char) : Bool := c == ' ' || c == '\n' || c == '\t' || c == '\r'

def skipSpace (text : List Char) : List Char := text.dropWhile isSpace

/-! ## Numbers -/

def tenPower (exponent : Nat) : Binary64 := .ofDecimal false 1 exponent

/-- Scales a double by a power of ten; nothing beyond the largest double. Powers beyond the doubles
are taken in steps, and `steps` bounds their number. -/
def scaleByTen (steps : Nat) (value : Binary64) (exponent : Int) : Option Binary64 :=
  if exponent.natAbs ≤ 308 then
    if 0 ≤ exponent then
      let product := value.multiplyFinite (tenPower exponent.natAbs)
      if product.isFinite then some product else none
    else some (value.divideFinite (tenPower exponent.natAbs))
  else
    match value with
    | .finite _ 0 _ => some value
    | _ =>
      if 0 ≤ exponent then none
      else
        match steps with
        | 0 => some (Binary64.zero false)
        | steps + 1 => scaleByTen steps (value.divideFinite (tenPower 308)) (exponent + 308)

structure Significand where
  digits : Nat
  exponent : Int
  full : Bool

namespace Significand

def fits (significand : Significand) (digit : Nat) : Bool :=
  decide (significand.digits * 10 + digit ≤ Text.greatestWord)

/-- Takes the digits before the point; those after the first that does not fit only shift the
point. -/
def takeWhole (significand : Significand) : List Char → Significand
  | [] => significand
  | c :: rest =>
    let digit := Text.digitValue c
    if !significand.full && significand.fits digit then
      takeWhole { significand with digits := significand.digits * 10 + digit } rest
    else takeWhole { significand with exponent := significand.exponent + 1, full := true } rest

def takeFraction (significand : Significand) : List Char → Significand
  | [] => significand
  | c :: rest =>
    let digit := Text.digitValue c
    if significand.fits digit then
      takeFraction
        { significand with
          digits := significand.digits * 10 + digit
          exponent := significand.exponent - 1 } rest
    else significand

end Significand

def exponentLimit : Nat := 0x7FFFFFFF

/-- The double denoted by the parts of a numeral: digits before and after the point, and the
exponent. Nothing if it is beyond the doubles. -/
def readDouble (negative : Bool) (whole fraction : List Char) (exponent : Option (Bool × Nat)) :
    Option Binary64 :=
  let start : Significand := { digits := 0, exponent := 0, full := false }
  let significand := (start.takeWhole whole).takeFraction fraction
  let magnitude : Option Binary64 :=
    match exponent with
    | none => scaleByTen 20 (.ofNat significand.digits) significand.exponent
    | some (down, power) =>
      if exponentLimit < power then
        if significand.digits ≠ 0 ∧ !down then none else some (Binary64.zero false)
      else
        scaleByTen 20 (.ofNat significand.digits)
          (if down then significand.exponent - power else significand.exponent + power)
  magnitude.map fun value => if negative then value.negate else value

/-- A whole number without point and exponent: exact if it fits, else a double. -/
def readWhole (negative : Bool) (digits : List Char) : Option Number :=
  let value := Text.digitsValue digits
  if negative then
    if value ≠ 0 ∧ value ≤ Text.signedLimit then some (.whole (-(value : Int)))
    else (readDouble true digits [] none).map .double
  else if value ≤ Text.greatestWord then some (.whole value)
  else (readDouble false digits [] none).map .double

/-- The exponent of a numeral, if one follows: `none` if the text is wrong. -/
def readExponent (text : List Char) : Option (Option (Bool × Nat) × List Char) :=
  match text with
  | mark :: rest =>
    if mark = 'e' || mark = 'E' then
      let parts := Text.takeSign rest
      let digits := parts.2.takeWhile Char.isDigit
      if digits.isEmpty then none
      else some (some (parts.1, Text.digitsValue digits), parts.2.dropWhile Char.isDigit)
    else some (none, text)
  | [] => some (none, [])

def readNumeral (negative : Bool) (text : List Char) : Node × List Char :=
  let whole := text.takeWhile Char.isDigit
  let rest := text.dropWhile Char.isDigit
  if whole.isEmpty || (whole.head? == some '0' && whole.length != 1) then (.malformed, [])
  else
    let finish (fraction : List Char) (rest : List Char) : Node × List Char :=
      match readExponent rest with
      | none => (.malformed, [])
      | some (exponent, rest) =>
        let number : Option Number :=
          if fraction.isEmpty && exponent.isNone then readWhole negative whole
          else (readDouble negative whole fraction exponent).map .double
        match number with
        | some number => (.number number, rest)
        | none => (.unread, rest)
    match rest with
    | '.' :: afterPoint =>
      let fraction := afterPoint.takeWhile Char.isDigit
      if fraction.isEmpty then (.malformed, [])
      else finish fraction (afterPoint.dropWhile Char.isDigit)
    | rest => finish [] rest

/-! ## Texts -/

def hexUnit? : List Char → Option (Nat × List Char)
  | a :: b :: c :: d :: rest => (Text.digitsIn? 16 [a, b, c, d]).map fun unit => (unit, rest)
  | _ => none

inductive TextUnit where
  | char (c : Char)
  | loneSurrogate

def readEscape : List Char → Option (TextUnit × List Char)
  | '"' :: rest => some (.char '"', rest)
  | '\\' :: rest => some (.char '\\', rest)
  | '/' :: rest => some (.char '/', rest)
  | 'b' :: rest => some (.char (Char.ofNat 8), rest)
  | 'f' :: rest => some (.char (Char.ofNat 12), rest)
  | 'n' :: rest => some (.char '\n', rest)
  | 'r' :: rest => some (.char '\r', rest)
  | 't' :: rest => some (.char '\t', rest)
  | 'u' :: rest =>
    match hexUnit? rest with
    | none => none
    | some (unit, rest) =>
      if 0xD800 ≤ unit ∧ unit < 0xDC00 then
        match rest with
        | '\\' :: 'u' :: low =>
          match hexUnit? low with
          | some (second, after) =>
            if 0xDC00 ≤ second ∧ second < 0xE000 then
              some (.char (Char.ofNat (0x10000 + (unit - 0xD800) * 0x400 + (second - 0xDC00))),
                after)
            else some (.loneSurrogate, rest)
          | none => some (.loneSurrogate, rest)
        | _ => some (.loneSurrogate, rest)
      else if 0xDC00 ≤ unit ∧ unit < 0xE000 then some (.loneSurrogate, rest)
      else some (.char (Char.ofNat unit), rest)
  | _ => none

/-- A text after its opening mark: its characters (nothing if it holds a lone surrogate) and what
follows its closing mark. -/
def readTextFrom (fuel : Nat) (text : List Char) : Option (Option (List Char) × List Char) :=
  match fuel, text with
  | 0, _ => none
  | _, [] => none
  | fuel + 1, c :: rest =>
    if c = '"' then some (some [], rest)
    else if c = '\\' then
      match readEscape rest with
      | none => none
      | some (.char unit, rest) =>
        (readTextFrom fuel rest).map fun parts => (parts.1.map (unit :: ·), parts.2)
      | some (.loneSurrogate, rest) =>
        (readTextFrom fuel rest).map fun parts => (none, parts.2)
    else if c.toNat < 32 then none
    else (readTextFrom fuel rest).map fun parts => (parts.1.map (c :: ·), parts.2)

def readText (text : List Char) : Option (Option (List Char) × List Char) :=
  readTextFrom (text.length + 1) text

/-! ## Values -/

/-- A list or an object below more than 127 others is not usable as a value. -/
def depthLimit : Nat := 127

def limitDepth (depth : Nat) (node : Node) : Node :=
  if depth < depthLimit then node else .unread

mutual

def readValue (fuel depth : Nat) (text : List Char) : Node × List Char :=
  match fuel with
  | 0 => (.malformed, [])
  | fuel + 1 =>
    match skipSpace text with
    | [] => (.malformed, [])
    | '"' :: rest =>
      match readText rest with
      | none => (.malformed, [])
      | some (none, rest) => (.unread, rest)
      | some (some value, rest) => (.text (String.ofList value), rest)
    | '[' :: rest =>
      match skipSpace rest with
      | ']' :: rest => (limitDepth depth (.list []), rest)
      | rest =>
        let parts := readItems fuel (depth + 1) rest
        (limitDepth depth (.list parts.1), parts.2)
    | '\x7b' :: rest =>
      match skipSpace rest with
      | '\x7d' :: rest => (limitDepth depth (.map []), rest)
      | rest =>
        let parts := readEntries fuel (depth + 1) rest
        (limitDepth depth (.map parts.1), parts.2)
    | 'n' :: 'u' :: 'l' :: 'l' :: rest => (.null, rest)
    | 't' :: 'r' :: 'u' :: 'e' :: rest => (.bool true, rest)
    | 'f' :: 'a' :: 'l' :: 's' :: 'e' :: rest => (.bool false, rest)
    | '-' :: rest => readNumeral true rest
    | c :: rest => if c.isDigit then readNumeral false (c :: rest) else (.malformed, [])

def readItems (fuel depth : Nat) (text : List Char) : List Node × List Char :=
  match fuel with
  | 0 => ([.malformed], [])
  | fuel + 1 =>
    match readValue fuel depth text with
    | (item, rest) =>
      match skipSpace rest with
      | ',' :: rest =>
        match readItems fuel depth rest with
        | (items, rest) => (item :: items, rest)
      | ']' :: rest => ([item], rest)
      | _ => ([item, .malformed], [])

/-- The entries of an object up to its end; a malformed place ends them. -/
def readEntries (fuel depth : Nat) (text : List Char) : List (Option String × Node) × List Char :=
  match fuel with
  | 0 => ([(none, .malformed)], [])
  | fuel + 1 =>
    match skipSpace text with
    | '"' :: rest =>
      match readText rest with
      | none => ([(none, .malformed)], [])
      | some (name, rest) =>
        match skipSpace rest with
        | ':' :: rest =>
          match readValue fuel depth rest with
          | (value, rest) =>
            let entry := (name.map String.ofList, value)
            match skipSpace rest with
            | ',' :: rest =>
              match readEntries fuel depth rest with
              | (entries, rest) => (entry :: entries, rest)
            | '\x7d' :: rest => ([entry], rest)
            | _ => ([entry, (none, .malformed)], [])
        | _ => ([(name.map String.ofList, .malformed), (none, .malformed)], [])
    | _ => ([(none, .malformed)], [])

end

def readNode (text : List Char) : Node × List Char := readValue (2 * text.length + 2) 0 text

def readDocument (text : List Char) : Node :=
  match readNode text with
  | (node, rest) => if (skipSpace rest).isEmpty then node else .malformed

def parse (text : List Char) : Option Json := (readDocument text).toJson.toOption

def parseText (text : String) : Option Json := parse text.toList

end Ussd.Json
