import Ussd.Text.Blank
import Ussd.Text.CharsetTable
import Ussd.Text.Pieces
import Ussd.Text.Utf8
/-!
# Character sets

Text from bytes in a named character set. A mark of the byte order at the beginning overrules the
name and is no part of the text. A name that is not known means UTF-8.
-/

namespace Ussd.Text

inductive Charset where
  | utf8
  | utf16 (bigEndian : Bool)
  | single (set : ByteCharset)

namespace Charset

def utf16Labels : List String :=
  ["csunicode", "iso-10646-ucs-2", "ucs-2", "unicode", "unicodefeff", "utf-16", "utf-16le"]

def bigEndianLabels : List String := ["unicodefffe", "utf-16be"]

def named (name : List Char) : Charset :=
  let label := String.ofList ((trim name).map Char.toLower)
  if utf16Labels.contains label then .utf16 false
  else if bigEndianLabels.contains label then .utf16 true
  else
    match byteCharsets.find? (·.labels.contains label) with
    | some set => .single set
    | none => .utf8

end Charset

/-- Pairs of bytes as numbers; a byte without another one is malformed. -/
def units16 (bigEndian : Bool) : List Nat → List (Option Nat)
  | [] => []
  | [_] => [none]
  | a :: b :: rest => some (if bigEndian then a * 256 + b else b * 256 + a) :: units16 bigEndian rest

/-- The text of some units, after the first half of a pair of surrogates if `high` is given: such a
pair is one character beyond the first 65536. -/
def utf16TextFrom (high : Option Nat) : List (Option Nat) → List Char
  | [] => if high.isSome then [replacementChar] else []
  | none :: rest => replacementChar :: utf16TextFrom none rest
  | some unit :: rest =>
    let isHigh := decide (0xD800 ≤ unit ∧ unit < 0xDC00)
    let isLow := decide (0xDC00 ≤ unit ∧ unit < 0xE000)
    match high with
    | none =>
      if isHigh then utf16TextFrom (some unit) rest
      else if isLow then replacementChar :: utf16TextFrom none rest
      else Char.ofNat unit :: utf16TextFrom none rest
    | some high =>
      if isLow then
        Char.ofNat (0x10000 + (high - 0xD800) * 0x400 + (unit - 0xDC00)) ::
          utf16TextFrom none rest
      else if isHigh then replacementChar :: utf16TextFrom (some unit) rest
      else replacementChar :: Char.ofNat unit :: utf16TextFrom none rest

def utf16Text (units : List (Option Nat)) : List Char := utf16TextFrom none units

def byteText (set : ByteCharset) (bytes : List Nat) : List Char :=
  bytes.map fun byte =>
    if byte < 128 then Char.ofNat byte
    else Char.ofNat ((set.upper[byte - 128]?).getD replacementChar.toNat)

def Charset.text : Charset → List Nat → List Char
  | .utf8, bytes => utf8Text bytes
  | .utf16 bigEndian, bytes => utf16Text (units16 bigEndian bytes)
  | .single set, bytes => byteText set bytes

def decodeBytes (charset : Charset) (bytes : List Nat) : List Char :=
  match bytes with
  | 0xEF :: 0xBB :: 0xBF :: rest => utf8Text rest
  | 0xFE :: 0xFF :: rest => (Charset.utf16 true).text rest
  | 0xFF :: 0xFE :: rest => (Charset.utf16 false).text rest
  | bytes => charset.text bytes

end Ussd.Text
