import Ussd.Text.Numeral
import Ussd.Text.Utf8
/-!
# Percent codes

A character that has a meaning in an address, or none in ASCII, stands there as the bytes of its
UTF-8 form, each as a percent sign and two hexadecimal digits.
-/

namespace Ussd.Web

def hexDigit (value : Nat) : Char :=
  if value < 10 then Char.ofNat ('0'.toNat + value) else Char.ofNat ('A'.toNat + (value - 10))

def percentCode (byte : Nat) : List Char := ['%', hexDigit (byte / 16), hexDigit (byte % 16)]

def percentEncode (isReserved : Char → Bool) (text : List Char) : List Char :=
  text.flatMap fun c =>
    if isReserved c then (Text.utf8Char c).flatMap percentCode else [c]

def isControl (c : Char) : Bool := c.toNat < 0x20 || 0x7E < c.toNat

def isReservedInQuery (c : Char) : Bool := isControl c || " \"#<>'".toList.contains c

def isReservedInPath (c : Char) : Bool := isControl c || " \"#<>?`\x7b\x7d".toList.contains c

def percentDecode : List Char → List Nat
  | [] => []
  | '%' :: a :: b :: rest =>
    match Text.digitsIn? 16 [a, b] with
    | some byte => byte :: percentDecode rest
    | none => 37 :: percentDecode (a :: b :: rest)
  | c :: rest => Text.utf8Char c ++ percentDecode rest

/-! ## Queries -/

def isPlainInForm (c : Char) : Bool :=
  (c.isAlphanum && c.toNat < 128) || "*-._".toList.contains c

/-- A name or a value of a form, as a query shows it: a space becomes a plus sign. -/
def formText (text : List Char) : List Char :=
  text.flatMap fun c =>
    if c = ' ' then ['+']
    else if isPlainInForm c then [c]
    else (Text.utf8Char c).flatMap percentCode

/-- Named values at the end of a query, which may be empty or missing. -/
def extendQuery (query : Option (List Char)) (pairs : List (String × String)) :
    Option (List Char) :=
  if pairs.isEmpty then query
  else
    some (pairs.foldl (fun query pair =>
      query ++ (if query.isEmpty then [] else ['&']) ++ formText pair.1.toList ++ '=' ::
        formText pair.2.toList) (query.getD []))

example : extendQuery (some "a=1".toList) [("b c", "é/")] = some "a=1&b+c=%C3%A9%2F".toList := by
  decide +kernel

end Ussd.Web
