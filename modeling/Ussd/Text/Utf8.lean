/-!
# UTF-8

Characters as bytes and back. Bytes that are no UTF-8 are told apart from characters: each longest
beginning of a character that is broken off, and each byte that begins none, is one malformed part.
-/

namespace Ussd.Text

def utf8Char (c : Char) : List Nat :=
  let code := c.toNat
  if code < 0x80 then [code]
  else if code < 0x800 then [0xC0 + code / 64, 0x80 + code % 64]
  else if code < 0x10000 then
    [0xE0 + code / 4096, 0x80 + code / 64 % 64, 0x80 + code % 64]
  else
    [0xF0 + code / 262144, 0x80 + code / 4096 % 64, 0x80 + code / 64 % 64, 0x80 + code % 64]

def utf8Encode (text : List Char) : List Nat := text.flatMap utf8Char

def utf8Bytes (text : String) : List Nat := utf8Encode text.toList

/-- A character of which some bytes have been read: its code so far, the number of bytes to come,
and the bounds of the next one. -/
structure PartialChar where
  code : Nat
  missing : Nat
  least : Nat
  greatest : Nat

/-- What a byte at the beginning of a character is: a whole character, or the beginning of one;
nothing if no character begins with it. -/
def utf8Lead? (byte : Nat) : Option (Char ⊕ PartialChar) :=
  if byte < 0x80 then some (.inl (Char.ofNat byte))
  else if 0xC2 ≤ byte ∧ byte ≤ 0xDF then
    some (.inr { code := byte - 0xC0, missing := 1, least := 0x80, greatest := 0xBF })
  else if 0xE0 ≤ byte ∧ byte ≤ 0xEF then
    some (.inr
      { code := byte - 0xE0, missing := 2
        least := if byte = 0xE0 then 0xA0 else 0x80
        greatest := if byte = 0xED then 0x9F else 0xBF })
  else if 0xF0 ≤ byte ∧ byte ≤ 0xF4 then
    some (.inr
      { code := byte - 0xF0, missing := 3
        least := if byte = 0xF0 then 0x90 else 0x80
        greatest := if byte = 0xF4 then 0x8F else 0xBF })
  else none

def PartialChar.next? (begun : PartialChar) (byte : Nat) : Option (Char ⊕ PartialChar) :=
  if begun.least ≤ byte ∧ byte ≤ begun.greatest then
    let code := begun.code * 64 + (byte - 0x80)
    if begun.missing ≤ 1 then some (.inl (Char.ofNat code))
    else some (.inr { code := code, missing := begun.missing - 1, least := 0x80, greatest := 0xBF })
  else none

/-- The characters of some bytes, after the beginning of one; a malformed part is no character. -/
def utf8DecodeFrom (begun : Option PartialChar) : List Nat → List (Option Char)
  | [] => if begun.isSome then [none] else []
  | byte :: rest =>
    let lead : List (Option Char) × Option PartialChar :=
      match utf8Lead? byte with
      | some (.inl char) => ([some char], none)
      | some (.inr begun) => ([], some begun)
      | none => ([none], none)
    let (chars, begun) : List (Option Char) × Option PartialChar :=
      match begun with
      | none => lead
      | some begun =>
        match begun.next? byte with
        | some (.inl char) => ([some char], none)
        | some (.inr begun) => ([], some begun)
        | none => (none :: lead.1, lead.2)
    chars ++ utf8DecodeFrom begun rest

def utf8Decode (bytes : List Nat) : List (Option Char) := utf8DecodeFrom none bytes

def replacementChar : Char := Char.ofNat 0xFFFD

def utf8Text (bytes : List Nat) : List Char :=
  (utf8Decode bytes).map fun char => char.getD replacementChar

example : utf8Text [0xE9, 0x41] = [replacementChar, 'A'] := by decide +kernel

def utf8Text? (bytes : List Nat) : Option (List Char) := (utf8Decode bytes).mapM id

end Ussd.Text
