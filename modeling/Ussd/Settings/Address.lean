import Ussd.Text.Numeral
import Ussd.Text.Pieces
/-!
# Socket addresses

Numeric addresses with a port: four decimal octets, or eight hexadecimal groups in brackets with an
optional scope. Written addresses have one form, in which the longest run of zero groups is left out.
-/

namespace Ussd

inductive SocketAddress where
  | v4 (octets : List Nat) (port : Nat)
  | v6 (groups : List Nat) (scope port : Nat)
  deriving DecidableEq, Repr

namespace SocketAddress

/-! ## Reading -/

def readNumber (radix limit : Nat) (text : List Char) : Option (Nat × List Char) :=
  (Text.takeDigitsIn? radix text).filter fun parts => decide (parts.1 ≤ limit)

def readOctet (text : List Char) : Option (Nat × List Char) :=
  (readNumber 10 255 text).filter fun parts =>
    text.head? != some '0' || text.length - parts.2.length == 1

def readGroup (text : List Char) : Option (Nat × List Char) :=
  (readNumber 16 0xFFFF text).filter fun parts => decide (text.length - parts.2.length ≤ 4)

def afterChar? (expected : Char) : List Char → Option (List Char)
  | c :: rest => if c = expected then some rest else none
  | [] => none

def readOctets (text : List Char) : Option (List Nat × List Char) := do
  let (a, rest) ← readOctet text
  let (b, rest) ← (afterChar? '.' rest).bind readOctet
  let (c, rest) ← (afterChar? '.' rest).bind readOctet
  let (d, rest) ← (afterChar? '.' rest).bind readOctet
  return ([a, b, c, d], rest)

def groupsOfOctets : List Nat → List Nat
  | [a, b, c, d] => [a * 256 + b, c * 256 + d]
  | _ => []

/-- Up to `most` groups with colons between them, whether they end with four octets in place of two
groups, and what follows. -/
def readGroups (first : Bool) (text : List Char) : Nat → List Nat × Bool × List Char
  | 0 => ([], false, text)
  | most + 1 =>
    match if first then some text else afterChar? ':' text with
    | none => ([], false, text)
    | some start =>
      match if 0 < most then readOctets start else none with
      | some (octets, rest) => (groupsOfOctets octets, true, rest)
      | none =>
        match readGroup start with
        | none => ([], false, text)
        | some (group, rest) =>
          let parts := readGroups false rest most
          (group :: parts.1, parts.2)

/-- Eight groups, of which some zero ones may be left out between two colons. -/
def readAllGroups (text : List Char) : Option (List Nat × List Char) :=
  let (head, endsWithOctets, rest) := readGroups true text 8
  if head.length = 8 then some (head, rest)
  else if endsWithOctets then none
  else
    (Text.afterStart? [':', ':'] rest).map fun rest =>
      let (tail, _, rest) := readGroups true rest (8 - (head.length + 1))
      (head ++ List.replicate (8 - head.length - tail.length) 0 ++ tail, rest)

def readPort (text : List Char) : Option Nat := do
  let (port, rest) ← (afterChar? ':' text).bind (readNumber 10 0xFFFF)
  if rest.isEmpty then some port else none

def readScope (text : List Char) : Option (Nat × List Char) :=
  match text with
  | '%' :: rest => readNumber 10 0xFFFFFFFF rest
  | _ => some (0, text)

def parseV4 (text : List Char) : Option SocketAddress := do
  let (octets, rest) ← readOctets text
  return .v4 octets (← readPort rest)

def parseV6 (text : List Char) : Option SocketAddress := do
  let (groups, rest) ← (afterChar? '[' text).bind readAllGroups
  let (scope, rest) ← readScope rest
  let rest ← afterChar? ']' rest
  return .v6 groups scope (← readPort rest)

def parse (text : List Char) : Option SocketAddress := (parseV4 text).or (parseV6 text)

/-! ## Writing -/

def decimalText (value : Nat) : List Char := Nat.toDigits 10 value

def octetsText (octets : List Nat) : List Char := Text.join ['.'] (octets.map decimalText)

def groupsText (groups : List Nat) : List Char := Text.join [':'] (groups.map (Nat.toDigits 16))

def zeroRun (groups : List Nat) : Nat := (groups.takeWhile (· == 0)).length

/-- Start and length of the longest run of zeros, the first one of equally long ones. -/
def longestZeroRun (groups : List Nat) : Nat × Nat :=
  (List.range groups.length).foldl (fun best start =>
    let length := zeroRun (groups.drop start)
    if best.2 < length then (start, length) else best) (0, 0)

def addressText (groups : List Nat) : List Char :=
  match groups with
  | [0, 0, 0, 0, 0, 0xFFFF, high, low] =>
    "::ffff:".toList ++ octetsText [high / 256, high % 256, low / 256, low % 256]
  | groups =>
    let run := longestZeroRun groups
    if 1 < run.2 then
      groupsText (groups.take run.1) ++ ':' :: ':' :: groupsText (groups.drop (run.1 + run.2))
    else groupsText groups

def text : SocketAddress → List Char
  | .v4 octets port => octetsText octets ++ ':' :: decimalText port
  | .v6 groups scope port =>
    let scopeText := if scope = 0 then [] else '%' :: decimalText scope
    '[' :: addressText groups ++ scopeText ++ ']' :: ':' :: decimalText port

end SocketAddress

end Ussd
