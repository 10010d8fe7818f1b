import Ussd.Settings.Address
import Ussd.Web.PercentCode
/-!
# Hosts

A host is a number that addresses it, in four parts or in eight groups, or else a name. A numeric
address may be written with fewer parts, in octal or in hexadecimal.
-/

namespace Ussd.Web

inductive Host where
  | v4 (address : Nat)
  | v6 (groups : List Nat)
  | name (text : List Char)
  deriving DecidableEq, Repr

namespace Host

def loopback : Host := .v4 0x7F000001

def isForbidden (c : Char) : Bool :=
  c.toNat ≤ 0x20 || c.toNat = 0x7F || "#/:<>?@[\\]^|%".toList.contains c

/-! ## Numeric addresses -/

def readPart? : List Char → Option Nat
  | [] => none
  | '0' :: 'x' :: rest => Text.digitsIn? 16 rest
  | '0' :: 'X' :: rest => Text.digitsIn? 16 rest
  | '0' :: rest => Text.digitsIn? 8 rest
  | text => Text.digitsIn? 10 text

/-- The parts of a name; a dot at its end does not count. -/
def parts (text : List Char) : List (List Char) :=
  let all := Text.splitOn '.' text
  if 1 < all.length && all.getLast? == some [] then all.dropLast else all

/-- Whether the last part of a name is a number, so that the name has to be an address. -/
def endsInNumber (text : List Char) : Bool :=
  match (parts text).getLast? with
  | none => false
  | some last => (!last.isEmpty && last.all Char.isDigit) || (readPart? last).isSome

/-- The address of some parts: all but the last are bytes, the last one fills the rest. -/
def addressOf? (parts : List Nat) : Option Nat :=
  match parts.reverse with
  | [] => none
  | last :: others =>
    if 3 < others.length || others.any (255 < ·) || Nat.pow 256 (4 - others.length) ≤ last then none
    else some (others.reverse.foldl (fun value part => value * 256 + part) 0
      * Nat.pow 256 (4 - others.length) + last)

def readV4? (text : List Char) : Option Host :=
  ((parts text).mapM readPart?).bind fun parts => (addressOf? parts).map .v4

def readV6? (text : List Char) : Option Host := do
  let (groups, rest) ← SocketAddress.readAllGroups text
  if rest.isEmpty then some (.v6 groups) else none

/-! ## Reading and writing -/

def read? (text : List Char) : Option Host :=
  match text with
  | [] => none
  | '[' :: rest => (Text.beforeEnd? [']'] rest).bind readV6?
  | _ =>
    let name := (Text.utf8Text (percentDecode text)).map Char.toLower
    if name.isEmpty || name.any isForbidden then none
    else if endsInNumber name then readV4? name
    else some (.name name)

def octets (address : Nat) : List Nat :=
  [address / 0x1000000, address / 0x10000 % 256, address / 256 % 256, address % 256]

def text : Host → List Char
  | .v4 address => SocketAddress.octetsText (octets address)
  | .v6 groups => '[' :: SocketAddress.addressText groups ++ [']']
  | .name text => text

example : read? "0x7f.1".toList = some loopback := by decide +kernel

end Host

end Ussd.Web
