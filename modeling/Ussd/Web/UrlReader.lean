import Ussd.Web.Url
/-!
# Reading addresses

An address is read leniently: blanks around it are left out, line breaks within it vanish, a
backslash is a slash. Without a scheme it is read relative to another address.
-/

namespace Ussd.Web

inductive Target where
  | web (user : Option UserInfo) (url : Url)
  | foreign (rest : List Char)
  deriving DecidableEq, Repr

namespace Target

def isSlash (c : Char) : Bool := c == '/' || c == '\\'

def isOuter (c : Char) : Bool := c.toNat ≤ 0x20

def isInner (c : Char) : Bool := !(c == '\t' || c == '\n' || c == '\r')

/-- The text without control characters and spaces around it, and without line breaks and tabs. -/
def clean (text : List Char) : List Char :=
  ((text.dropWhile isOuter).reverse.dropWhile isOuter).reverse.filter isInner

def splitScheme? (text : List Char) : Option (List Char × List Char) :=
  match text with
  | [] => none
  | c :: _ =>
    if c.isAlpha then
      let name := text.takeWhile fun c => c.isAlphanum || c == '+' || c == '-' || c == '.'
      match text.drop name.length with
      | ':' :: rest => some (name.map Char.toLower, rest)
      | _ => none
    else none

/-! ## Paths and queries -/

def isSingleDot (segment : List Char) : Bool :=
  ([".", "%2e"].map String.toList).contains (segment.map Char.toLower)

def isDoubleDot (segment : List Char) : Bool :=
  (["..", ".%2e", "%2e.", "%2e%2e"].map String.toList).contains (segment.map Char.toLower)

def segments : List Char → List (List Char)
  | [] => [[]]
  | c :: rest =>
    if isSlash c then [] :: segments rest
    else
      match segments rest with
      | [] => [[c]]
      | segment :: others => (c :: segment) :: others

def walk (place : List (List Char)) : List (List Char) → List (List Char)
  | [] => place
  | segment :: rest =>
    let isLast := rest.isEmpty
    let place :=
      if isDoubleDot segment then place.dropLast ++ (if isLast then [[]] else [])
      else if isSingleDot segment then place ++ (if isLast then [[]] else [])
      else place ++ [percentEncode isReservedInPath segment]
    walk place rest

/-- The query after a path, if there is one; what follows a number sign is left out. -/
def readQuery (text : List Char) : Option (List Char) :=
  match text with
  | '?' :: rest => some (percentEncode isReservedInQuery (rest.takeWhile (· != '#')))
  | _ => none

def isPathChar (c : Char) : Bool := c != '?' && c != '#'

def withPath (url : Url) (place : List (List Char)) (text : List Char) : Url :=
  { url with
    path := walk place (segments (text.takeWhile isPathChar))
    query := readQuery (text.dropWhile isPathChar) }

/-! ## Authorities -/

def splitUser (text : List Char) : Option (List Char) × List Char :=
  let host := (text.reverse.takeWhile (· != '@')).reverse
  if host.length = text.length then (none, text)
  else (some (text.take (text.length - host.length - 1)), host)

def readUser (text : List Char) : UserInfo :=
  match Text.splitOnce ':' text with
  | some (name, password) =>
    { name := name, password := if password.isEmpty then none else some password }
  | none => { name := text, password := none }

/-- The host and the port of an authority; the colons within brackets belong to the host. -/
def splitPort (text : List Char) : List Char × Option (List Char) :=
  match text with
  | '[' :: _ =>
    let host := text.takeWhile (· != ']')
    match text.drop (host.length + 1) with
    | ':' :: port => (host ++ [']'], some port)
    | rest => (text.take (host.length + 1) ++ rest, none)
  | _ =>
    match Text.splitOnce ':' text with
    | some (host, port) => (host, some port)
    | none => (text, none)

def readPort? (text : Option (List Char)) : Option (Option Nat) :=
  match text with
  | none => some none
  | some [] => some none
  | some digits =>
    if digits.all Char.isDigit && decide (Text.digitsValue digits ≤ 0xFFFF) then
      some (some (Text.digitsValue digits))
    else none

def isAuthorityChar (c : Char) : Bool := isPathChar c && !isSlash c

def peer? (isSecure : Bool) (authority : List Char) : Option (Option UserInfo × Url) := do
  let (user, rest) := splitUser authority
  let (hostText, portText) := splitPort rest
  let host ← Host.read? hostText
  let port ← readPort? portText
  return (user.map readUser,
    { isSecure := isSecure, host := host,
      port := port.filter (· != Url.standardPort isSecure), path := [], query := none })

/-- What stands behind an authority, without the slash that the path begins with. -/
def behindAuthority (text : List Char) : List Char :=
  let tail := text.dropWhile isAuthorityChar
  if (tail.head?.map isSlash).getD false then tail.drop 1 else tail

def readAuthority (isSecure : Bool) (text : List Char) : Option Target :=
  (peer? isSecure (text.takeWhile isAuthorityChar)).map fun parts =>
    .web parts.1 (withPath parts.2 [] (behindAuthority text))

/-! ## Relative addresses -/

def readRelative (base : Url) (text : List Char) : Option Target :=
  match text with
  | [] => some (.web none base)
  | c :: rest =>
    if c = '#' then some (.web none base)
    else if c = '?' then some (.web none { base with query := readQuery text })
    else if isSlash c then
      if (rest.head?.map isSlash).getD false then
        readAuthority base.isSecure (rest.dropWhile isSlash)
      else some (.web none (withPath base [] rest))
    else some (.web none (withPath base base.path.dropLast text))

def read? (base : Option Url) (text : List Char) : Option Target :=
  let text := clean text
  match splitScheme? text with
  | none => base.bind fun base => readRelative base text
  | some (scheme, rest) =>
    if scheme == "http".toList || scheme == "https".toList then
      let isSecure := scheme == "https".toList
      let slashes := (rest.takeWhile isSlash).length
      match base.filter fun base => base.isSecure == isSecure && decide (slashes < 2) with
      | some base => readRelative base rest
      | none => readAuthority isSecure (rest.dropWhile isSlash)
    else some (.foreign rest)

end Target

def Url.read? (text : String) : Option (Option UserInfo × Url) :=
  match Target.read? none text.toList with
  | some (.web user url) => some (user, url)
  | _ => none

example : (Url.read? " http://h:80/a/./b/%2E%2e/c d?x='#y").map (fun parts => parts.2.text) =
    some "http://h/a/c%20d?x=%27".toList := by
  decide +kernel

end Ussd.Web
