import Ussd.Web.Host
/-!
# Addresses on the web

An address of the two web schemes. It has been read already: its path has no dot segments, and what
is reserved is written in percent codes.
-/

namespace Ussd.Web

structure Url where
  isSecure : Bool
  host : Host
  /-- Missing where it is the one of the scheme. -/
  port : Option Nat
  path : List (List Char)
  query : Option (List Char)
  deriving DecidableEq, Repr

/-- Who asks, as an address may tell: a name and a password in percent codes. -/
structure UserInfo where
  name : List Char
  password : Option (List Char)
  deriving DecidableEq, Repr

namespace Url

def standardPort (isSecure : Bool) : Nat := if isSecure then 443 else 80

def actualPort (url : Url) : Nat := url.port.getD (standardPort url.isSecure)

def scheme (url : Url) : List Char := if url.isSecure then "https".toList else "http".toList

def authority (url : Url) : List Char :=
  url.host.text ++
    (match url.port with
      | some port => ':' :: Nat.toDigits 10 port
      | none => [])

def target (url : Url) : List Char :=
  url.path.flatMap ('/' :: ·) ++
    (match url.query with
      | some query => '?' :: query
      | none => [])

def text (url : Url) : List Char := url.scheme ++ "://".toList ++ url.authority ++ url.target

def hasSameOrigin (left right : Url) : Bool :=
  left.host == right.host && left.actualPort == right.actualPort

end Url

end Ussd.Web
