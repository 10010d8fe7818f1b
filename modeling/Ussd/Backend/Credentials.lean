import Ussd.Service.Definition
import Ussd.Template.Placeholder
import Ussd.Text.Base64
import Ussd.Text.Utf8
/-!
# Credentials

How a service shows its backend who is calling. Credentials are templates over the session data, and
one that renders to the empty text counts as missing.
-/

namespace Ussd

structure Credentials where
  headers : Table String
  query : List (String × String)
  deriving DecidableEq, Repr, Inhabited

inductive CredentialGap where
  | basic
  | bearer
  | apiKey
  deriving DecidableEq, Repr

def CredentialGap.message : CredentialGap → String
  | .basic => "basic authentication configured without username/password"
  | .bearer => "bearer authentication configured without token"
  | .apiKey => "api key authentication configured without apiKey"

namespace Credentials

def none : Credentials := { headers := [], query := [] }

def header (name value : String) : Credentials := { headers := [(name, value)], query := [] }

def keyHeader : String := "X-API-Key"

end Credentials

namespace Authentication

def credential? (authentication : Authentication) (data : Json) (name : String) : Option String :=
  ((Table.get? authentication.credentials name).map fun template =>
    Placeholder.render template data).filter fun value => !value.isEmpty

def key? (authentication : Authentication) (data : Json) : Option String :=
  (authentication.credential? data "apiKey").or (authentication.credential? data "key")

/-- A key goes to the query parameter or the header that is named for it. Without either, a colon
in the key separates the name of its header from its value. -/
def placeKey (authentication : Authentication) (data : Json) (key : String) : Credentials :=
  match authentication.credential? data "paramName",
      authentication.credential? data "headerName" with
  | some parameter, _ => { headers := [], query := [(parameter, key)] }
  | none, some header => .header header key
  | none, none =>
    match Text.splitOnce ':' key.toList with
    | some (header, value) =>
      .header (String.ofList (Text.trim header)) (String.ofList (Text.trim value))
    | none => .header Credentials.keyHeader key

def resolve (authentication : Authentication) (data : Json) :
    Except CredentialGap Credentials :=
  match authentication.scheme with
  | .none => .ok .none
  | .basic =>
    match authentication.credential? data "username",
        authentication.credential? data "password" with
    | some user, some password =>
      let token := Text.base64 (Text.utf8Bytes (user ++ ":" ++ password))
      .ok (.header "Authorization" ("Basic " ++ String.ofList token))
    | _, _ => .error .basic
  | .bearer =>
    match authentication.credential? data "token" with
    | some token => .ok (.header "Authorization" ("Bearer " ++ token))
    | none => .error .bearer
  | .apiKey =>
    match authentication.key? data with
    | some key => .ok (authentication.placeKey data key)
    | none => .error .apiKey

/-- The templates that are rendered for the credentials of a call, in order. -/
def renderedTemplates (authentication : Authentication) (data : Json) : List String :=
  let names := match authentication.scheme with
    | .none => []
    | .basic => ["username", "password"]
    | .bearer => ["token"]
    | .apiKey =>
      ["apiKey"]
        ++ (if (authentication.credential? data "apiKey").isSome then [] else ["key"])
        ++ (if (authentication.key? data).isNone then []
          else if (authentication.credential? data "paramName").isSome then ["paramName"]
          else ["paramName", "headerName"])
  names.filterMap (Table.get? authentication.credentials)

end Authentication

end Ussd
