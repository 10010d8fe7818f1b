import Ussd.Backend.Credentials
import Ussd.Json.Reader
/-!
# Requests to a backend

A call is rendered against the session data into one complete request. The address is the endpoint
alone if that is absolute, and otherwise the backend's address and the endpoint with one slash
between them.
-/

namespace Ussd

structure Request where
  method : Method
  url : String
  headers : Table String
  query : List (String × String)
  body : Option Json
  deriving Inhabited

inductive RequestFault where
  | noEndpoint
  | noBaseUrl (endpoint : String)
  deriving DecidableEq, Repr

def RequestFault.message : RequestFault → String
  | .noEndpoint => "API call has no endpoint"
  | .noBaseUrl endpoint => "No base URL configured for endpoint " ++ endpoint

namespace Request

def isAbsolute (endpoint : List Char) : Bool :=
  Text.startsWith "http://".toList endpoint || Text.startsWith "https://".toList endpoint

def dropSlashes (text : List Char) : List Char := (text.reverse.dropWhile (· == '/')).reverse

def joinUrl (base endpoint : List Char) : List Char :=
  let base := dropSlashes base
  if endpoint.head? = some '/' then base ++ endpoint else base ++ '/' :: endpoint

def renderTrimmed (template : String) (data : Json) : List Char :=
  Placeholder.renderChars (Text.trim template.toList) data

def urlOf (config : Option ApiConfig) (call : ApiCall) (data : Json) :
    Except RequestFault String :=
  let endpoint := renderTrimmed call.endpoint data
  if endpoint.isEmpty then .error .noEndpoint
  else if isAbsolute endpoint then .ok (String.ofList endpoint)
  else
    let base := (config.map fun config => renderTrimmed config.baseUrl data).getD []
    if base.isEmpty then .error (.noBaseUrl (String.ofList endpoint))
    else .ok (String.ofList (joinUrl base endpoint))

def renderHeaders (headers : Table String) (data : Json) : List (String × String) :=
  headers.map fun header => (header.1, Placeholder.render header.2 data)

/-- A body that is a text holding JSON is that JSON. -/
def openText : Json → Json
  | .text value => (Json.parseText value).getD (.text value)
  | value => value

/-- The body: the rendered template, else the projection that the mapping describes, else all of the
data. -/
def bodyOf (call : ApiCall) (data : Json) : Json :=
  match call.body, call.requestMapping with
  | some template, _ => openText (Placeholder.renderValue data template)
  | none, some mapping =>
    .object (mapping.map fun entry => (entry.1, (data.extract entry.2.toList).getD .null))
  | none, none => data

def credentialsOf (config : Option ApiConfig) (data : Json) :
    Except CredentialGap Credentials :=
  match config.bind ApiConfig.authentication with
  | some authentication => authentication.resolve data
  | none => .ok .none

/-- The request for a call. Of headers with one name those of the credentials come first, then those
of the call, then those of the service. -/
def build (config : Option ApiConfig) (call : ApiCall) (data : Json) :
    Except RequestFault Request :=
  match urlOf config call data with
  | .error fault => .error fault
  | .ok url =>
    let credentials := (credentialsOf config data).toOption.getD .none
    let common := (config.map ApiConfig.headers).getD []
    .ok {
      method := call.method
      url := url
      headers := Table.ofList (renderHeaders common data ++ renderHeaders call.headers data
        ++ credentials.headers)
      query := credentials.query
      body := if call.method.hasBody then some (bodyOf call data) else none }

/-! ## What is noticed on the way -/

/-- The unknown filters met in the address, the headers and the credentials of a request, in order. -/
def unknownFilters (config : Option ApiConfig) (call : ApiCall) (data : Json) : List String :=
  let endpoint := renderTrimmed call.endpoint data
  let relative := !endpoint.isEmpty && !isAbsolute endpoint
  let addresses := trimmed call.endpoint ::
    (if relative then (config.map fun config => trimmed config.baseUrl).toList else [])
  let others := match urlOf config call data with
    | .error _ => []
    | .ok _ =>
      ((config.map ApiConfig.headers).getD []).values ++ call.headers.values
        ++ ((config.bind ApiConfig.authentication).map fun authentication =>
          authentication.renderedTemplates data).getD []
  (addresses ++ others).flatMap Placeholder.unknownFilters

def unknownBodyFilters (config : Option ApiConfig) (call : ApiCall) (data : Json) : List String :=
  match urlOf config call data, call.body with
  | .ok _, some template =>
    if call.method.hasBody then Placeholder.unknownFiltersIn template else []
  | _, _ => []

def credentialGap? (config : Option ApiConfig) (call : ApiCall) (data : Json) :
    Option CredentialGap :=
  match urlOf config call data, credentialsOf config data with
  | .ok _, .error gap => some gap
  | _, _ => none

end Request

end Ussd
