import Ussd.Json.Path
import Ussd.Json.Reader
import Ussd.Json.Writer
/-!
# Responses of a backend

The outcome of a call: how it ended and, if an answer arrived, its status code, headers and body.
-/

namespace Ussd

inductive CallStatus where
  | success
  | clientError
  | serverError
  | timeout
  | networkError
  deriving DecidableEq, Repr, Inhabited

namespace CallStatus

def label : CallStatus → String
  | .success => "SUCCESS"
  | .clientError => "CLIENT_ERROR"
  | .serverError => "SERVER_ERROR"
  | .timeout => "TIMEOUT"
  | .networkError => "NETWORK_ERROR"

def logName : CallStatus → String
  | .success => "Success"
  | .clientError => "ClientError"
  | .serverError => "ServerError"
  | .timeout => "Timeout"
  | .networkError => "NetworkError"

def all : List CallStatus := [.success, .clientError, .serverError, .timeout, .networkError]

def labelled? (label : String) : Option CallStatus := all.find? (·.label == label)

/-- Codes from 200 to 299 are a success, those from 400 to 499 the fault of the caller, and all
others the fault of the backend. -/
def ofCode (code : Nat) : CallStatus :=
  if 200 ≤ code ∧ code ≤ 299 then .success
  else if 400 ≤ code ∧ code ≤ 499 then .clientError
  else .serverError

def isRetryable : CallStatus → Bool
  | .serverError => true
  | .timeout => true
  | .networkError => true
  | _ => false

end CallStatus

structure Response where
  status : CallStatus
  statusCode : Option Nat
  headers : Table String
  body : Option String
  errorMessage : Option String
  /-- How long the last attempt took, in milliseconds. -/
  duration : Nat
  deriving DecidableEq, Repr, Inhabited

namespace Response

def answered (code : Nat) (headers : Table String) (body : String) (duration : Nat) : Response where
  status := .ofCode code
  statusCode := some code
  headers := headers
  body := some body
  errorMessage :=
    if CallStatus.ofCode code = .success then none else some ("HTTP " ++ toString code)
  duration := duration

def failure (status : CallStatus) (message : String) (duration : Nat) : Response where
  status := status
  statusCode := none
  headers := []
  body := none
  errorMessage := some message
  duration := duration

def isSuccess (response : Response) : Bool := response.status == .success

def json? (response : Response) : Option Json :=
  response.body.bind fun body =>
    let text := Text.trim body.toList
    if text.isEmpty then none else Json.parse text

/-- The value that paths start from; a list stands in the field `data` of an object. -/
def data? (response : Response) : Option Json :=
  response.json?.map fun value =>
    match value with
    | .list items => .ofFields [("data", .list items)]
    | value => value

/-- The value at a path; a point or a dollar sign alone stands for the whole body. -/
def extract (response : Response) (path : String) : Option Json :=
  let path := Text.trim path.toList
  if path = ['.'] ∨ path = ['$'] then response.json?
  else response.data?.bind fun data => data.extract path

def detailNames : List String := ["error", "message", "msg"]

/-- The text that a value gives as a detail of an error; an object gives its `message`. -/
def detailOf (value : Json) : Option String :=
  let shown := match value with
    | .object fields => (Table.get? fields "message").map Json.display
    | value => some value.display
  shown.filter fun text => !isAllBlank text

def errorDetail? (response : Response) : Option String :=
  (response.json?.bind Json.fields?).bind fun fields =>
    detailNames.findSome? fun name => (Table.get? fields name).bind detailOf

end Response

end Ussd
