import Ussd.Carrier.Form
import Ussd.Web.MediaType
/-!
# The endpoint for carriers

Carriers reach the gateway at one path; at another one they can ask whether it is up.
-/

namespace Ussd

structure WebRequest where
  method : String
  /-- The path, with a query that is not regarded. -/
  target : String
  contentType : Option String
  body : String
  deriving DecidableEq, Repr, Inhabited

structure WebAnswer where
  status : Nat
  body : Option Json
  deriving Inhabited

namespace WebAnswer

def bare (status : Nat) : WebAnswer := { status := status, body := none }

def missingField (name : String) : Json :=
  .ofFields [("code", .text "BAD_REQUEST"), ("message", .text (name ++ " is required"))]

def health : Json := .ofFields [("status", .text "UP")]

end WebAnswer

def CarrierAnswer.toJson (answer : CarrierAnswer) : Json :=
  .ofFields [("message", .text answer.message), ("continueSession", .bool answer.continues)]

def WebRequest.path (request : WebRequest) : String :=
  String.ofList (request.target.toList.takeWhile fun c => c != '?' && c != '#')

def WebRequest.hasJson (request : WebRequest) : Bool :=
  match request.contentType.bind fun contentType => MediaType.read? contentType.toList with
  | some mediaType => mediaType.isJson
  | none => false

variable {β : Type} [Backend β]

def answerForm (setting : Setting) (form : CarrierForm) : Run β Empty WebAnswer := do
  match form.blankField? with
  | some name =>
    note (.blankField name)
    return { status := 400, body := some (WebAnswer.missingField name) }
  | none =>
    note (.requestReceived form.serviceCode form.phoneNumber)
    let answer ← handleRun setting form.toRequest
    return { status := 200, body := some answer.toJson }

def answerBody (setting : Setting) (request : WebRequest) : Run β Empty WebAnswer := do
  if !request.hasJson then return .bare 415
  match CarrierForm.ofText request.body with
  | .error .malformed => return .bare 400
  | .error .unfit => return .bare 422
  | .ok form => answerForm setting form

def answerWeb (setting : Setting) (request : WebRequest) : Run β Empty WebAnswer := do
  if request.path = "/api/ussd" then
    if request.method = "POST" then answerBody setting request else return .bare 405
  else if request.path = "/api/ussd/health" then
    if request.method = "GET" then return { status := 200, body := some WebAnswer.health }
    else if request.method = "HEAD" then return .bare 200
    else return .bare 405
  else return .bare 404

end Ussd
