import Ussd.Json.Decode
/-!
# Actions

What a state does besides showing a screen: a call of the service's backend, or work on the records
that a service keeps for a subscriber.
-/

namespace Ussd

inductive Method where
  | get
  | post
  | put
  | patch
  | delete
  deriving DecidableEq, Repr, Inhabited

namespace Method

def label : Method → String
  | .get => "GET"
  | .post => "POST"
  | .put => "PUT"
  | .patch => "PATCH"
  | .delete => "DELETE"

def lowerLabel : Method → String
  | .get => "get"
  | .post => "post"
  | .put => "put"
  | .patch => "patch"
  | .delete => "delete"

def all : List Method := [.get, .post, .put, .patch, .delete]

def labelled? (label : String) : Option Method :=
  all.find? fun method => method.label == label || method.lowerLabel == label

def hasBody : Method → Bool
  | .post => true
  | .put => true
  | .patch => true
  | _ => false

def decode : Decoder Method := Decoder.choice labelled?

end Method

structure CallOutcome where
  nextState : Option String
  /-- Session keys and the paths in the response whose values they receive. -/
  responseMapping : Option (Table String)
  message : Option String
  deriving DecidableEq, Repr, Inhabited

namespace CallOutcome

def decode : Decoder CallOutcome := fun node => do
  let record ← Record.ofNode ["nextState", "responseMapping", "message"] node
  return {
    nextState := ← record.voluntary "nextState" Decoder.text
    responseMapping := ← record.voluntary "responseMapping" (Decoder.table Decoder.text)
    message := ← record.voluntary "message" Decoder.text }

def toJson (outcome : CallOutcome) : Json :=
  .ofFields (fieldIfSome "nextState" (outcome.nextState.map Json.text)
    ++ fieldIfSome "responseMapping" (outcome.responseMapping.map textTable)
    ++ fieldIfSome "message" (outcome.message.map Json.text))

end CallOutcome

structure ApiCall where
  method : Method
  /-- The template of the address, relative to the backend's or absolute. -/
  endpoint : String
  headers : Table String
  body : Option Json
  /-- Fields of the body and the paths in the session data that fill them. -/
  requestMapping : Option (Table String)
  /-- In seconds. -/
  timeout : Option Nat
  onSuccess : Option CallOutcome
  onError : Option CallOutcome
  deriving Inhabited

namespace ApiCall

def fieldNames : List String :=
  ["method", "endpoint", "headers", "body", "requestMapping", "timeout", "onSuccess", "onError"]

def decode : Decoder ApiCall := fun node => do
  let record ← Record.ofNode fieldNames node
  return {
    method := ← record.defaulted "method" .post Method.decode
    endpoint := ← record.defaulted "endpoint" "" Decoder.text
    headers := ← record.defaulted "headers" [] (Decoder.table Decoder.text)
    body := ← record.voluntary "body" Decoder.json
    requestMapping := ← record.voluntary "requestMapping" (Decoder.table Decoder.text)
    timeout := ← record.voluntary "timeout" Decoder.word
    onSuccess := ← record.voluntary "onSuccess" CallOutcome.decode
    onError := ← record.voluntary "onError" CallOutcome.decode }

def fields (call : ApiCall) : List (String × Json) :=
  [("method", .text call.method.label), ("endpoint", .text call.endpoint),
    ("headers", textTable call.headers)]
    ++ fieldIfSome "body" call.body
    ++ fieldIfSome "requestMapping" (call.requestMapping.map textTable)
    ++ fieldIfSome "timeout" (call.timeout.map Json.natural)
    ++ fieldIfSome "onSuccess" (call.onSuccess.map CallOutcome.toJson)
    ++ fieldIfSome "onError" (call.onError.map CallOutcome.toJson)

end ApiCall

structure RecordAccess where
  storageKey : String
  storeAs : Option String
  value : Option Json
  deriving Inhabited

namespace RecordAccess

def fieldNames : List String := ["storageKey", "storeAs", "value"]

def decode : Decoder RecordAccess := fun node => do
  let record ← Record.ofNode fieldNames node
  return {
    storageKey := ← record.required "storageKey" Decoder.text
    storeAs := ← record.voluntary "storeAs" Decoder.text
    value := ← record.voluntary "value" Decoder.json }

def fields (access : RecordAccess) : List (String × Json) :=
  [("storageKey", .text access.storageKey)]
    ++ fieldIfSome "storeAs" (access.storeAs.map Json.text)
    ++ fieldIfSome "value" access.value

end RecordAccess

inductive RecordOperation where
  | save
  | load
  | append
  | delete
  deriving DecidableEq, Repr, Inhabited

inductive Action where
  | call (request : ApiCall)
  | access (operation : RecordOperation) (target : RecordAccess)
  | nothing
  deriving Inhabited

namespace Action

def kind : Action → String
  | .call _ => "API_CALL"
  | .access .save _ => "STORAGE_SAVE"
  | .access .load _ => "STORAGE_LOAD"
  | .access .append _ => "STORAGE_APPEND"
  | .access .delete _ => "STORAGE_DELETE"
  | .nothing => "NONE"

def isNothing : Action → Bool
  | .nothing => true
  | _ => false

/-- An object whose field `type` names the action, or a list that begins with that name. The name is
found before the other fields are looked at, so all of them have to be values. -/
def splitKind (node : Node) : Except Refusal (String × Node) :=
  match node with
  | .map entries =>
    match Record.collect ["type"] entries [] with
    | .error refusal => .error refusal
    | .ok [(_, .given name)] =>
      (Decoder.text name).map fun name =>
        (name, .map (entries.filter fun entry => entry.1 != some "type"))
    | .ok _ => .error .unfit
  | .list (name :: rest) => (Decoder.text name).map fun name => (name, .list rest)
  | node => .error (Decoder.refusalOf node)

/-- The action without fields ignores the fields of an object, but a list may not go on. -/
def decodeNothing : Decoder Action
  | .map _ => .ok .nothing
  | .list [] => .ok .nothing
  | _ => .error .unfit

def decode : Decoder Action := fun node => do
  let _ ← node.toJson
  let (kind, fields) ← splitKind node
  let fields := fields.settle
  match kind with
  | "API_CALL" => (ApiCall.decode fields).map .call
  | "STORAGE_SAVE" => (RecordAccess.decode fields).map (.access .save)
  | "STORAGE_LOAD" => (RecordAccess.decode fields).map (.access .load)
  | "STORAGE_APPEND" => (RecordAccess.decode fields).map (.access .append)
  | "STORAGE_DELETE" => (RecordAccess.decode fields).map (.access .delete)
  | "NONE" => decodeNothing fields
  | _ => .error .unfit

def toJson (action : Action) : Json :=
  let fields := match action with
    | .call request => request.fields
    | .access _ target => target.fields
    | .nothing => []
  .ofFields (("type", .text action.kind) :: fields)

end Action

end Ussd
