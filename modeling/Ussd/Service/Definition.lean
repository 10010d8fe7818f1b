import Ussd.Json.Reader
import Ussd.Json.Writer
import Ussd.Service.State
/-!
# Service definitions

The declaration of one service: its codes, its backend, its session timeouts and its states.
-/

namespace Ussd

inductive AuthScheme where
  | none
  | basic
  | bearer
  | apiKey
  deriving DecidableEq, Repr, Inhabited

namespace AuthScheme

def label : AuthScheme → String
  | .none => "NONE"
  | .basic => "BASIC"
  | .bearer => "BEARER"
  | .apiKey => "API_KEY"

def all : List AuthScheme := [.none, .basic, .bearer, .apiKey]

def decode : Decoder AuthScheme := Decoder.choice fun label => all.find? (·.label == label)

end AuthScheme

structure Authentication where
  scheme : AuthScheme
  credentials : Table String
  deriving DecidableEq, Repr, Inhabited

namespace Authentication

def decode : Decoder Authentication := fun node => do
  let record ← Record.ofNode ["type", "credentials"] node
  return {
    scheme := ← record.defaulted "type" .none AuthScheme.decode
    credentials := ← record.defaulted "credentials" [] (Decoder.table Decoder.text) }

def toJson (authentication : Authentication) : Json :=
  .ofFields [("type", .text authentication.scheme.label),
    ("credentials", textTable authentication.credentials)]

end Authentication

structure ApiConfig where
  baseUrl : String
  /-- In seconds. -/
  timeout : Option Nat
  retryAttempts : Nat
  authentication : Option Authentication
  headers : Table String
  deriving DecidableEq, Repr, Inhabited

namespace ApiConfig

def fieldNames : List String :=
  ["baseUrl", "timeout", "retryAttempts", "authentication", "headers"]

def decode : Decoder ApiConfig := fun node => do
  let record ← Record.ofNode fieldNames node
  return {
    baseUrl := ← record.defaulted "baseUrl" "" Decoder.text
    timeout := ← record.voluntary "timeout" Decoder.word
    retryAttempts := ← record.defaulted "retryAttempts" 0 (Decoder.natural 0xFFFFFFFF)
    authentication := ← record.voluntary "authentication" Authentication.decode
    headers := ← record.defaulted "headers" [] (Decoder.table Decoder.text) }

def toJson (config : ApiConfig) : Json :=
  .ofFields ([("baseUrl", .text config.baseUrl),
      ("retryAttempts", .natural config.retryAttempts), ("headers", textTable config.headers)]
    ++ fieldIfSome "timeout" (config.timeout.map Json.natural)
    ++ fieldIfSome "authentication" (config.authentication.map Authentication.toJson))

end ApiConfig

structure SessionLimits where
  timeout : Option Nat
  maxInactivity : Option Nat
  deriving DecidableEq, Repr, Inhabited

namespace SessionLimits

def decode : Decoder SessionLimits := fun node => do
  let record ← Record.ofNode ["timeoutSeconds", "maxInactivitySeconds"] node
  return {
    timeout := ← record.voluntary "timeoutSeconds" Decoder.word
    maxInactivity := ← record.voluntary "maxInactivitySeconds" Decoder.word }

def toJson (limits : SessionLimits) : Json :=
  .ofFields (fieldIfSome "timeoutSeconds" (limits.timeout.map Json.natural)
    ++ fieldIfSome "maxInactivitySeconds" (limits.maxInactivity.map Json.natural))

/-- How long a session stays live after its last activity: the tighter of the two limits. -/
def effectiveTimeout? (limits : SessionLimits) : Option Nat :=
  match limits.timeout, limits.maxInactivity with
  | some timeout, some idle => some (min timeout idle)
  | some timeout, none => some timeout
  | none, idle => idle

end SessionLimits

structure Definition where
  serviceCode : String
  serviceName : String
  version : String
  shortCode : String
  description : Option String
  apiConfig : Option ApiConfig
  sessionLimits : SessionLimits
  states : List State
  deriving Inhabited

namespace Definition

def fieldNames : List String :=
  ["serviceCode", "serviceName", "version", "shortCode", "description", "apiConfig",
    "sessionConfig", "states"]

def decode : Decoder Definition := fun node => do
  let record ← Record.ofNode fieldNames node
  return {
    serviceCode := ← record.required "serviceCode" Decoder.text
    serviceName := ← record.defaulted "serviceName" "" Decoder.text
    version := ← record.defaulted "version" "" Decoder.text
    shortCode := ← record.defaulted "shortCode" "" Decoder.text
    description := ← record.voluntary "description" Decoder.text
    apiConfig := ← record.voluntary "apiConfig" ApiConfig.decode
    sessionLimits := ← record.defaulted "sessionConfig" default SessionLimits.decode
    states := ← record.defaulted "states" [] (Decoder.list State.decode) }

/-- The definition written back, with defaults filled in and absent options left out. -/
def toJson (definition : Definition) : Json :=
  .ofFields ([("serviceCode", .text definition.serviceCode),
      ("serviceName", .text definition.serviceName), ("version", .text definition.version),
      ("shortCode", .text definition.shortCode),
      ("sessionConfig", definition.sessionLimits.toJson),
      ("states", .list (definition.states.map State.toJson))]
    ++ fieldIfSome "description" (definition.description.map Json.text)
    ++ fieldIfSome "apiConfig" (definition.apiConfig.map ApiConfig.toJson))

def ofJson? (value : Json) : Option Definition := (decode (Node.ofJson value)).toOption

def ofText? (text : String) : Option Definition :=
  (decode (Json.readDocument text.toList)).toOption

def toText (definition : Definition) : String := definition.toJson.writeText

def unknownTypes (node : Node) : List String :=
  let slotOf (names : List String) (name : String) (node : Node) : Node :=
    match (Record.ofNode names node).toOption.map (Record.slot · name) with
    | some (Slot.given value) => value
    | _ => .null
  match slotOf fieldNames "states" node with
  | .list states =>
    states.filterMap fun state =>
      (Decoder.text (slotOf State.fieldNames "type" state)).toOption.filter fun name =>
        (StateType.recognise? name).isNone
  | _ => []

def state? (definition : Definition) (id : String) : Option State :=
  definition.states.find? (·.id == id)

/-- The state in which sessions start: the first that is marked so, or else the first of all. -/
def initialState? (definition : Definition) : Option State :=
  match definition.states.find? State.isInitial with
  | some state => some state
  | none => definition.states.head?

end Definition

end Ussd
