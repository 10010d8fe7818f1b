import Ussd.Backend.Call
import Ussd.Condition
import Ussd.Fault
import Ussd.Message.Render
import Ussd.Pattern.Fault
import Ussd.Service.Check
/-!
# Log events

What a gateway reports about its work, one event for each thing worth knowing.
-/

namespace Ussd

inductive Severity where
  | debug
  | info
  | warning
  | error
  deriving DecidableEq, Repr, Inhabited

def Severity.label : Severity → String
  | .debug => "DEBUG"
  | .info => "INFO"
  | .warning => "WARN"
  | .error => "ERROR"

inductive Event where
  -- requests of carriers
  | blankField (name : String)
  | requestReceived (shortCode phoneNumber : String)
  | sessionUnresolved (phoneNumber reason : String)
  | unknownShortCode (shortCode : String)
  | menuSelection (sessionId serviceCode : String)
  | turnFailed (sessionId reason : String)
  | endFailed (sessionId reason : String)
  -- sessions
  | staleReplaced (sessionId : String)
  | sessionCreated (sessionId serviceCode stateId : String)
  | entryKept (sessionId name : String)
  | entriesKept (sessionId : String) (count : Nat)
  | sessionEnded (sessionId : String)
  -- turns
  | serviceEntered (sessionId serviceCode stateId : String)
  | turnStarted (sessionId stateId : String) (type : StateType)
  | turnCompleted (sessionId source target : String) (continues : Bool)
  | stateEntered (sessionId stateId : String)
  | optionUnknown (sessionId stateId : String)
  | inputRejected (sessionId stateId reason : String)
  -- actions
  | actionStarted (sessionId : String) (action : Action)
  | sideActionFailed (sessionId : String) (action : Action) (reason : String)
  | noErrorRoute (sessionId stateId reason : String)
  | finalActionFailed (sessionId stateId reason : String)
  | recordActionFailed (sessionId name : String) (operation : RecordOperation) (reason : String)
  -- calls of backends
  | requestNotBuilt (endpoint : String) (fault : RequestFault)
  | credentialsMissing (gap : CredentialGap)
  | requestSent (method : Method) (url : String)
  | callRetried (url : String) (status : CallStatus) (attempt wait : Nat)
  | callCompleted (request : Request) (response : Response) (attempts : Nat)
  | callFailed (sessionId endpoint : String) (status : CallStatus) (reason : String)
  | pathNotFound (name path : String)
  -- records
  | recordLoaded (serviceCode name : String) (found : Bool)
  | recordSaved (serviceCode name : String)
  | recordExtended (serviceCode name : String)
  | recordDeleted (serviceCode name : String)
  -- definitions
  | unknownStateType (raw : String)
  | noInitialState (serviceCode stateId : String)
  | definitionIssue (serviceCode : String) (issue : DefinitionIssue)
  | definitionCached (serviceCode : String) (states : Nat)
  -- templates, conditions and patterns
  | unknownFilter (name : String)
  | templateMalformed (error : Message.TemplateError)
  | conditionUnbraced (condition : String)
  | conditionFaulty (condition : String) (fault : Condition.Fault)
  | patternIgnored (pattern : String) (fault : Pattern.Fault)
  -- sweeps
  | sweepCompleted (expired purged : Nat)
  | sweepFailed (reason : String)
  | sweeperStopped

namespace Event

def severity : Event → Severity
  | .sessionUnresolved .. => .error
  | .turnFailed .. => .error
  | .sweepFailed _ => .error
  | .blankField _ => .warning
  | .endFailed .. => .warning
  | .sideActionFailed .. => .warning
  | .noErrorRoute .. => .warning
  | .finalActionFailed .. => .warning
  | .recordActionFailed .. => .warning
  | .requestNotBuilt .. => .warning
  | .credentialsMissing _ => .warning
  | .callRetried .. => .warning
  | .callFailed .. => .warning
  | .unknownStateType _ => .warning
  | .noInitialState .. => .warning
  | .definitionIssue .. => .warning
  | .unknownFilter _ => .warning
  | .templateMalformed _ => .warning
  | .conditionFaulty .. => .warning
  | .patternIgnored .. => .warning
  | .unknownShortCode _ => .info
  | .menuSelection .. => .info
  | .sessionCreated .. => .info
  | .sessionEnded _ => .info
  | .serviceEntered .. => .info
  | .turnCompleted .. => .info
  | .callCompleted .. => .info
  | .sweepCompleted .. => .info
  | .sweeperStopped => .info
  | _ => .debug

def message : Event → String
  | .blankField _ => "rejecting USSD request with blank field"
  | .requestReceived .. => "USSD request"
  | .sessionUnresolved .. => "cannot resolve session"
  | .unknownShortCode _ => "unknown short code"
  | .menuSelection .. => "main menu selection"
  | .turnFailed .. => "turn failed"
  | .endFailed .. => "could not end failed session"
  | .staleReplaced _ => "replacing stale session"
  | .sessionCreated .. => "session created"
  | .entryKept .. => "storing session data"
  | .entriesKept .. => "storing session data batch"
  | .sessionEnded _ => "session ended"
  | .serviceEntered .. => "entering service"
  | .turnStarted .. => "executing turn"
  | .turnCompleted .. => "turn completed"
  | .stateEntered .. => "navigated"
  | .optionUnknown .. => "invalid option"
  | .inputRejected .. => "input rejected"
  | .actionStarted .. => "executing action"
  | .sideActionFailed .. => "side action failed"
  | .noErrorRoute .. => "action failed with no error route"
  | .finalActionFailed .. => "final action failed"
  | .recordActionFailed .. => "storage action failed"
  | .requestNotBuilt .. => "cannot build API request"
  | .credentialsMissing gap => gap.message
  | .requestSent .. => "sending API request"
  | .callRetried .. => "retrying API call"
  | .callCompleted .. => "API call completed"
  | .callFailed .. => "API call failed"
  | .pathNotFound .. => "response path not found"
  | .recordLoaded .. => "storage load"
  | .recordSaved .. => "storage save"
  | .recordExtended .. => "storage append"
  | .recordDeleted .. => "storage delete"
  | .unknownStateType _ => "unknown state type, defaulting to DISPLAY"
  | .noInitialState .. => "no initial state flagged, falling back to first state"
  | .definitionIssue .. => "definition issue"
  | .definitionCached .. => "definition cached"
  | .unknownFilter _ => "unknown template filter"
  | .templateMalformed _ => "message template failed to parse, rendering raw text"
  | .conditionUnbraced _ => "condition without braces, treated as true"
  | .conditionFaulty .. => "condition evaluation failed"
  | .patternIgnored .. => "ignoring invalid validation pattern"
  | .sweepCompleted .. => "session sweep completed"
  | .sweepFailed _ => "session sweep failed"
  | .sweeperStopped => "session sweeper stopped"

def operationName : RecordOperation → String
  | .save => "Save"
  | .load => "Load"
  | .append => "Append"
  | .delete => "Delete"

def codeText : Option Nat → String
  | some code => "Some(" ++ toString code ++ ")"
  | none => "None"

def textField (name value : String) : String × Json := (name, .text value)

def atSession (sessionId : String) (others : List (String × Json)) : List (String × Json) :=
  textField "session_id" sessionId :: others

def atState (sessionId stateId : String) (others : List (String × Json)) :
    List (String × Json) :=
  atSession sessionId (textField "state_id" stateId :: others)

def atRecord (serviceCode name : String) : List (String × Json) :=
  [textField "service_code" serviceCode, textField "key" name]

def fields : Event → List (String × Json)
  | .blankField name => [textField "field" name]
  | .requestReceived shortCode phoneNumber =>
    [textField "service_code" shortCode, textField "phone_number" phoneNumber]
  | .sessionUnresolved phoneNumber reason =>
    [textField "phone_number" phoneNumber, textField "error" reason]
  | .unknownShortCode shortCode => [textField "service_code" shortCode]
  | .menuSelection sessionId serviceCode =>
    atSession sessionId [textField "service_code" serviceCode]
  | .turnFailed sessionId reason => atSession sessionId [textField "error" reason]
  | .endFailed sessionId reason => atSession sessionId [textField "error" reason]
  | .staleReplaced sessionId => atSession sessionId []
  | .sessionCreated sessionId serviceCode stateId =>
    atSession sessionId [textField "service_code" serviceCode, textField "initial_state" stateId]
  | .entryKept sessionId name => atSession sessionId [textField "key" name]
  | .entriesKept sessionId count => atSession sessionId [("count", .natural count)]
  | .sessionEnded sessionId => atSession sessionId []
  | .serviceEntered sessionId serviceCode stateId =>
    atState sessionId stateId [textField "service_code" serviceCode]
  | .turnStarted sessionId stateId type =>
    atState sessionId stateId [textField "state_type" type.label]
  | .turnCompleted sessionId source target continues =>
    atSession sessionId
      [textField "from" source, textField "to" target, ("continue_session", .bool continues)]
  | .stateEntered sessionId stateId => atState sessionId stateId []
  | .optionUnknown sessionId stateId => atState sessionId stateId []
  | .inputRejected sessionId stateId reason => atState sessionId stateId [textField "error" reason]
  | .actionStarted sessionId action => atSession sessionId [textField "kind" action.kind]
  | .sideActionFailed sessionId action reason =>
    atSession sessionId [textField "kind" action.kind, textField "reason" reason]
  | .noErrorRoute sessionId stateId reason => atState sessionId stateId [textField "reason" reason]
  | .finalActionFailed sessionId stateId reason =>
    atState sessionId stateId [textField "reason" reason]
  | .recordActionFailed sessionId name operation reason =>
    atSession sessionId
      [textField "key" name, textField "op" (operationName operation), textField "error" reason]
  | .requestNotBuilt endpoint fault =>
    [textField "endpoint" endpoint, textField "reason" fault.message]
  | .credentialsMissing _ => []
  | .requestSent method url => [textField "method" method.label, textField "url" url]
  | .callRetried url status attempt wait =>
    [textField "url" url, textField "status" status.logName, ("attempt", .natural attempt),
      ("delay_ms", .natural wait)]
  | .callCompleted request response attempts =>
    [textField "method" request.method.label, textField "url" request.url,
      textField "status" response.status.logName,
      textField "status_code" (codeText response.statusCode),
      ("duration_ms", .natural response.duration), ("attempts", .natural attempts)]
  | .callFailed sessionId endpoint status reason =>
    atSession sessionId
      [textField "endpoint" endpoint, textField "status" status.logName, textField "error" reason]
  | .pathNotFound name path => [textField "key" name, textField "path" path]
  | .recordLoaded serviceCode name found =>
    ("found", .bool found) :: atRecord serviceCode name
  | .recordSaved serviceCode name => atRecord serviceCode name
  | .recordExtended serviceCode name => atRecord serviceCode name
  | .recordDeleted serviceCode name => atRecord serviceCode name
  | .unknownStateType raw => [textField "state_type" raw]
  | .noInitialState serviceCode stateId =>
    [textField "service_code" serviceCode, textField "state_id" stateId]
  | .definitionIssue serviceCode issue =>
    [textField "service_code" serviceCode, textField "issue" issue.message]
  | .definitionCached serviceCode states =>
    [textField "service_code" serviceCode, ("states", .natural states)]
  | .unknownFilter name => [textField "filter" name]
  | .templateMalformed error => [textField "error" error.message]
  | .conditionUnbraced condition => [textField "condition" condition]
  | .conditionFaulty condition fault =>
    [textField "condition" condition, textField "error" fault.message]
  | .patternIgnored pattern fault =>
    [textField "pattern" pattern, textField "error" (fault.display pattern.toList)]
  | .sweepCompleted expired purged => [("expired", .natural expired), ("purged", .natural purged)]
  | .sweepFailed reason => [textField "error" reason]
  | .sweeperStopped => []

end Event

end Ussd
