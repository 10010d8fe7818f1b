import Ussd.Gateway.Texts
/-!
# Evaluation against the data of a session

Templates, conditions, keys of records and calls are evaluated against the data of a session. How
this is done is a parameter of the turn; by default it is done with the texts of the gateway and the
backend that it holds.
-/

namespace Ussd

inductive TurnError where
  | emptyDefinition (serviceCode : String)
  | unknownState (stateId : String)
  | noConditionHolds (stateId : String)
  | missingTransition (stateId : String) (outcome : Outcome)
  | processingLoop (stateId : String) (limit : Nat)
  | store (fault : Fault)
  deriving DecidableEq, Repr

namespace TurnError

def invalidState (stateId reason : String) : String :=
  "invalid state '" ++ stateId ++ "': " ++ reason

def message : TurnError → String
  | .emptyDefinition serviceCode => "service '" ++ serviceCode ++ "' has no states"
  | .unknownState stateId => invalidState stateId "no such state in definition"
  | .noConditionHolds stateId => invalidState stateId "no transition condition holds"
  | .missingTransition stateId outcome =>
    "state '" ++ stateId ++ "' has no " ++ outcome.label ++ " transition"
  | .processingLoop stateId limit =>
    "more than " ++ toString limit ++ " processing states chained at '" ++ stateId ++ "'"
  | .store fault => fault.display

end TurnError

variable {β ε : Type}

/-! ## Calls and values -/

def retryEvents (request : Request) (index : Nat) : List FailedAttempt → List Event
  | [] => []
  | failed :: rest =>
    .requestSent request.method request.url ::
      .callRetried request.url failed.response.status (index + 1) failed.wait ::
      retryEvents request (index + 1) rest

def exchangeEvents (request : Request) (exchange : Exchange β) : List Event :=
  retryEvents request 0 exchange.failed
    ++ [.requestSent request.method request.url,
      .callCompleted request exchange.response exchange.attempts]

def callBackend [Backend β] (setting : Setting) (config : Option ApiConfig) (call : ApiCall)
    (data : Json) : Run β ε Response := do
  noteAll ((Request.unknownFilters config call data).map .unknownFilter)
  noteAll ((Request.credentialGap? config call data).toList.map .credentialsMissing)
  noteAll ((Request.unknownBodyFilters config call data).map .unknownFilter)
  let result := invoke setting.timing config call data (← get).backend
  match result with
  | .unsent fault => note (.requestNotBuilt call.endpoint fault)
  | .sent request exchange =>
    modify fun gateway => { gateway with backend := exchange.backend }
    noteAll (exchangeEvents request exchange)
  return result.response

/-- The value to keep: the rendered template, else the session's entry of the given name. -/
def recordValue (target : RecordAccess) (data : Json) : Run β ε Json :=
  match target.value with
  | some template => fillValue template data
  | none => return ((target.storeAs.bind data.field?).getD .null)

/-! ## Evaluators -/

/-- How the texts of a service are evaluated against the data of a session. -/
class Evaluator (β : Type) where
  message : String → Json → Run β TurnError String
  key : String → Json → Run β TurnError String
  value : RecordAccess → Json → Run β TurnError Json
  condition : String → Json → Run β TurnError Bool
  call : Setting → Option ApiConfig → ApiCall → Json → Run β TurnError Response

namespace Evaluator

instance plain [Backend β] : Evaluator β where
  message := showMessage
  key := fillTemplate
  value := recordValue
  condition := testCondition
  call := callBackend

theorem value_plain [Backend β] : value (β := β) = recordValue := rfl

theorem condition_plain [Backend β] : condition (β := β) = testCondition := rfl

end Evaluator

end Ussd
