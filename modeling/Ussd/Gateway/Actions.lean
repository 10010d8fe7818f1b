import Ussd.Gateway.Evaluator
import Ussd.Gateway.Records
import Ussd.Gateway.Sessions
/-!
# Actions of a turn

Calls of the backend and work on records. What fails there is an outcome that a service can react to;
only a fault of the session store ends the turn.
-/

namespace Ussd

variable {β : Type}

def inTurn {α : Type} (run : Run β Fault α) : Run β TurnError α := ExceptT.adapt TurnError.store run

/-- What all steps of a turn share. Of the session only its identity is used; its data are read from
the store whenever they are needed. -/
structure Turn where
  definition : Definition
  session : Session

inductive ActionOutcome where
  | succeeded
  | failed (reason : String)
  deriving DecidableEq, Repr

def ActionOutcome.isSuccess : ActionOutcome → Bool
  | .succeeded => true
  | .failed _ => false

def errorKey : String := "errorMessage"

/-! ## Calls of the backend -/

variable [Evaluator β]

/-- The session values that a response gives; where the response has nothing at a path, null. -/
def mappedEntries (response : Response) (mapping : Table String) : Fields :=
  mapping.map fun entry => (entry.1, (response.extract entry.2).getD .null)

/-- What is told to the subscriber about a failed call: the backend's own text, else the one that
the call provides, else the cause of the failure. -/
def failureText (setting : Setting) (call : ApiCall) (response : Response) : String :=
  (((response.errorDetail?).or (call.onError.bind CallOutcome.message)).or
    response.errorMessage).getD setting.engine.apiFailureMessage

def runCall (setting : Setting) (turn : Turn) (call : ApiCall) :
    Run β TurnError ActionOutcome := do
  let id := turn.session.id
  let data ← inTurn (sessionData setting id)
  let response ← Evaluator.call setting turn.definition.apiConfig call data
  if response.isSuccess then
    match call.onSuccess.bind CallOutcome.responseMapping with
    | none => return .succeeded
    | some mapping =>
      noteAll ((mapping.filter fun entry => (response.extract entry.2).isNone).map fun entry =>
        .pathNotFound entry.1 entry.2)
      inTurn (keepEntries setting id (mappedEntries response mapping))
      return .succeeded
  else
    let reason := failureText setting call response
    note (.callFailed id call.endpoint response.status reason)
    inTurn (keepEntry setting id errorKey (.text reason))
    return .failed reason

/-! ## Work on records -/

def accessRecord (setting : Setting) (turn : Turn) (operation : RecordOperation)
    (target : RecordAccess) (data : Json) (key : RecordKey) :
    Run β TurnError (Except Fault Unit) := do
  match operation with
  | .load =>
    match ← attemptRun (loadRecord setting key) with
    | .error fault => return .error fault
    | .ok found =>
      inTurn (keepEntry setting turn.session.id (target.storeAs.getD key.name)
        (found.getD .null))
      return .ok ()
  | .save =>
    let value ← Evaluator.value target data
    attemptRun (saveRecord setting key value)
  | .append =>
    let value ← Evaluator.value target data
    attemptRun (extendRecord setting key value)
  | .delete => attemptRun (deleteRecord setting key)

def runAccess (setting : Setting) (turn : Turn) (operation : RecordOperation)
    (target : RecordAccess) : Run β TurnError ActionOutcome := do
  let data ← inTurn (sessionData setting turn.session.id)
  let name ← Evaluator.key (trimmed target.storageKey) data
  if name.isEmpty then return .failed "storage key is empty"
  let key : RecordKey :=
    { phoneNumber := turn.session.phoneNumber, serviceCode := turn.session.serviceCode,
      name := name }
  match ← accessRecord setting turn operation target data key with
  | .ok () => return .succeeded
  | .error fault =>
    note (.recordActionFailed turn.session.id name operation fault.display)
    return .failed fault.message

/-! ## Actions -/

def runAction (setting : Setting) (turn : Turn) (action : Action) :
    Run β TurnError ActionOutcome := do
  note (.actionStarted turn.session.id action)
  match action with
  | .call request => runCall setting turn request
  | .access operation target => runAccess setting turn operation target
  | .nothing => return .succeeded

/-- Runs actions in order; one that fails does not stop the others. -/
def runActions (setting : Setting) (turn : Turn) : List Action → Run β TurnError Unit
  | [] => return
  | action :: rest => do
    match ← runAction setting turn action with
    | .succeeded => pure ()
    | .failed reason => note (.sideActionFailed turn.session.id action reason)
    runActions setting turn rest

end Ussd
