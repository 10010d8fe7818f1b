import Ussd.Gateway.Turn
/-!
# Requests of carriers

A carrier passes on what a subscriber dials or enters and shows the answer. A request belongs to the
session that it names, or else to the subscriber's live session. Where there is no live session, the
dialled code decides: the main menu, or a service. Every failure becomes one screen that tells
nothing about its cause, and ends the session.
-/

namespace Ussd

structure CarrierRequest where
  sessionId : Option String
  phoneNumber : String
  dialled : String
  text : String
  deriving DecidableEq, Repr, Inhabited

structure CarrierAnswer where
  message : String
  continues : Bool
  deriving DecidableEq, Repr, Inhabited

namespace CarrierAnswer

def proceed (message : String) : CarrierAnswer := { message := message, continues := true }

def conclude (message : String) : CarrierAnswer := { message := message, continues := false }

end CarrierAnswer

variable {β : Type} [Evaluator β]

def sessionIdFor (setting : Setting) (request : CarrierRequest) : Run β Fault String := do
  let named := (request.sessionId.map trimmed).filter fun id => !id.isEmpty
  match named with
  | some id => return id
  | none =>
    match ← liveSessionOf? setting request.phoneNumber with
    | some session => return session.id
    | none => return setting.freshId

/-- Ends the session if its last screen has been made. -/
def conclude (setting : Setting) (sessionId : String) (screen : Screen) :
    Run β TurnError CarrierAnswer := do
  if !screen.continues then inTurn (endSession setting sessionId)
  return { message := screen.message, continues := screen.continues }

def continueSession (setting : Setting) (current : Session) (text : String) :
    Run β TurnError CarrierAnswer := do
  let definition ← inTurn (loadDefinition setting current.serviceCode)
  let session ← inTurn (touchSession setting current.id
    definition.sessionLimits.effectiveTimeout?)
  let screen ← answerTurn setting definition session text
  conclude setting session.id screen

def startService (setting : Setting) (sessionId phoneNumber : String) (record : ServiceRecord) :
    Run β TurnError CarrierAnswer := do
  let definition ← inTurn (loadDefinition setting record.code)
  match ← startState? definition with
  | none => throw (.emptyDefinition record.code)
  | some initial =>
    let session ← inTurn (openSession setting sessionId phoneNumber record.code initial.id
      definition.sessionLimits.effectiveTimeout?)
    let screen ← startTurn setting definition session
    conclude setting sessionId screen

/-! ## The main menu -/

inductive MenuDial where
  | plain
  /-- The code with a choice before its hash, as in `*500*2#`. -/
  | inline (choice : String)
  deriving DecidableEq, Repr

def menuDial? (menuCode dialled : String) : Option MenuDial :=
  if dialled = menuCode then some .plain
  else do
    let stem ← Text.beforeEnd? ['#'] menuCode.toList
    let rest ← Text.afterStart? stem dialled.toList
    let rest ← Text.afterStart? ['*'] rest
    let choice ← Text.beforeEnd? ['#'] rest
    return .inline (String.ofList (Text.trim choice))

def menuLines (number : Nat) : List ServiceRecord → String
  | [] => ""
  | record :: rest => toString number ++ ". " ++ record.name ++ "\n" ++ menuLines (number + 1) rest

def menuText (setting : Setting) (services : List ServiceRecord) : String :=
  setting.engine.mainMenuTitle ++ "\nChoisissez un service:\n\n" ++ menuLines 1 services
    ++ "0. Quitter"

def chosenService? (services : List ServiceRecord) (choice : String) : Option ServiceRecord :=
  (Text.unsigned? choice.toList).bind fun number =>
    if number = 0 then none else services[number - 1]?

def openMenu (setting : Setting) (sessionId phoneNumber choice : String) :
    Run β TurnError CarrierAnswer := do
  let services ← inTurn (activeServices setting)
  if choice.isEmpty then return .proceed (menuText setting services)
  else if choice = "0" then return .conclude setting.engine.goodbyeMessage
  else
    match chosenService? services choice with
    | some record =>
      note (.menuSelection sessionId record.code)
      startService setting sessionId phoneNumber record
    | none =>
      return .proceed
        (menuText setting services ++ "\n\n" ++ setting.engine.invalidOptionMessage)

/-! ## Requests -/

/-- The answer to a request that dials a code without a live session. -/
def dial (setting : Setting) (sessionId : String) (request : CarrierRequest) :
    Run β TurnError CarrierAnswer := do
  let dialled := trimmed request.dialled
  match menuDial? setting.engine.mainMenuCode dialled with
  | some .plain => openMenu setting sessionId request.phoneNumber (trimmed request.text)
  | some (.inline choice) => openMenu setting sessionId request.phoneNumber choice
  | none =>
    match ← inTurn (serviceByShortCode? setting dialled) with
    | some record => startService setting sessionId request.phoneNumber record
    | none =>
      note (.unknownShortCode dialled)
      return .conclude setting.engine.unknownApplicationMessage

def dispatch (setting : Setting) (sessionId : String) (request : CarrierRequest) :
    Run β TurnError CarrierAnswer := do
  match ← inTurn (liveSession? setting sessionId) with
  | some current => continueSession setting current request.text
  | none => dial setting sessionId request

def endFailed (setting : Setting) (sessionId : String) : Run β Empty Unit := do
  match ← attemptRun (endSession setting sessionId) with
  | .ok () => pure ()
  | .error fault => note (.endFailed sessionId fault.display)

def handleRun (setting : Setting) (request : CarrierRequest) : Run β Empty CarrierAnswer := do
  let failed := CarrierAnswer.conclude setting.engine.technicalErrorMessage
  match ← attemptRun (sessionIdFor setting request) with
  | .error fault =>
    note (.sessionUnresolved request.phoneNumber fault.display)
    return failed
  | .ok sessionId =>
    match ← attemptRun (dispatch setting sessionId request) with
    | .ok answer => return answer
    | .error error =>
      note (.turnFailed sessionId error.message)
      endFailed setting sessionId
      return failed

def handle (setting : Setting) (request : CarrierRequest) (gateway : Gateway β) :
    CarrierAnswer × Gateway β :=
  match (handleRun setting request).run gateway with
  | (.ok answer, gateway) => (answer, gateway)

end Ussd
