import Ussd.Gateway.Actions
import Ussd.Gateway.Services
import Ussd.Service.Choice
/-!
# Turns

One turn takes an input of the subscriber from the state of the session to the next screen. The new
state is stored before its screen is made. A processing state shows no screen and is passed at once,
so one turn may pass several of them, up to a limit.
-/

namespace Ussd

structure Screen where
  message : String
  continues : Bool
  stateId : String
  deriving DecidableEq, Repr

namespace Screen

def stay (message stateId : String) : Screen :=
  { message := message, continues := true, stateId := stateId }

def leave (message stateId : String) : Screen :=
  { message := message, continues := false, stateId := stateId }

end Screen

variable {β : Type} [Evaluator β]

def showScreen (setting : Setting) (turn : Turn) (template : String) : Run β TurnError String := do
  Evaluator.message template (← inTurn (sessionData setting turn.session.id))

def showHint (setting : Setting) (turn : Turn) (state : State) (hint : String) :
    Run β TurnError Screen := do
  let message ← showScreen setting turn state.message
  return .stay (message ++ "\n\n" ++ hint) state.id

def showAgain (setting : Setting) (turn : Turn) (state : State) : Run β TurnError Screen := do
  return .stay (← showScreen setting turn state.message) state.id

def finish (setting : Setting) (turn : Turn) (state : State) : Run β TurnError Screen := do
  let outcome ← match state.effectiveAction? with
    | none => pure .succeeded
    | some action => runAction setting turn action
  match outcome with
  | .succeeded => return .leave (← showScreen setting turn state.message) state.id
  | .failed reason =>
    note (.finalActionFailed turn.session.id state.id reason)
    return .leave setting.engine.apiFailureMessage state.id

def requireState (turn : Turn) (id : String) : Run β TurnError State :=
  match turn.definition.state? id with
  | some state => return state
  | none => throw (.unknownState id)

/-! ## Going to a state

What happens in a processing state is a parameter here, `pass`, because only the chain below knows how
many more of them may be passed. -/

/-- Moves the session to a state and makes its screen; a message may replace that of the state. -/
def goTo (setting : Setting) (turn : Turn) (pass : State → Run β TurnError Screen)
    (target : String) (message : Option String) : Run β TurnError Screen := do
  let state ← requireState turn target
  let _ ← inTurn (moveSession setting turn.session.id state.id)
  note (.stateEntered turn.session.id state.id)
  match state.type with
  | .processing => pass state
  | .final => finish setting turn state
  | _ => return .stay (← showScreen setting turn (message.getD state.message)) state.id

def follow (setting : Setting) (turn : Turn) (pass : State → Run β TurnError Screen)
    (transition : Transition) : Run β TurnError Screen :=
  goTo setting turn pass transition.nextState transition.message

/-! ## Processing states -/

def firstHolding? (data : Json) : List Transition → Run β TurnError (Option Transition)
  | [] => return none
  | transition :: rest => do
    match transition.condition.bind Guard.expression? with
    | none => firstHolding? data rest
    | some expression =>
      if ← Evaluator.condition expression data then return some transition
      else firstHolding? data rest

def followExpression (setting : Setting) (turn : Turn) (pass : State → Run β TurnError Screen)
    (state : State) (otherwise : TurnError) : Run β TurnError Screen := do
  let data ← inTurn (sessionData setting turn.session.id)
  match ← firstHolding? data state.transitions with
  | some transition => follow setting turn pass transition
  | none => throw otherwise

/-- The state that an action's outcome leads to: the one that a call names, or else that of the
transition for the outcome. -/
def outcomeTarget? (state : State) (action : Action) (succeeded : Bool) : Option String :=
  let named := match action with
    | .call request =>
      (if succeeded then request.onSuccess else request.onError).bind CallOutcome.nextState
    | _ => none
  named.or ((state.transitionFor? (if succeeded then .success else .error)).map
    Transition.nextState)

/-- What happens in a processing state between its other actions. Without an action, expressions
decide. -/
def process (setting : Setting) (turn : Turn) (pass : State → Run β TurnError Screen)
    (state : State) : Run β TurnError Screen := do
  match state.effectiveAction? with
  | none => followExpression setting turn pass state (.noConditionHolds state.id)
  | some action =>
    let outcome ← runAction setting turn action
    match outcomeTarget? state action outcome.isSuccess, outcome with
    | some target, _ => goTo setting turn pass target none
    | none, .succeeded =>
      followExpression setting turn pass state (.missingTransition state.id .success)
    | none, .failed reason =>
      note (.noErrorRoute turn.session.id state.id reason)
      return .leave setting.engine.apiFailureMessage state.id

/-- Passes a processing state that was reached without an input, if `remaining` allows one more. -/
def passState (setting : Setting) (turn : Turn) : Nat → State → Run β TurnError Screen
  | 0, state => throw (.processingLoop state.id setting.engine.maxProcessingChain)
  | remaining + 1, state => do
    runActions setting turn state.preActions
    let screen ← process setting turn (passState setting turn remaining) state
    runActions setting turn state.postActions
    return screen

/-! ## States that wait for an input -/

def passFirst (setting : Setting) (turn : Turn) : State → Run β TurnError Screen :=
  passState setting turn setting.engine.maxProcessingChain

def answerMenu (setting : Setting) (turn : Turn) (state : State) (input : String) :
    Run β TurnError Screen := do
  if isAllBlank input then showAgain setting turn state
  else
    match choose? state.transitions input with
    | none =>
      note (.optionUnknown turn.session.id state.id)
      showHint setting turn state setting.engine.invalidOptionMessage
    | some transition =>
      match transition.value, state.storeAs with
      | some value, some name => inTurn (keepEntry setting turn.session.id name value)
      | _, _ => pure ()
      follow setting turn (passFirst setting turn) transition

def acceptInput (setting : Setting) (turn : Turn) (state : State) (input : String) :
    Run β TurnError Screen := do
  match state.storeAs with
  | some name => inTurn (keepEntry setting turn.session.id name (.text (trimmed input)))
  | none => pure ()
  match state.transitionFor? .valid with
  | some transition => follow setting turn (passFirst setting turn) transition
  | none => throw (.missingTransition state.id .valid)

def refusalHint (setting : Setting) (state : State) : String :=
  ((state.transitionFor? .invalid).bind Transition.message).getD
    setting.engine.invalidInputMessage

def answerInput (setting : Setting) (turn : Turn) (state : State) (input : String) :
    Run β TurnError Screen := do
  match choose? state.transitions input with
  | some transition => follow setting turn (passFirst setting turn) transition
  | none =>
    match state.validation with
    | none =>
      if isAllBlank input then showAgain setting turn state
      else acceptInput setting turn state input
    | some rule =>
      match ← checkInput input rule with
      | .ok () => acceptInput setting turn state input
      | .error refusal =>
        note (.inputRejected turn.session.id state.id refusal.message)
        showHint setting turn state (refusalHint setting state)

/-! ## Turns -/

def startTurn (setting : Setting) (definition : Definition) (session : Session) :
    Run β TurnError Screen := do
  let turn : Turn := { definition := definition, session := session }
  match ← startState? definition with
  | none => throw (.emptyDefinition definition.serviceCode)
  | some state =>
    note (.serviceEntered session.id definition.serviceCode state.id)
    match state.type with
    | .processing => passFirst setting turn state
    | .final => finish setting turn state
    | _ => showAgain setting turn state

/-- The part of a turn between the other actions of its state. A processing state where a session
waits is entered whatever the limit is. -/
def answerState (setting : Setting) (turn : Turn) (state : State) (input : String) :
    Run β TurnError Screen :=
  match state.type with
  | .menu => answerMenu setting turn state input
  | .display => answerMenu setting turn state input
  | .input => answerInput setting turn state input
  | .processing =>
    process setting turn (passState setting turn (setting.engine.maxProcessingChain - 1)) state
  | .final => finish setting turn state

def answerTurn (setting : Setting) (definition : Definition) (session : Session)
    (input : String) : Run β TurnError Screen := do
  let turn : Turn := { definition := definition, session := session }
  let state ← requireState turn session.stateId
  note (.turnStarted session.id state.id state.type)
  runActions setting turn state.preActions
  let screen ← answerState setting turn state input
  runActions setting turn state.postActions
  note (.turnCompleted session.id state.id screen.stateId screen.continues)
  return screen

end Ussd
