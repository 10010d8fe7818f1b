import Ussd.Service.Action
import Ussd.Text.Blank
import Ussd.Text.Case
import Ussd.Text.Pieces
import Ussd.Validation.Rule
/-!
# States and transitions

A service is a graph of states, each of which is a screen or a step between screens. A transition
leads to another state for an input of the subscriber or on a condition.
-/

namespace Ussd

inductive StateType where
  | menu
  | input
  | display
  | processing
  | final
  deriving DecidableEq, Repr, Inhabited

namespace StateType

def label : StateType → String
  | .menu => "MENU"
  | .input => "INPUT"
  | .display => "DISPLAY"
  | .processing => "PROCESSING"
  | .final => "FINAL"

def all : List StateType := [.menu, .input, .display, .processing, .final]

/-- The words by which a type is recognised in a longer name, in the order in which the types are
tried. -/
def keywords : List (StateType × List String) :=
  [(.menu, ["MENU", "CHOICE", "OPTION"]), (.input, ["INPUT", "ENTRY", "FORM"]),
    (.processing, ["PROCESS", "ACTION", "EXECUTE"]), (.final, ["FINAL", "END", "EXIT"]),
    (.display, ["DISPLAY", "SHOW", "VIEW"])]

def recognise? (raw : String) : Option StateType :=
  let upper := Text.upper (Text.trim raw.toList)
  match all.find? (·.label.toList == upper) with
  | some type => some type
  | none =>
    (keywords.find? fun entry => entry.2.any fun word =>
      Text.containsFragment word.toList upper).map Prod.fst

/-- The type that a name stands for; a name that says nothing stands for a display. -/
def ofName (raw : String) : StateType := (recognise? raw).getD .display

def decode : Decoder StateType := fun node => (Decoder.text node).map ofName

def isInteractive : StateType → Bool
  | .menu => true
  | .input => true
  | .display => true
  | _ => false

end StateType

inductive Outcome where
  | success
  | error
  | valid
  | invalid
  deriving DecidableEq, Repr, Inhabited

namespace Outcome

def label : Outcome → String
  | .success => "SUCCESS"
  | .error => "ERROR"
  | .valid => "VALID"
  | .invalid => "INVALID"

def all : List Outcome := [.success, .error, .valid, .invalid]

end Outcome

inductive Guard where
  | on (outcome : Outcome)
  | expression (text : String)
  deriving DecidableEq, Repr, Inhabited

namespace Guard

def ofText (raw : String) : Guard :=
  match Outcome.all.find? (·.label == trimmed raw) with
  | some outcome => .on outcome
  | none => .expression raw

def toText : Guard → String
  | .on outcome => outcome.label
  | .expression text => text

def expression? : Guard → Option String
  | .on _ => none
  | .expression text => some text

def decode : Decoder Guard := fun node => (Decoder.text node).map ofText

end Guard

structure Transition where
  input : Option String
  condition : Option Guard
  nextState : String
  /-- Kept under the key of the state when the transition is taken. -/
  value : Option Json
  message : Option String
  deriving Inhabited

namespace Transition

def fieldNames : List String := ["input", "condition", "nextState", "value", "message"]

def decode : Decoder Transition := fun node => do
  let record ← Record.ofNode fieldNames node
  return {
    input := ← record.voluntary "input" Decoder.text
    condition := ← record.voluntary "condition" Guard.decode
    nextState := ← record.required "nextState" Decoder.text
    value := ← record.voluntary "value" Decoder.json
    message := ← record.voluntary "message" Decoder.text }

def toJson (transition : Transition) : Json :=
  .ofFields ([("nextState", .text transition.nextState)]
    ++ fieldIfSome "input" (transition.input.map Json.text)
    ++ fieldIfSome "condition" (transition.condition.map fun guard => .text guard.toText)
    ++ fieldIfSome "value" transition.value
    ++ fieldIfSome "message" (transition.message.map Json.text))

def isFor (transition : Transition) (outcome : Outcome) : Bool :=
  transition.condition == some (.on outcome)

end Transition

structure State where
  id : String
  name : String
  type : StateType
  isInitial : Bool
  message : String
  validation : Option ValidationRule
  storeAs : Option String
  action : Option Action
  transitions : List Transition
  preActions : List Action
  postActions : List Action
  deriving Inhabited

namespace State

def fieldNames : List String :=
  ["id", "name", "type", "isInitial", "message", "validation", "storeAs", "action", "transitions",
    "preActions", "postActions"]

def decode : Decoder State := fun node => do
  let record ← Record.ofNode fieldNames node
  return {
    id := ← record.required "id" Decoder.text
    name := ← record.defaulted "name" "" Decoder.text
    type := ← record.required "type" StateType.decode
    isInitial := ← record.defaulted "isInitial" false Decoder.bool
    message := ← record.defaulted "message" "" Decoder.text
    validation := ← record.voluntary "validation" ValidationRule.decode
    storeAs := ← record.voluntary "storeAs" Decoder.text
    action := ← record.voluntary "action" Action.decode
    transitions := ← record.defaulted "transitions" [] (Decoder.list Transition.decode)
    preActions := ← record.defaulted "preActions" [] (Decoder.list Action.decode)
    postActions := ← record.defaulted "postActions" [] (Decoder.list Action.decode) }

def toJson (state : State) : Json :=
  .ofFields ([("id", .text state.id), ("name", .text state.name),
      ("type", .text state.type.label), ("isInitial", .bool state.isInitial),
      ("message", .text state.message),
      ("transitions", .list (state.transitions.map Transition.toJson)),
      ("preActions", .list (state.preActions.map Action.toJson)),
      ("postActions", .list (state.postActions.map Action.toJson))]
    ++ fieldIfSome "validation" (state.validation.map ValidationRule.toJson)
    ++ fieldIfSome "storeAs" (state.storeAs.map Json.text)
    ++ fieldIfSome "action" (state.action.map Action.toJson))

def transitionFor? (state : State) (outcome : Outcome) : Option Transition :=
  state.transitions.find? (·.isFor outcome)

def effectiveAction? (state : State) : Option Action :=
  state.action.filter fun action => !action.isNothing

/-- The states that a state may lead to: those of its transitions, then those of its call. -/
def targets (state : State) : List String :=
  let ofCall := match state.action with
    | some (.call request) => [request.onSuccess, request.onError].filterMap fun outcome =>
        outcome.bind CallOutcome.nextState
    | _ => []
  state.transitions.map Transition.nextState ++ ofCall

end State

end Ussd
