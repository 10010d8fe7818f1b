import Ussd.Proofs.Trail

/-! # Routes of turns

From its first state a turn goes to a second one, and from a processing state on to others. `Route`
lists the states that it enters. A route tells the marks that entering them leaves: what is done at
a processing state stands around what is done at all later ones. -/

namespace Ussd

/-! ## Routes -/

/-- The states that are entered, one after the other, on the way from a state to the last one. Only
a processing state is left again without an answer. -/
inductive Route (definition : Definition) : State → List State → State → Prop
  | stay (state : State) : Route definition state [] state
  | go {state next last : State} {rest : List State} (leaves : state.type ≠ .final)
      (leads : next.id ∈ state.targets) (resolves : definition.state? next.id = some next)
      (passes : next.type = .processing ∨ rest = []) (further : Route definition next rest last) :
      Route definition state (next :: rest) last

def processed (states : List State) : Nat := states.countP (·.type = .processing)

/-! ## Marks of a route -/

def startMarks (actions : List Action) : List Mark := actions.map .started

namespace State

def primary (state : State) : List Action := state.effectiveAction?.toList

/-- What is done at a state without an answer, around what is done at the states after it. -/
def arrivalMarks (state : State) (inner : List Mark) : List Mark :=
  match state.type with
  | .processing =>
    startMarks state.preActions ++ (startMarks state.primary ++ inner)
      ++ startMarks state.postActions
  | .final => startMarks state.primary
  | _ => []

theorem arrivalMarks_of_ne {state : State} (notProcessing : state.type ≠ .processing)
    (notFinal : state.type ≠ .final) (inner : List Mark) : state.arrivalMarks inner = [] := by
  unfold arrivalMarks
  split
  · exact absurd ‹_› notProcessing
  · exact absurd ‹_› notFinal
  · rfl

/-- What is done for an answer at a state besides its side actions. -/
def answerMarks (state : State) (inner : List Mark) : List Mark :=
  match state.type with
  | .processing => startMarks state.primary ++ inner
  | .final => startMarks state.primary
  | _ => inner

end State

/-- The marks of entering states one after the other. -/
def visitMarks : List State → List Mark
  | [] => []
  | state :: rest => .entered state.id :: state.arrivalMarks (visitMarks rest)

/-- The ids of the states that the marks show to be entered. -/
def enteredIds (marks : List Mark) : List String :=
  marks.filterMap fun
    | .entered stateId => some stateId
    | .started _ => none

@[simp] theorem enteredIds_nil : enteredIds [] = [] := rfl

@[simp] theorem enteredIds_entered (stateId : String) (marks : List Mark) :
    enteredIds (.entered stateId :: marks) = stateId :: enteredIds marks := rfl

@[simp] theorem enteredIds_started (action : Action) (marks : List Mark) :
    enteredIds (.started action :: marks) = enteredIds marks := rfl

@[simp] theorem enteredIds_append (first second : List Mark) :
    enteredIds (first ++ second) = enteredIds first ++ enteredIds second := List.filterMap_append

@[simp] theorem enteredIds_startMarks (actions : List Action) :
    enteredIds (startMarks actions) = [] := by
  simp [enteredIds, startMarks]

theorem enteredIds_arrivalMarks (state : State) (inner : List Mark) :
    enteredIds (state.arrivalMarks inner) =
      if state.type = .processing then enteredIds inner else [] := by
  unfold State.arrivalMarks
  cases type : state.type <;> simp

end Ussd
