import Ussd.Proofs.Scope
import Ussd.Service.Check

/-! # What a turn can fail with

Actions fail only with faults of the session store. All other failures of a turn come from the
definition: from a target that is the id of no state, from an input state without a transition for
accepted inputs, from a processing state that says nothing about what has happened, or from too many
processing states in a row. The first two can be seen in the definition, and a definition that is
checked for them cannot fail with them, whichever sessions its turns have led to. -/

namespace Ussd

variable {β : Type} [Backend β]

/-! ## Failures of actions -/

section Actions

variable {expected : TurnError → Prop} {setting : Setting} {turn : Turn}

theorem failsOnly_firstHolding? (data : Json) (transitions : List Transition) :
    (firstHolding? data transitions : Run β TurnError _).FailsOnly expected := by
  induction transitions with
  | nil => exact .pure _
  | cons transition rest induction =>
      unfold firstHolding?
      split
      · exact induction
      · refine ((Run.FailsOnly.noteAll _).bind fun _ => .pure _).bind fun holds => ?_
        cases holds with
        | true => exact .pure _
        | false => exact induction

theorem failsOnly_callBackend (config : Option ApiConfig) (call : ApiCall) (data : Json) :
    (callBackend setting config call data : Run β TurnError _).FailsOnly expected := by
  refine (Run.FailsOnly.noteAll _).bind fun _ => (Run.FailsOnly.noteAll _).bind fun _ =>
    (Run.FailsOnly.noteAll _).bind fun _ => Run.FailsOnly.get.bind fun gateway => ?_
  dsimp only
  split
  · exact (Run.FailsOnly.note _).bind fun _ => .pure _
  · exact (Run.FailsOnly.modify _).bind fun _ => (Run.FailsOnly.noteAll _).bind fun _ => .pure _

omit [Backend β] in
theorem failsOnly_recordValue (target : RecordAccess) (data : Json) :
    (recordValue target data : Run β TurnError Json).FailsOnly expected := by
  unfold recordValue
  split
  · exact (Run.FailsOnly.noteAll _).bind fun _ => .pure _
  · exact .pure _

variable (stores : ∀ fault, expected (.store fault))

include stores

theorem failsOnly_runCall (call : ApiCall) :
    (runCall setting turn call : Run β _ _).FailsOnly expected := by
  unfold runCall
  refine (Run.FailsOnly.inTurn stores _).bind fun data => ?_
  refine (failsOnly_callBackend _ _ _).bind fun response => ?_
  split
  · split
    · exact .pure _
    · exact (Run.FailsOnly.noteAll _).bind fun _ =>
        (Run.FailsOnly.inTurn stores _).bind fun _ => .pure _
  · exact (Run.FailsOnly.note _).bind fun _ =>
      (Run.FailsOnly.inTurn stores _).bind fun _ => .pure _

theorem failsOnly_accessRecord (operation : RecordOperation) (target : RecordAccess) (data : Json)
    (key : RecordKey) :
    (accessRecord setting turn operation target data key : Run β _ _).FailsOnly expected := by
  cases operation with
  | load =>
      refine (Run.FailsOnly.attemptRun _).bind fun found => ?_
      cases found with
      | error fault => exact .pure _
      | ok value => exact (Run.FailsOnly.inTurn stores _).bind fun _ => .pure _
  | save => exact (failsOnly_recordValue _ _).bind fun _ => .attemptRun _
  | append => exact (failsOnly_recordValue _ _).bind fun _ => .attemptRun _
  | delete => exact .attemptRun _

theorem failsOnly_runAccess (operation : RecordOperation) (target : RecordAccess) :
    (runAccess setting turn operation target : Run β _ _).FailsOnly expected := by
  unfold runAccess
  refine (Run.FailsOnly.inTurn stores _).bind fun data => ?_
  refine ((Run.FailsOnly.noteAll _).bind fun _ => .pure _).bind fun name => ?_
  split
  · exact .pure _
  · refine (failsOnly_accessRecord stores _ _ _ _).bind fun result => ?_
    cases result with
    | ok _ => exact .pure _
    | error fault => exact (Run.FailsOnly.note _).bind fun _ => .pure _

theorem failsOnly_performAction (action : Action) :
    (performAction setting turn action : Run β _ _).FailsOnly expected := by
  cases action with
  | call request => exact failsOnly_runCall stores request
  | access operation target => exact failsOnly_runAccess stores operation target
  | nothing => exact .pure _

theorem failsOnly_runAction (action : Action) :
    (runAction setting turn action : Run β _ _).FailsOnly expected := by
  rw [runAction_eq]
  exact (Run.FailsOnly.note _).bind fun _ => failsOnly_performAction stores action

theorem failsOnly_runActions (actions : List Action) :
    (runActions setting turn actions : Run β _ _).FailsOnly expected := by
  induction actions with
  | nil => exact .pure _
  | cons action rest induction =>
      unfold runActions
      refine (failsOnly_runAction stores action).bind fun outcome => ?_
      cases outcome with
      | succeeded => exact induction
      | failed reason => exact (Run.FailsOnly.note _).bind fun _ => induction

theorem failsOnly_showScreen (template : String) :
    (showScreen setting turn template : Run β _ _).FailsOnly expected :=
  (Run.FailsOnly.inTurn stores _).bind fun _ => (Run.FailsOnly.noteAll _).bind fun _ => .pure _

theorem failsOnly_finish (state : State) :
    (finish setting turn state : Run β _ _).FailsOnly expected := by
  unfold finish
  split
  · rw [pure_bind]
    exact (failsOnly_showScreen stores _).bind fun _ => .pure _
  · refine (failsOnly_runAction stores _).bind fun outcome => ?_
    cases outcome with
    | succeeded => exact (failsOnly_showScreen stores _).bind fun _ => .pure _
    | failed reason => exact (Run.FailsOnly.note _).bind fun _ => .pure _

end Actions

/-! ## Failures of turns -/

/-- What a turn that begins at a state of the definition may fail with. -/
inductive Definition.MayFail (definition : Definition) : TurnError → Prop
  | store (fault : Fault) : MayFail definition (.store fault)
  | looped (stateId : String) (limit : Nat) : MayFail definition (.processingLoop stateId limit)
  | undecided (stateId : String) : MayFail definition (.noConditionHolds stateId)
  | unanswered (stateId : String) : MayFail definition (.missingTransition stateId .success)
  | dangling {state : State} {target : String} (isKnown : state ∈ definition.states)
      (isTarget : target ∈ state.targets) (unknown : definition.state? target = none) :
      MayFail definition (.unknownState target)
  | unaccepted {state : State} (isKnown : state ∈ definition.states)
      (isInput : state.type = .input) (missing : state.transitionFor? .valid = none) :
      MayFail definition (.missingTransition state.id .valid)

section Turns

variable {setting : Setting} {turn : Turn} {pass : State → Run β TurnError Screen}
  (passing : ∀ state ∈ turn.definition.states, (pass state).FailsOnly turn.definition.MayFail)
  {state : State} (isKnown : state ∈ turn.definition.states)

include isKnown

section Steps

include passing

theorem failsOnly_goTo {target : String} (isTarget : target ∈ state.targets)
    (message : Option String) :
    (goTo setting turn pass target message).FailsOnly turn.definition.MayFail := by
  unfold goTo requireState
  cases resolved : turn.definition.state? target with
  | none =>
      intro _ _ _ fails
      cases fails
      exact .dangling isKnown isTarget resolved
  | some next =>
      rw [pure_bind]
      refine (Run.FailsOnly.inTurn .store _).bind fun _ => (Run.FailsOnly.note _).bind fun _ => ?_
      split
      · exact passing next (List.mem_of_find?_eq_some resolved)
      · exact failsOnly_finish .store next
      · exact (failsOnly_showScreen .store _).bind fun _ => .pure _

theorem failsOnly_followExpression {otherwise : TurnError}
    (isExpected : turn.definition.MayFail otherwise) :
    (followExpression setting turn pass state otherwise).FailsOnly turn.definition.MayFail := by
  unfold followExpression
  refine (Run.FailsOnly.inTurn .store _).bind fun data => ?_
  have isOwn (gateway : Gateway β) (found : Option Transition) (final : Gateway β)
      (finds : (firstHolding? data state.transitions : Run β TurnError _).on gateway =
        (.ok found, final)) : ∀ transition ∈ found, transition ∈ state.transitions := by
    rintro transition rfl
    exact mem_of_firstHolding? finds
  refine (failsOnly_firstHolding? _ _).bindWhere isOwn fun found member => ?_
  cases found with
  | some transition =>
      exact failsOnly_goTo passing isKnown (State.nextState_mem_targets (member transition rfl)) _
  | none => exact .throw isExpected

theorem failsOnly_process :
    (process setting turn pass state).FailsOnly turn.definition.MayFail := by
  unfold process
  split
  · exact failsOnly_followExpression passing isKnown (.undecided _)
  · rename_i action effective
    refine (failsOnly_runAction .store action).bind fun outcome => ?_
    split
    · rename_i target leads
      exact failsOnly_goTo passing isKnown (outcomeTarget?_mem_targets effective leads) _
    · exact failsOnly_followExpression passing isKnown (.unanswered _)
    · exact (Run.FailsOnly.note _).bind fun _ => .pure _

end Steps

theorem failsOnly_passState (remaining : Nat) :
    (passState setting turn remaining state : Run β _ _).FailsOnly turn.definition.MayFail := by
  induction remaining generalizing state with
  | zero => exact .throw (.looped _ _)
  | succ remaining induction =>
      refine (failsOnly_runActions .store _).bind fun _ => ?_
      refine (failsOnly_process (fun _ => induction) isKnown).bind fun screen => ?_
      exact (failsOnly_runActions .store _).bind fun _ => .pure _

theorem failsOnly_follow {transition : Transition} (member : transition ∈ state.transitions) :
    (follow setting turn (passFirst setting turn) transition : Run β _ _).FailsOnly
      turn.definition.MayFail :=
  failsOnly_goTo (fun _ other => failsOnly_passState other _) isKnown
    (State.nextState_mem_targets member) _

theorem failsOnly_answerMenu (input : String) :
    (answerMenu setting turn state input : Run β _ _).FailsOnly turn.definition.MayFail := by
  unfold answerMenu
  split
  · exact (failsOnly_showScreen .store _).bind fun _ => .pure _
  · split
    · exact (Run.FailsOnly.note _).bind fun _ =>
        (failsOnly_showScreen .store _).bind fun _ => .pure _
    · rename_i transition chosen
      have follows : (follow setting turn (passFirst setting turn) transition : Run β _ _).FailsOnly
          turn.definition.MayFail := failsOnly_follow isKnown (List.mem_of_find?_eq_some chosen)
      split
      · exact (Run.FailsOnly.inTurn .store _).bind fun _ => follows
      · exact follows

theorem failsOnly_acceptInput (isInput : state.type = .input) (input : String) :
    (acceptInput setting turn state input : Run β _ _).FailsOnly turn.definition.MayFail := by
  unfold acceptInput
  cases found : state.transitionFor? .valid with
  | some transition =>
      have follows : (follow setting turn (passFirst setting turn) transition : Run β _ _).FailsOnly
          turn.definition.MayFail := failsOnly_follow isKnown (State.transitionFor?_mem found)
      cases state.storeAs with
      | some name => exact (Run.FailsOnly.inTurn .store _).bind fun _ => follows
      | none => exact follows
  | none =>
      have expected : turn.definition.MayFail (.missingTransition state.id .valid) :=
        .unaccepted isKnown isInput found
      cases state.storeAs with
      | some name => exact (Run.FailsOnly.inTurn .store _).bind fun _ => .throw expected
      | none => exact .throw expected

theorem failsOnly_answerInput (isInput : state.type = .input) (input : String) :
    (answerInput setting turn state input : Run β _ _).FailsOnly turn.definition.MayFail := by
  unfold answerInput
  split
  · rename_i chosen
    exact failsOnly_follow isKnown (List.mem_of_find?_eq_some chosen)
  · split
    · split
      · exact (failsOnly_showScreen .store _).bind fun _ => .pure _
      · exact failsOnly_acceptInput isKnown isInput input
    · refine ((Run.FailsOnly.noteAll _).bind fun _ => .pure _).bind fun verdict => ?_
      cases verdict with
      | ok _ => exact failsOnly_acceptInput isKnown isInput input
      | error refusal =>
          exact (Run.FailsOnly.note _).bind fun _ =>
            (failsOnly_showScreen .store _).bind fun _ => .pure _

theorem failsOnly_answerState (input : String) :
    (answerState setting turn state input : Run β _ _).FailsOnly turn.definition.MayFail := by
  unfold answerState
  cases type : state.type with
  | menu => exact failsOnly_answerMenu isKnown input
  | display => exact failsOnly_answerMenu isKnown input
  | input => exact failsOnly_answerInput isKnown type input
  | processing => exact failsOnly_process (fun _ other => failsOnly_passState other _) isKnown
  | final => exact failsOnly_finish .store state

end Turns

/-- From a state of the definition on, only the definition and the store can make a turn fail. -/
theorem failsOnly_answerTurn {setting : Setting} {definition : Definition} {session : Session}
    {state : State} (resolved : definition.state? session.stateId = some state) (input : String) :
    (answerTurn setting definition session input : Run β _ _).FailsOnly definition.MayFail := by
  have isKnown : state ∈ definition.states := List.mem_of_find?_eq_some resolved
  have answers : (answerState setting ⟨definition, session⟩ state input : Run β _ _).FailsOnly
      (Turn.mk definition session).definition.MayFail := failsOnly_answerState isKnown input
  unfold answerTurn requireState
  simp only [resolved, pure_bind]
  refine (Run.FailsOnly.note _).bind fun _ => (failsOnly_runActions .store _).bind fun _ => ?_
  refine answers.bind fun screen => (failsOnly_runActions .store _).bind fun _ => ?_
  exact (Run.FailsOnly.note _).bind fun _ => .pure _

theorem failsOnly_startTurn {setting : Setting} {definition : Definition} {session : Session}
    {initial : State} (isInitial : definition.initialState? = some initial) :
    (startTurn setting definition session : Run β _ _).FailsOnly definition.MayFail := by
  have isKnown := Definition.mem_of_initialState? isInitial
  have passes : (passFirst setting ⟨definition, session⟩ initial : Run β _ _).FailsOnly
      (Turn.mk definition session).definition.MayFail := failsOnly_passState isKnown _
  have chooses : (startState? definition : Run β TurnError _).FailsOnly definition.MayFail := by
    intro gateway error final fails
    rcases on_startState? (ε := TurnError) definition gateway with ⟨events, finds⟩
    rw [finds] at fails
    cases fails
  have chosen (gateway : Gateway β) (found : Option State) (final : Gateway β)
      (ran : (startState? definition : Run β TurnError _).on gateway = (.ok found, final)) :
      found = some initial := by
    rcases on_startState? (ε := TurnError) definition gateway with ⟨events, finds⟩
    rw [finds, isInitial] at ran
    cases ran
    rfl
  refine chooses.bindWhere chosen fun found isFound => ?_
  rw [isFound]
  refine (Run.FailsOnly.note _).bind fun _ => ?_
  split
  · exact passes
  · exact failsOnly_finish .store _
  · exact (failsOnly_showScreen .store _).bind fun _ => .pure _

end Ussd
