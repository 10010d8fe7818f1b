import Ussd.Proofs.RequestScope

/-! # The data that a turn evaluates

The data of a session are read from the store whenever something is evaluated. While the stored
session has only data of some kind to show, a turn over an evaluator that is plain for data of this
kind goes like the turn over the plain one: the evaluator is never given anything else. So what goes
the same way with all evaluators that are plain for some data evaluates only such data. -/

namespace Ussd

variable {β ε α γ : Type}

namespace Run

/-- From every gateway with the property the computations do the same. -/
def SameFrom (property : Gateway β → Prop) (run other : Run β ε α) : Prop :=
  ∀ gateway, property gateway → run.on gateway = other.on gateway

namespace SameFrom

variable {property : Gateway β → Prop}

theorem refl (run : Run β ε α) : SameFrom property run run := fun _ _ => rfl

theorem bind {run other : Run β ε α} {next otherNext : α → Run β ε γ}
    (first : SameFrom property run other) (keeps : other.Keeps property)
    (second : ∀ value, SameFrom property (next value) (otherNext value)) :
    SameFrom property (run >>= next) (other >>= otherNext) := by
  intro gateway holds
  have kept := keeps gateway holds
  rw [on_bind, on_bind, first gateway holds]
  rcases ran : other.on gateway with ⟨error | value, after⟩
  · rfl
  · rw [ran] at kept
    exact second value after kept

/-- Where only the first parts differ the second one may be anything. -/
theorem andThen {run other : Run β ε α} (first : SameFrom property run other)
    (next : α → Run β ε γ) : SameFrom property (run >>= next) (other >>= next) := by
  intro gateway holds
  rw [on_bind, on_bind, first gateway holds]

/-- A common first part may tell something about its result. -/
theorem afterWhere {run : Run β ε α} {next otherNext : α → Run β ε γ} {holds : α → Prop}
    (keeps : run.Keeps property)
    (gives : ∀ gateway, property gateway → ∀ value final,
      run.on gateway = (.ok value, final) → holds value)
    (second : ∀ value, holds value → SameFrom property (next value) (otherNext value)) :
    SameFrom property (run >>= next) (run >>= otherNext) := by
  intro gateway before
  have kept := keeps gateway before
  rw [on_bind, on_bind]
  rcases ran : run.on gateway with ⟨error | value, after⟩
  · rfl
  · rw [ran] at kept
    exact second value (gives gateway before value after ran) after kept

theorem after {run : Run β ε α} {next otherNext : α → Run β ε γ} (keeps : run.Keeps property)
    (second : ∀ value, SameFrom property (next value) (otherNext value)) :
    SameFrom property (run >>= next) (run >>= otherNext) :=
  afterWhere keeps (fun _ _ _ _ _ => trivial) fun value _ => second value

/-- Whatever state is found is one of the definition's. -/
theorem requireState (turn : Turn) (target : String) {next otherNext : State → Run β TurnError α}
    (known : ∀ state ∈ turn.definition.states,
      SameFrom property (next state) (otherNext state)) :
    SameFrom property (Ussd.requireState turn target >>= next)
      (Ussd.requireState turn target >>= otherNext) := by
  unfold Ussd.requireState
  cases resolved : turn.definition.state? target with
  | none => exact fun _ _ => rfl
  | some state =>
      rw [pure_bind, pure_bind]
      exact known state (List.mem_of_find?_eq_some resolved)

end SameFrom

end Run

variable [Backend β]

namespace Evaluator

/-- The evaluator is the plain one for some data. -/
structure PlainOn (evaluator : Evaluator β) (seen : Json → Prop) : Prop where
  message : ∀ data, seen data → ∀ template,
    evaluator.message template data = showMessage template data
  key : ∀ data, seen data → ∀ template, evaluator.key template data = fillTemplate template data
  value : ∀ data, seen data → ∀ target, evaluator.value target data = recordValue target data
  condition : ∀ data, seen data → ∀ condition,
    evaluator.condition condition data = testCondition condition data
  call : ∀ data, seen data → ∀ setting config request,
    evaluator.call setting config request data = callBackend setting config request data

end Evaluator

variable {property : Gateway β → Prop} {seen : Json → Prop}
  {evaluator : Evaluator β} {setting : Setting} {turn : Turn}

/-- As long as the property holds, the session of the turn shows data of one kind, for which the
evaluator is the plain one; and the turn keeps the property. -/
structure Watched (property : Gateway β → Prop) (seen : Json → Prop) (evaluator : Evaluator β)
    (session : Session) : Prop where
  scope : TurnScope (Run.Alone property) session.id session.phoneNumber session.serviceCode
  sees : ∀ gateway, property gateway → ∀ stored,
    Table.get? gateway.sessions session.id = some stored → seen stored.visibleData
  plain : evaluator.PlainOn seen

namespace Watched

section Actions

variable (watched : Watched property seen evaluator turn.session)

include watched

theorem work : WorkScope .all (Run.Alone property) turn.session.id turn.session.phoneNumber
    turn.session.serviceCode := watched.scope.work

/-- Whatever is done with the data of the session has to be the same for data of the kind only. -/
theorem same_withData {next otherNext : Json → Run β TurnError α}
    (same : ∀ data, seen data → Run.SameFrom property (next data) (otherNext data)) :
    Run.SameFrom property (inTurn (sessionData setting turn.session.id) >>= next)
      (inTurn (sessionData setting turn.session.id) >>= otherNext) := by
  intro gateway holds
  rw [Run.on_bind, Run.on_bind, Run.on_inTurn, on_sessionData]
  cases setting.outage .findSession with
  | some reason => rfl
  | none =>
      cases stored : Table.get? gateway.sessions turn.session.id with
      | none => rfl
      | some session =>
          exact same session.visibleData (watched.sees gateway holds session stored) gateway holds

theorem same_runCall (call : ApiCall) :
    Run.SameFrom property (@runCall β evaluator setting turn call)
      (@runCall β .plain setting turn call) := by
  apply watched.same_withData
  intro data isSeen
  rw [watched.plain.call data isSeen]
  exact .refl _

theorem accessRecord_eq (operation : RecordOperation) (target : RecordAccess) {data : Json}
    (isSeen : seen data) (key : RecordKey) :
    @accessRecord β evaluator setting turn operation target data key =
      @accessRecord β .plain setting turn operation target data key := by
  cases operation with
  | load => rfl
  | save => simp only [accessRecord, watched.plain.value data isSeen, Evaluator.value_plain]
  | append => simp only [accessRecord, watched.plain.value data isSeen, Evaluator.value_plain]
  | delete => rfl

theorem same_runAccess (operation : RecordOperation) (target : RecordAccess) :
    Run.SameFrom property (@runAccess β evaluator setting turn operation target)
      (@runAccess β .plain setting turn operation target) := by
  apply watched.same_withData
  intro data isSeen
  simp only [watched.plain.key data isSeen, watched.accessRecord_eq operation target isSeen]
  exact .refl _

theorem same_runAction (action : Action) :
    Run.SameFrom property (@runAction β evaluator setting turn action)
      (@runAction β .plain setting turn action) := by
  apply Run.SameFrom.after (watched.scope.respects_note _).keeps
  intro _
  cases action with
  | call request => exact watched.same_runCall request
  | access operation target => exact watched.same_runAccess operation target
  | nothing => exact .refl _

theorem same_runActions (actions : List Action) :
    Run.SameFrom property (@runActions β evaluator setting turn actions)
      (@runActions β .plain setting turn actions) := by
  induction actions with
  | nil => exact .refl _
  | cons action rest induction =>
      apply (watched.same_runAction action).bind (watched.scope.respects_runAction action).keeps
      intro outcome
      cases outcome with
      | succeeded => exact induction
      | failed reason =>
          exact .after (watched.scope.respects_note _).keeps fun _ => induction

theorem same_showScreen (template : String) :
    Run.SameFrom property (@showScreen β evaluator setting turn template)
      (@showScreen β .plain setting turn template) := by
  apply watched.same_withData
  intro data isSeen
  rw [watched.plain.message data isSeen]
  exact .refl _

theorem same_showHint (state : State) (hint : String) :
    Run.SameFrom property (@showHint β evaluator setting turn state hint)
      (@showHint β .plain setting turn state hint) :=
  (watched.same_showScreen state.message).andThen _

theorem same_showAgain (state : State) :
    Run.SameFrom property (@showAgain β evaluator setting turn state)
      (@showAgain β .plain setting turn state) :=
  (watched.same_showScreen state.message).andThen _

theorem same_finish (state : State) :
    Run.SameFrom property (@finish β evaluator setting turn state)
      (@finish β .plain setting turn state) := by
  unfold finish
  cases state.effectiveAction? with
  | none =>
      simp only [pure_bind]
      exact (watched.same_showScreen state.message).andThen _
  | some action =>
      apply (watched.same_runAction action).bind (watched.scope.respects_runAction action).keeps
      intro outcome
      cases outcome with
      | succeeded => exact (watched.same_showScreen state.message).andThen _
      | failed reason => exact .refl _

/-! ## Going to a state -/

theorem firstHolding?_eq {data : Json} (isSeen : seen data) (transitions : List Transition) :
    @firstHolding? β evaluator data transitions = @firstHolding? β .plain data transitions := by
  induction transitions with
  | nil => rfl
  | cons transition rest induction =>
      unfold firstHolding?
      simp only [watched.plain.condition data isSeen, Evaluator.condition_plain, induction]

variable {pass otherPass : State → Run β TurnError Screen}
  (passes : ∀ state ∈ turn.definition.states,
    Run.SameFrom property (pass state) (otherPass state))

include passes

theorem same_goTo (target : String) (message : Option String) :
    Run.SameFrom property (@goTo β evaluator setting turn pass target message)
      (@goTo β .plain setting turn otherPass target message) := by
  have moves (state : State) :
      (inTurn (moveSession setting turn.session.id state.id) : Run β TurnError Session).Keeps
        property :=
    (watched.work.respects_changeSession fun left right holds stored found =>
      watched.scope.moved left right holds stored found state.id setting.now).inTurn.keeps
  apply Run.SameFrom.requireState
  intro state isKnown
  apply Run.SameFrom.after (moves state)
  intro _
  apply Run.SameFrom.after (watched.scope.respects_note _).keeps
  intro _
  cases state.type with
  | processing => exact passes state isKnown
  | final => exact watched.same_finish state
  | menu => exact (watched.same_showScreen _).andThen _
  | input => exact (watched.same_showScreen _).andThen _
  | display => exact (watched.same_showScreen _).andThen _

theorem same_follow (transition : Transition) :
    Run.SameFrom property (@follow β evaluator setting turn pass transition)
      (@follow β .plain setting turn otherPass transition) :=
  watched.same_goTo passes transition.nextState transition.message

theorem same_followExpression (state : State) (otherwise : TurnError) :
    Run.SameFrom property (@followExpression β evaluator setting turn pass state otherwise)
      (@followExpression β .plain setting turn otherPass state otherwise) := by
  apply watched.same_withData
  intro data isSeen
  rw [watched.firstHolding?_eq isSeen]
  apply Run.SameFrom.after (watched.scope.respects_firstHolding? data state.transitions).keeps
  intro found
  cases found with
  | some transition => exact watched.same_follow passes transition
  | none => exact .refl _

theorem same_process (state : State) :
    Run.SameFrom property (@process β evaluator setting turn pass state)
      (@process β .plain setting turn otherPass state) := by
  unfold process
  cases state.effectiveAction? with
  | none => exact watched.same_followExpression passes state _
  | some action =>
      apply (watched.same_runAction action).bind (watched.scope.respects_runAction action).keeps
      intro outcome
      cases outcomeTarget? state action outcome.isSuccess with
      | some target => exact watched.same_goTo passes target none
      | none =>
          cases outcome with
          | succeeded => exact watched.same_followExpression passes state _
          | failed reason => exact .refl _

omit passes

theorem same_passState (remaining : Nat) {state : State}
    (isKnown : state ∈ turn.definition.states) :
    Run.SameFrom property (@passState β evaluator setting turn remaining state)
      (@passState β .plain setting turn remaining state) := by
  induction remaining generalizing state with
  | zero => exact .refl _
  | succ remaining induction =>
      have keeps : (@process β .plain setting turn (@passState β .plain setting turn remaining)
          state).Keeps property :=
        (watched.work.respects_process (.states fun state _ => Permit.all_covers state)
          (fun _ known => watched.work.respects_passState
            (.states fun state _ => Permit.all_covers state) known remaining) isKnown).keeps
      apply (watched.same_runActions state.preActions).bind
        (watched.scope.respects_runActions state.preActions).keeps
      intro _
      apply (watched.same_process (fun _ known => induction known) state).bind keeps
      intro screen
      exact (watched.same_runActions state.postActions).andThen _

theorem same_followFirst (transition : Transition) :
    Run.SameFrom property
      (@follow β evaluator setting turn (@passFirst β evaluator setting turn) transition)
      (@follow β .plain setting turn (@passFirst β .plain setting turn) transition) :=
  watched.same_follow (fun _ isKnown => watched.same_passState _ isKnown) transition

/-! ## Inputs -/

theorem same_answerMenu (state : State) (input : String) :
    Run.SameFrom property (@answerMenu β evaluator setting turn state input)
      (@answerMenu β .plain setting turn state input) := by
  unfold answerMenu
  split
  · exact watched.same_showAgain state
  · cases choose? state.transitions input with
    | none =>
        exact .after (watched.scope.respects_note _).keeps fun _ => watched.same_showHint _ _
    | some transition =>
        have follows : Run.SameFrom property
            (@follow β evaluator setting turn (@passFirst β evaluator setting turn) transition)
            (@follow β .plain setting turn (@passFirst β .plain setting turn) transition) :=
          watched.same_followFirst transition
        dsimp only
        cases transition.value with
        | none => exact follows
        | some value =>
            cases state.storeAs with
            | none => exact follows
            | some name =>
                exact .after (watched.scope.respects_keepEntry name value).inTurn.keeps
                  fun _ => follows

theorem same_acceptInput (state : State) (input : String) :
    Run.SameFrom property (@acceptInput β evaluator setting turn state input)
      (@acceptInput β .plain setting turn state input) := by
  unfold acceptInput
  cases state.transitionFor? .valid with
  | none =>
      cases state.storeAs with
      | none => exact .refl _
      | some name => exact .refl _
  | some transition =>
      have follows : Run.SameFrom property
          (@follow β evaluator setting turn (@passFirst β evaluator setting turn) transition)
          (@follow β .plain setting turn (@passFirst β .plain setting turn) transition) :=
        watched.same_followFirst transition
      cases state.storeAs with
      | none => exact follows
      | some name =>
          exact .after (watched.scope.respects_keepEntry name _).inTurn.keeps fun _ => follows

theorem same_answerInput (state : State) (input : String) :
    Run.SameFrom property (@answerInput β evaluator setting turn state input)
      (@answerInput β .plain setting turn state input) := by
  unfold answerInput
  cases choose? state.transitions input with
  | some transition => exact watched.same_followFirst transition
  | none =>
      cases state.validation with
      | none =>
          dsimp only
          split
          · exact watched.same_showAgain state
          · exact watched.same_acceptInput state input
      | some rule =>
          apply Run.SameFrom.after (watched.scope.respects_checkInput input rule).keeps
          intro verdict
          cases verdict with
          | ok _ => exact watched.same_acceptInput state input
          | error refusal =>
              exact .after (watched.scope.respects_note _).keeps fun _ => watched.same_showHint _ _

theorem same_answerState (state : State) (input : String) :
    Run.SameFrom property (@answerState β evaluator setting turn state input)
      (@answerState β .plain setting turn state input) := by
  unfold answerState
  cases state.type with
  | menu => exact watched.same_answerMenu state input
  | display => exact watched.same_answerMenu state input
  | input => exact watched.same_answerInput state input
  | processing =>
      exact watched.same_process (fun _ isKnown => watched.same_passState _ isKnown) state
  | final => exact watched.same_finish state

end Actions

/-! ## Turns -/

variable {session : Session} (watched : Watched property seen evaluator session)

include watched

theorem same_answerTurn (definition : Definition) (input : String) :
    Run.SameFrom property (@answerTurn β evaluator setting definition session input)
      (@answerTurn β .plain setting definition session input) := by
  let turn : Turn := { definition := definition, session := session }
  have ofTurn : Watched property seen evaluator turn.session := watched
  have keeps (state : State) (isKnown : state ∈ turn.definition.states) :
      (@answerState β .plain setting turn state input).Keeps property :=
    (ofTurn.work.respects_answerState (.states fun state _ => Permit.all_covers state) isKnown
      input).keeps
  apply Run.SameFrom.requireState turn session.stateId
  intro state isKnown
  apply Run.SameFrom.after (watched.scope.respects_note _).keeps
  intro _
  apply (ofTurn.same_runActions state.preActions).bind
    (ofTurn.scope.respects_runActions state.preActions).keeps
  intro _
  apply (ofTurn.same_answerState state input).bind (keeps state isKnown)
  intro screen
  exact (ofTurn.same_runActions state.postActions).andThen _

theorem same_startTurn (definition : Definition) :
    Run.SameFrom property (@startTurn β evaluator setting definition session)
      (@startTurn β .plain setting definition session) := by
  let turn : Turn := { definition := definition, session := session }
  have ofTurn : Watched property seen evaluator turn.session := watched
  intro gateway holds
  rcases on_startState? (ε := TurnError) definition gateway with ⟨events, starts⟩
  have chooses : (startState? definition : Run β TurnError (Option State)).Keeps property :=
    ofTurn.work.respects_startState?.keeps
  have kept : property { gateway with log := gateway.log ++ events } := by
    have keeps := chooses gateway holds
    rwa [starts] at keeps
  unfold startTurn
  rw [Run.on_bind_of_ok starts, Run.on_bind_of_ok starts]
  cases isInitial : definition.initialState? with
  | none => rfl
  | some state =>
      have isKnown : state ∈ turn.definition.states := Definition.mem_of_initialState? isInitial
      refine Run.SameFrom.after (watched.scope.respects_note _).keeps (fun _ => ?_) _ kept
      cases state.type with
      | processing => exact ofTurn.same_passState _ isKnown
      | final => exact ofTurn.same_finish state
      | menu => exact ofTurn.same_showAgain state
      | input => exact ofTurn.same_showAgain state
      | display => exact ofTurn.same_showAgain state

end Watched

end Ussd
