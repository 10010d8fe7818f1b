import Ussd.Proofs.Scope

/-! # Where a turn leaves its session

A turn names the state that it has reached only at its innermost step, while the session is moved
at every step on the way. `Stands` follows the stored session through a turn and `Settles` says
that a computation leaves it where its screen says. A processing state may lead to a chain of
others, so the main induction is on the number of states that may still be passed. -/

namespace Ussd

variable {β : Type} [Backend β]

/-- Since a turn began at `start`, its session has only been given another state, data and time of
last activity, and the log has only grown. -/
structure Stands (session : Session) (start : Gateway β) (stateId : String)
    (gateway : Gateway β) : Prop where
  stored : ∃ data lastActivity, Table.get? gateway.sessions session.id =
    some { session with stateId := stateId, data := data, lastActivity := lastActivity }
  logged : start.log <+: gateway.log

/-- Since `start`, the action of a state has failed and nothing has said where to go. -/
def Unrouted (setting : Setting) (turn : Turn) (state : State) (start final : Gateway β) : Prop :=
  ∃ action reason, ∃ before after : Gateway β,
    state.effectiveAction? = some action ∧ outcomeTarget? state action false = none ∧
      start.log <+: before.log ∧
      (runAction setting turn action).on before = (.ok (.failed reason), after) ∧
      after.log ++ [.noErrorRoute turn.session.id state.id reason] <+: final.log

/-- A screen belongs to a state, and tells by its kind whether the subscriber can answer. -/
structure ScreenOf (setting : Setting) (turn : Turn) (start final : Gateway β) (screen : Screen)
    (state : State) : Prop where
  stateId : state.id = screen.stateId
  answerable : screen.continues = true → state.type.isInteractive = true
  last : screen.continues = false →
    state.type = .final ∨ (state.type = .processing ∧ Unrouted setting turn state start final)

/-- From the given state on, the computation leaves the session at the state of its screen, which
is one of the known states. -/
def Settles (setting : Setting) (turn : Turn) (start : Gateway β) (known : State → Prop)
    (stateId : String) (run : Run β TurnError Screen) : Prop :=
  run.Leads (Stands turn.session start stateId) fun screen final =>
    Stands turn.session start screen.stateId final ∧
      ∃ state, known state ∧ ScreenOf setting turn start final screen state

section Outcome

variable {setting : Setting} {turn : Turn} {session : Session} {start : Gateway β}
  {stateId : String} {known : State → Prop}

namespace Stands

omit [Backend β] in
theorem refl {gateway : Gateway β}
    (stored : Table.get? gateway.sessions session.id = some session) :
    Stands session gateway session.stateId gateway :=
  ⟨⟨_, _, stored⟩, List.prefix_refl _⟩

theorem actionScope (session : Session) (start : Gateway β) (stateId : String) :
    ActionScope (Run.Alone (Stands session start stateId)) session.id session.phoneNumber
      session.serviceCode := by
  apply ActionScope.alone
  case noted =>
    intro gateway stands events
    exact ⟨stands.stored, stands.logged.trans (List.prefix_append _ _)⟩
  case merged =>
    intro gateway stands stored found entries now
    rcases stands.stored with ⟨data, lastActivity, atState⟩
    cases atState.symm.trans found
    exact ⟨⟨_, _, Table.get?_insert_same _ _ _⟩, stands.logged⟩
  case sent => exact fun gateway stands backend => ⟨stands.stored, stands.logged⟩
  case recorded => exact fun gateway stands records _ => ⟨stands.stored, stands.logged⟩

omit [Backend β] in
theorem leads_move (turn : Turn) (target : String) :
    (moveSession setting turn.session.id target).Leads (Stands turn.session start stateId)
      fun _ => Stands turn.session start target := by
  intro gateway stands _ final succeeds
  rcases on_changeSession_eq_ok succeeds with ⟨stored, found, -, rfl⟩
  rcases stands.stored with ⟨data, lastActivity, atState⟩
  cases atState.symm.trans found
  exact ⟨⟨_, _, Table.get?_insert_same _ _ _⟩, stands.logged⟩

omit [Backend β] in
theorem leads_of_respects {ε α : Type} {run : Run β ε α}
    (respects : run.Respects (Run.Alone (Stands turn.session start stateId))) :
    run.Leads (Stands turn.session start stateId) fun _ => Stands turn.session start stateId :=
  .of_keeps respects.keeps

end Stands

/-! ## Screens of one state -/

theorem leads_showScreen (template : String) :
    (showScreen setting turn template).Leads (Stands turn.session start stateId)
      fun _ => Stands turn.session start stateId :=
  Stands.leads_of_respects ((Stands.actionScope ..).respects_showScreen template)

/-- A screen that stays at an interactive state. -/
theorem settles_stay {state : State} (isKnown : known state)
    (interactive : state.type.isInteractive = true) (template : String) (view : String → String) :
    Settles setting turn start known state.id (do
      return .stay (view (← showScreen setting turn template)) state.id) := by
  refine (leads_showScreen template).bind fun message => .pure _ fun gateway stands => ?_
  exact ⟨stands, state, isKnown, rfl, fun _ => interactive, nofun⟩

theorem settles_finish {state : State} (isKnown : known state) (final : state.type = .final) :
    Settles setting turn start known state.id (finish setting turn state) := by
  have left (message : String) (gateway : Gateway β)
      (stands : Stands turn.session start state.id gateway) :
      Stands turn.session start (Screen.leave message state.id).stateId gateway ∧
        ∃ reached, known reached ∧
          ScreenOf setting turn start gateway (Screen.leave message state.id) reached :=
    ⟨stands, state, isKnown, rfl, nofun, fun _ => .inl final⟩
  unfold finish
  split
  · rw [pure_bind]
    exact (leads_showScreen _).bind fun message => .pure _ (left message)
  · refine (Stands.leads_of_respects ((Stands.actionScope ..).respects_runAction _)).bind
      fun outcome => ?_
    cases outcome with
    | succeeded => exact (leads_showScreen _).bind fun message => .pure _ (left message)
    | failed reason =>
        exact (Stands.leads_of_respects ((Stands.actionScope ..).respects_note _)).bind
          fun _ => .pure _ (left _)

/-! ## Going to a state -/

omit [Backend β] in
theorem leads_requireState {before : Gateway β → Prop} (turn : Turn) (target : String) :
    (requireState turn target).Leads before
      fun state gateway => turn.definition.state? target = some state ∧ before gateway := by
  unfold requireState
  cases turn.definition.state? target with
  | none => exact .throw _
  | some state => exact .pure _ fun gateway holds => ⟨rfl, holds⟩

section Chain

variable (resolved : ∀ id state, turn.definition.state? id = some state → known state)

include resolved

theorem settles_goTo {pass : State → Run β TurnError Screen}
    (passing : ∀ state, known state → state.type = .processing →
      Settles setting turn start known state.id (pass state))
    (target : String) (message : Option String) :
    Settles setting turn start known stateId (goTo setting turn pass target message) := by
  refine (leads_requireState turn target).bind fun state => .given fun found => ?_
  have isKnown := resolved target state found
  refine (Stands.leads_move turn state.id).inTurn.bind fun _ => ?_
  refine (Stands.leads_of_respects ((Stands.actionScope ..).respects_note _)).bind fun _ => ?_
  cases type : state.type with
  | processing => exact passing state isKnown type
  | final => exact settles_finish isKnown type
  | menu => exact settles_stay isKnown (by rw [type]; rfl) _ fun message => message
  | input => exact settles_stay isKnown (by rw [type]; rfl) _ fun message => message
  | display => exact settles_stay isKnown (by rw [type]; rfl) _ fun message => message

variable {pass : State → Run β TurnError Screen}
  (passing : ∀ state, known state → state.type = .processing →
    Settles setting turn start known state.id (pass state))

include passing

theorem settles_followExpression (state : State) (otherwise : TurnError) :
    Settles setting turn start known stateId
      (followExpression setting turn pass state otherwise) := by
  refine (Stands.leads_of_respects (Stands.actionScope ..).respects_sessionData).inTurn.bind
    fun data => ?_
  refine (Stands.leads_of_respects ((Stands.actionScope ..).respects_firstHolding? _ _)).bind
    fun found => ?_
  cases found with
  | some transition => exact settles_goTo resolved passing _ _
  | none => exact .throw _

omit resolved passing in
/-- An action keeps the session where it is; what it came to is remembered. -/
theorem leads_runAction (action : Action) :
    (runAction setting turn action).Leads (Stands turn.session start stateId)
      fun outcome gateway => Stands turn.session start stateId gateway ∧
        ∃ before, start.log <+: before.log ∧
          (runAction setting turn action).on before = (.ok outcome, gateway) := by
  intro gateway stands outcome final succeeds
  have keeps : (runAction setting turn action).Leads (Stands turn.session start stateId)
      fun _ => Stands turn.session start stateId :=
    Stands.leads_of_respects ((Stands.actionScope ..).respects_runAction action)
  exact ⟨keeps gateway stands outcome final succeeds, gateway, stands.logged, succeeds⟩

theorem settles_process {state : State} (isKnown : known state)
    (processing : state.type = .processing) :
    Settles setting turn start known state.id (process setting turn pass state) := by
  unfold process
  cases effective : state.effectiveAction? with
  | none => exact settles_followExpression resolved passing _ _
  | some action =>
      refine (leads_runAction action).bind fun outcome gateway ⟨stands, before, logged, ran⟩ => ?_
      rcases target : outcomeTarget? state action outcome.isSuccess with _ | next
      · cases outcome with
        | succeeded => exact settles_followExpression resolved passing _ _ gateway stands
        | failed reason =>
            intro screen final succeeds
            cases succeeds
            refine ⟨⟨stands.stored, stands.logged.trans (List.prefix_append _ _)⟩,
              state, isKnown, rfl, nofun, fun _ => .inr ⟨processing, ?_⟩⟩
            exact ⟨action, reason, before, gateway, effective, target, logged, ran,
              List.prefix_refl _⟩
      · exact settles_goTo resolved passing next none gateway stands

omit resolved passing

omit [Backend β] in
theorem Stands.trans {gateway final : Gateway β} {next : String}
    (first : Stands session start stateId gateway) (second : Stands session gateway next final) :
    Stands session start next final :=
  ⟨second.stored, first.logged.trans second.logged⟩

theorem ScreenOf.mono {gateway final : Gateway β} {screen : Screen} {state : State}
    (shown : ScreenOf setting turn start gateway screen state) (logged : gateway.log <+: final.log) :
    ScreenOf setting turn start final screen state where
  stateId := shown.stateId
  answerable := shown.answerable
  last ends := (shown.last ends).imp_right fun ⟨processing, unrouted⟩ => by
    rcases unrouted with ⟨action, reason, before, after, effective, target, started, ran, noted⟩
    exact ⟨processing, action, reason, before, after, effective, target, started, ran,
      noted.trans logged⟩

/-- What follows a screen without moving the session does not unsettle it. -/
theorem Settles.andThen {run : Run β TurnError Screen}
    (settles : Settles setting turn start known stateId run) (next : Screen → Run β TurnError Unit)
    (stays : ∀ screen start stateId, (next screen).Respects
      (Run.Alone (Stands turn.session start stateId))) :
    Settles setting turn start known stateId (do
      let screen ← run
      next screen
      return screen) := by
  refine settles.bind fun screen middle ⟨stands, state, isKnown, shown⟩ => ?_
  have ends : (do next screen; return screen : Run β TurnError Screen).Leads
      (Stands turn.session middle screen.stateId) fun other final =>
        other = screen ∧ Stands turn.session middle screen.stateId final :=
    (Stands.leads_of_respects (stays screen _ _)).bind fun _ => .pure _ fun _ holds => ⟨rfl, holds⟩
  intro other final succeeds
  rcases ends middle ⟨stands.stored, List.prefix_refl _⟩ other final succeeds with ⟨rfl, later⟩
  exact ⟨stands.trans later, state, isKnown, shown.mono later.logged⟩

/-- What precedes a computation without moving the session does not matter to it. -/
theorem Settles.after {α : Type} {run : Run β TurnError α}
    {next : α → Run β TurnError Screen}
    (stays : run.Respects (Run.Alone (Stands turn.session start stateId)))
    (settles : ∀ value, Settles setting turn start known stateId (next value)) :
    Settles setting turn start known stateId (run >>= next) :=
  (Stands.leads_of_respects stays).bind settles

include resolved

theorem settles_passState (remaining : Nat) {state : State} (isKnown : known state)
    (processing : state.type = .processing) :
    Settles setting turn start known state.id (passState setting turn remaining state) := by
  induction remaining generalizing state with
  | zero => exact .throw _
  | succ remaining induction =>
      refine .after ((Stands.actionScope ..).respects_runActions _) fun _ => ?_
      have settles := settles_process resolved (fun next => induction) isKnown processing
      exact settles.andThen _ fun _ _ _ => (Stands.actionScope ..).respects_runActions _

theorem settles_follow (transition : Transition) :
    Settles setting turn start known stateId
      (follow setting turn (passFirst setting turn) transition) :=
  settles_goTo resolved (fun _ => settles_passState resolved _) _ _

/-! ## Answers of a state -/

section Answers

variable {state : State} (isKnown : known state)

include isKnown

omit resolved in
theorem settles_showAgain (interactive : state.type.isInteractive = true) :
    Settles setting turn start known state.id (showAgain setting turn state) :=
  settles_stay isKnown interactive _ fun message => message

theorem settles_answerMenu (interactive : state.type.isInteractive = true) (input : String) :
    Settles setting turn start known state.id (answerMenu setting turn state input) := by
  have following (transition : Transition) : Settles setting turn start known state.id
      (follow setting turn (passFirst setting turn) transition) :=
    settles_follow resolved transition
  unfold answerMenu
  split
  · exact settles_showAgain isKnown interactive
  · split
    · refine .after ((Stands.actionScope ..).respects_note _) fun _ => ?_
      exact settles_stay isKnown interactive _ _
    · split
      · exact .after ((Stands.actionScope ..).respects_keepEntry _ _).inTurn fun _ => following _
      · exact following _

omit isKnown in
theorem settles_acceptInput (input : String) :
    Settles setting turn start known state.id (acceptInput setting turn state input) := by
  unfold acceptInput
  cases state.storeAs with
  | some name =>
      refine .after ((Stands.actionScope ..).respects_keepEntry name _).inTurn fun _ => ?_
      cases state.transitionFor? .valid with
      | some transition => exact settles_follow resolved transition
      | none => exact .throw _
  | none =>
      cases state.transitionFor? .valid with
      | some transition => exact settles_follow resolved transition
      | none => exact .throw _

theorem settles_answerInput (interactive : state.type.isInteractive = true) (input : String) :
    Settles setting turn start known state.id (answerInput setting turn state input) := by
  unfold answerInput
  split
  · exact settles_follow resolved _
  · split
    · split
      · exact settles_showAgain isKnown interactive
      · exact settles_acceptInput resolved input
    · refine .after ((Stands.actionScope ..).respects_checkInput _ _) fun verdict => ?_
      cases verdict with
      | ok _ => exact settles_acceptInput resolved input
      | error refusal =>
          refine .after ((Stands.actionScope ..).respects_note _) fun _ => ?_
          exact settles_stay isKnown interactive _ _

theorem settles_answerState (input : String) :
    Settles setting turn start known state.id (answerState setting turn state input) := by
  unfold answerState
  cases type : state.type with
  | menu => exact settles_answerMenu resolved isKnown (by rw [type]; rfl) input
  | display => exact settles_answerMenu resolved isKnown (by rw [type]; rfl) input
  | input => exact settles_answerInput resolved isKnown (by rw [type]; rfl) input
  | processing =>
      exact settles_process resolved (fun _ => settles_passState resolved _) isKnown type
  | final => exact settles_finish isKnown type

end Answers
end Chain

/-! ## Turns -/

theorem settles_answerTurn (setting : Setting) (definition : Definition) (session : Session)
    (start : Gateway β) (input : String) :
    Settles setting ⟨definition, session⟩ start (fun state => definition.state? state.id = some state)
      session.stateId (answerTurn setting definition session input) := by
  have resolved (id : String) (state : State) (found : definition.state? id = some state) :
      definition.state? state.id = some state := by
    rwa [Definition.state?_id found]
  refine (leads_requireState ⟨definition, session⟩ session.stateId).bind fun state => ?_
  intro gateway ⟨found, stands⟩
  rw [← Definition.state?_id found] at stands
  have answers : Settles setting ⟨definition, session⟩ start
      (fun state => definition.state? state.id = some state) state.id (do
        note (.turnStarted session.id state.id state.type)
        runActions setting ⟨definition, session⟩ state.preActions
        let screen ← answerState setting ⟨definition, session⟩ state input
        runActions setting ⟨definition, session⟩ state.postActions
        note (.turnCompleted session.id state.id screen.stateId screen.continues)
        return screen) := by
    refine .after ((Stands.actionScope ..).respects_note _) fun _ => ?_
    refine .after ((Stands.actionScope ..).respects_runActions _) fun _ => ?_
    have settles : Settles setting ⟨definition, session⟩ start
        (fun state => definition.state? state.id = some state) state.id
        (answerState setting ⟨definition, session⟩ state input) :=
      settles_answerState resolved (resolved _ _ found) input
    let close (screen : Screen) : Run β TurnError Unit := do
      runActions setting ⟨definition, session⟩ state.postActions
      note (.turnCompleted session.id state.id screen.stateId screen.continues)
    have closes (screen : Screen) (start : Gateway β) (stateId : String) :
        (close screen).Respects (Run.Alone (Stands session start stateId)) :=
      ((Stands.actionScope session start stateId).respects_runActions _).bind fun _ =>
        (Stands.actionScope ..).respects_note _
    simpa only [close, bind_assoc] using settles.andThen close closes
  exact answers gateway stands

omit [Backend β] in
theorem leads_startState? (definition : Definition) :
    (startState? definition : Run β TurnError (Option State)).Leads (Stands session start stateId)
      fun found gateway => found = definition.initialState? ∧
        Stands session start stateId gateway := by
  intro gateway stands found final starts
  rcases on_startState? (ε := TurnError) definition gateway with ⟨events, adds⟩
  rw [adds] at starts
  cases starts
  exact ⟨rfl, stands.stored, stands.logged.trans (List.prefix_append _ _)⟩

/-- The state in which a session starts need not be the one that its id stands for: another state
with that id may come before it. -/
theorem settles_startTurn {definition : Definition} {session : Session} {initial : State}
    (isInitial : definition.initialState? = some initial) (start : Gateway β) :
    Settles setting ⟨definition, session⟩ start
      (fun state => definition.state? state.id = some state ∨ state = initial)
      initial.id (startTurn setting definition session) := by
  have resolved (id : String) (state : State) (found : definition.state? id = some state) :
      definition.state? state.id = some state ∨ state = initial := by
    rw [Definition.state?_id found]
    exact .inl found
  refine (leads_startState? definition).bind fun found => .given fun isFound => ?_
  rw [isFound, isInitial]
  refine Settles.after ((Stands.actionScope ..).respects_note _) fun _ => ?_
  cases type : initial.type with
  | processing => exact settles_passState resolved _ (.inr rfl) type
  | final => exact settles_finish (.inr rfl) type
  | menu => exact settles_showAgain (.inr rfl) (by rw [type]; rfl)
  | input => exact settles_showAgain (.inr rfl) (by rw [type]; rfl)
  | display => exact settles_showAgain (.inr rfl) (by rw [type]; rfl)

/-- A turn that succeeds leaves its session at the state of its screen, as active as before and with
the same end, and the screen asks for an answer exactly where the state waits for one. Only the
screen of the state in which a session starts may belong to a state that its id does not stand
for. -/
theorem stored_session_matches_screen (setting : Setting) (definition : Definition)
    (session : Session) (gateway : Gateway β)
    (stored : Table.get? gateway.sessions session.id = some session) :
    (∀ input screen final,
      (answerTurn setting definition session input).on gateway = (.ok screen, final) →
        Stands session gateway screen.stateId final ∧
        ∃ state, definition.state? screen.stateId = some state ∧
          ScreenOf setting ⟨definition, session⟩ gateway final screen state) ∧
    (∀ initial screen final, definition.initialState? = some initial →
      session.stateId = initial.id →
      (startTurn setting definition session).on gateway = (.ok screen, final) →
        Stands session gateway screen.stateId final ∧
        ∃ state, (definition.state? screen.stateId = some state ∨
            state = initial ∧ screen.stateId = initial.id) ∧
          ScreenOf setting ⟨definition, session⟩ gateway final screen state) := by
  have stands : Stands session gateway session.stateId gateway := .refl stored
  constructor
  · intro input screen final succeeds
    rcases settles_answerTurn setting definition session gateway input gateway stands screen final
      succeeds with ⟨rests, state, found, shown⟩
    exact ⟨rests, state, shown.stateId ▸ found, shown⟩
  · intro initial screen final isInitial begins succeeds
    rw [begins] at stands
    rcases settles_startTurn isInitial gateway gateway stands screen final succeeds with
      ⟨rests, state, found | rfl, shown⟩
    · exact ⟨rests, state, .inl (shown.stateId ▸ found), shown⟩
    · exact ⟨rests, state, .inr ⟨rfl, shown.stateId.symm⟩, shown⟩

end Outcome

/-! ## Sample turns -/

namespace Sample

def setting : Setting where
  engine := .standard
  sessionTimeout := 300
  timing := { limit := 30000, backoff := 200 }
  now := { seconds := 1000, nanoseconds := 0 }
  freshId := "fresh"
  outage _ := none
  readerDetail _ := "EOF while parsing a value at line 1 column 0"

def state (id : String) (type : StateType) (action : Option Action)
    (transitions : List Transition) : State where
  id := id
  name := ""
  type := type
  isInitial := type.isInteractive
  message := "Bonjour"
  validation := none
  storeAs := none
  action := action
  transitions := transitions
  preActions := []
  postActions := []

def definition (states : List State) : Definition where
  serviceCode := "service"
  serviceName := ""
  version := ""
  shortCode := "*1#"
  description := none
  apiConfig := none
  sessionLimits := { timeout := none, maxInactivity := none }
  states := states

/-- The only option of the menu leads to an action that fails, since its key is empty. -/
def failing : Definition :=
  definition [
    state "menu" .menu none
      [{ input := some "1", condition := none, nextState := "work", value := none, message := none }],
    state "work" .processing
      (some (.access .save { storageKey := "", storeAs := none, value := none })) []]

/-- Two states of one id; the session starts in the second one. -/
def shadowed : Definition := definition [state "menu" .final none [], state "menu" .menu none []]

def session : Session := .begin "session" "phone" "service" "menu" 300 setting.now

def backend : ScriptedBackend := { replies := [], delay := 0, received := [] }

def gateway : Gateway ScriptedBackend :=
  { Gateway.empty backend with sessions := SessionStore.save [] session }

end Sample

theorem stored_session_matches_screen_of_failed_action :
    Table.get? Sample.gateway.sessions Sample.session.id = some Sample.session ∧
    ∃ screen final,
      (answerTurn Sample.setting Sample.failing Sample.session "1").on Sample.gateway =
        (.ok screen, final) ∧
      Stands Sample.session Sample.gateway screen.stateId final ∧
      ∃ state, Sample.failing.state? screen.stateId = some state ∧
        Unrouted Sample.setting ⟨Sample.failing, Sample.session⟩ state Sample.gateway final := by
  have stored : Table.get? Sample.gateway.sessions Sample.session.id = some Sample.session := rfl
  have left : ((answerTurn Sample.setting Sample.failing Sample.session "1").on
      Sample.gateway).1.toOption =
        some (.leave EngineSettings.standard.apiFailureMessage "work") := by decide +kernel
  have processing : (Sample.failing.state? "work").map State.type = some .processing := rfl
  rcases turned : (answerTurn Sample.setting Sample.failing Sample.session "1").on
    Sample.gateway with ⟨error | screen, final⟩
  · rw [turned] at left
    cases left
  · rw [turned] at left
    cases left
    rcases (stored_session_matches_screen Sample.setting Sample.failing Sample.session
      Sample.gateway stored).1 "1" _ _ turned with ⟨stands, state, found, shown⟩
    refine ⟨stored, _, _, rfl, stands, state, found, ?_⟩
    rcases shown.last rfl with isFinal | ⟨-, unrouted⟩
    · have found : Sample.failing.state? "work" = some state := found
      simp [found, isFinal] at processing
    · exact unrouted

/-- Where an earlier state takes the id of the state in which sessions start, the first screen asks
for an answer, but its id stands for the earlier state. -/
theorem first_screen_may_be_shadowed :
    Table.get? Sample.gateway.sessions Sample.session.id = some Sample.session ∧
    Sample.shadowed.initialState?.map State.id = some Sample.session.stateId ∧
    ∃ screen final,
      (startTurn Sample.setting Sample.shadowed Sample.session).on Sample.gateway =
        (.ok screen, final) ∧
      screen.continues = true ∧
      (Sample.shadowed.state? screen.stateId).map State.type = some .final :=
  ⟨rfl, rfl, .stay "Bonjour" "menu", _, Prod.ext rfl rfl, rfl, rfl⟩

end Ussd
