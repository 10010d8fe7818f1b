import Ussd.Proofs.Sessions
import Ussd.Proofs.TurnOutcome

/-! # Inputs that are refused

A state that waits for an answer shows its screen again when it can do nothing with the answer. Menus
and questions take this decision in different ways, but in both a refused input is a matter of the
screen alone: the computation reads the session and reports to the log, and that is all. -/

namespace Ussd

/-! ## Computations that only report -/

/-- The event tells that something has been done: a change of a session or of a record, a state that
has been entered, an action that has been started, or a request that has been sent. -/
def Event.tellsWork : Event → Bool
  | .sessionCreated .. => true
  | .entryKept .. => true
  | .entriesKept .. => true
  | .sessionEnded _ => true
  | .stateEntered .. => true
  | .actionStarted .. => true
  | .requestSent .. => true
  | .recordSaved .. => true
  | .recordExtended .. => true
  | .recordDeleted .. => true
  | _ => false

/-- None of the events tells that something has been done. -/
def Idle (events : List Event) : Prop := ∀ event ∈ events, event.tellsWork = false

theorem Idle.map {α : Type} {event : α → Event} (idle : ∀ value, (event value).tellsWork = false)
    (values : List α) : Idle (values.map event) := by
  intro other member
  rcases List.mem_map.mp member with ⟨value, -, rfl⟩
  exact idle value

variable {β ε α γ : Type}

namespace Run

/-- The computation has the result, and does nothing but report to the log. -/
def Reports (run : Run β ε α) (gateway : Gateway β) (result : Except ε α) : Prop :=
  ∃ events, Idle events ∧
    run.on gateway = (result, { gateway with log := gateway.log ++ events })

namespace Reports

variable {gateway : Gateway β}

theorem of_on {run : Run β ε α} {result : Except ε α} (ran : run.on gateway = (result, gateway)) :
    run.Reports gateway result := by
  refine ⟨[], List.forall_mem_nil _, ?_⟩
  rw [List.append_nil]
  exact ran

theorem noteAll {events : List Event} (idle : Idle events) :
    (Ussd.noteAll events : Run β ε Unit).Reports gateway (.ok ()) :=
  ⟨events, idle, rfl⟩

theorem note {event : Event} (idle : event.tellsWork = false) :
    (Ussd.note event : Run β ε Unit).Reports gateway (.ok ()) :=
  noteAll (List.forall_mem_singleton.mpr idle)

theorem bind {run : Run β ε α} {next : α → Run β ε γ} {value : α} {result : Except ε γ}
    (first : run.Reports gateway (.ok value))
    (second : ∀ log, (next value).Reports { gateway with log := log } result) :
    (run >>= next).Reports gateway result := by
  rcases first with ⟨events, idle, ran⟩
  rcases second (gateway.log ++ events) with ⟨others, othersIdle, nextRan⟩
  refine ⟨events ++ others, List.forall_mem_append.mpr ⟨idle, othersIdle⟩, ?_⟩
  rw [on_bind_of_ok ran, nextRan, List.append_assoc]

theorem bind_error {run : Run β ε α} {next : α → Run β ε γ} {error : ε}
    (fails : run.Reports gateway (.error error)) :
    (run >>= next).Reports gateway (.error error) := by
  rcases fails with ⟨events, idle, ran⟩
  exact ⟨events, idle, by rw [on_bind, ran]⟩

theorem map {run : Run β ε α} {result : Except ε α} (reports : run.Reports gateway result)
    (view : α → γ) : (do return view (← run)).Reports gateway (result.map view) := by
  cases result with
  | error error => exact reports.bind_error
  | ok value => exact reports.bind fun _ => of_on rfl

end Reports

end Run

/-! ## Screens -/

section Screens

variable {setting : Setting} {turn : Turn} {gateway : Gateway β} {stored : Session}

/-- The message of a template for a stored session; a session store that is out of order shows none. -/
def messageFor (setting : Setting) (stored : Session) (template : String) :
    Except TurnError String :=
  match setting.outage .findSession with
  | none => .ok (Message.render template stored.visibleData)
  | some reason => .error (.store (.of .databaseError reason))

theorem reports_showMessage (template : String) (data : Json) :
    (showMessage template data : Run β ε String).Reports gateway
      (.ok (Message.render template data)) := by
  refine (Run.Reports.noteAll ?_).bind fun _ => .of_on rfl
  cases Message.renderFaults template data with
  | error error => exact List.forall_mem_singleton.mpr rfl
  | ok names => exact Idle.map (fun _ => rfl) names

theorem reports_showScreen [Backend β]
    (found : Table.get? gateway.sessions turn.session.id = some stored) (template : String) :
    (showScreen setting turn template : Run β _ _).Reports gateway
      (messageFor setting stored template) := by
  have reads := on_sessionData setting turn.session.id gateway
  rw [found] at reads
  unfold showScreen messageFor
  cases outage : setting.outage .findSession with
  | none =>
      rw [outage] at reads
      have succeeds : (inTurn (sessionData setting turn.session.id)).on gateway =
          (.ok stored.visibleData, gateway) := by rw [Run.on_inTurn, reads]; rfl
      exact (Run.Reports.of_on succeeds).bind fun _ => reports_showMessage template _
  | some reason =>
      rw [outage] at reads
      have fails : (inTurn (sessionData setting turn.session.id)).on gateway =
          (.error (.store (.of .databaseError reason)), gateway) := by
        rw [Run.on_inTurn, reads]; rfl
      exact (Run.Reports.of_on fails).bind_error

end Screens

/-! ## Refusals -/

namespace State

/-- The state can do nothing with the input: it is none of the options, and a question refuses it by
its rule or, without a rule, finds it blank. -/
structure Refuses (state : State) (input : String) : Prop where
  unlabelled : ∀ transition ∈ state.transitions, ∀ label ∈ transition.input,
    labelMatches label.toList input.toList = false
  unaccepted : state.type = .input → match state.validation with
    | none => isAllBlank input = true
    | some rule => ∃ refusal, Validation.checkRule input rule = .error refusal

theorem Refuses.choose?_eq {state : State} {input : String} (refuses : state.Refuses input) :
    choose? state.transitions input = none := by
  refine List.find?_eq_none.mpr fun transition isOwn matched => ?_
  cases labelled : transition.input with
  | none =>
      rw [labelled] at matched
      cases matched
  | some label =>
      rw [labelled, Option.any_some, refuses.unlabelled transition isOwn label labelled] at matched
      cases matched

/-- A blank input just asks for the screen again, unless a rule has to judge it. -/
def promptsAgain (state : State) (input : String) : Bool :=
  isAllBlank input && (state.type != .input || state.validation.isNone)

/-- The hint below the screen when an input is refused. A question may have one of its own. -/
def hint (setting : Setting) (state : State) : String :=
  if state.type = .input then refusalHint setting state else setting.engine.invalidOptionMessage

/-- The message that answers a refused input, made from that of the state. -/
def answerToRefused (setting : Setting) (state : State) (input message : String) : String :=
  if state.promptsAgain input then message else message ++ "\n\n" ++ state.hint setting

end State

section Answers

variable [Backend β] {setting : Setting} {turn : Turn} {gateway : Gateway β} {stored : Session}
  {state : State} {input : String}

def refusalScreen (setting : Setting) (stored : Session) (state : State) (input : String) :
    Except TurnError Screen :=
  (messageFor setting stored state.message).map fun message =>
    .stay (state.answerToRefused setting input message) state.id

section

variable (found : Table.get? gateway.sessions turn.session.id = some stored)
  (refuses : state.Refuses input)

include found

omit refuses in
theorem reports_showAgain (prompts : state.promptsAgain input = true) :
    (showAgain setting turn state : Run β _ _).Reports gateway
      (refusalScreen setting stored state input) := by
  have alone : refusalScreen setting stored state input =
      (messageFor setting stored state.message).map fun message => .stay message state.id := by
    simp only [refusalScreen, State.answerToRefused, prompts, if_true]
  rw [alone]
  exact (reports_showScreen found state.message).map _

omit refuses in
theorem reports_showHint (judges : state.promptsAgain input = false) :
    (showHint setting turn state (state.hint setting) : Run β _ _).Reports gateway
      (refusalScreen setting stored state input) := by
  have hinted : refusalScreen setting stored state input =
      (messageFor setting stored state.message).map fun message =>
        .stay (message ++ "\n\n" ++ state.hint setting) state.id := by
    simp only [refusalScreen, State.answerToRefused, judges, Bool.false_eq_true, if_false]
  rw [hinted]
  exact (reports_showScreen found state.message).map _

include refuses

theorem reports_answerMenu (notInput : state.type ≠ .input) :
    (answerMenu setting turn state input : Run β _ _).Reports gateway
      (refusalScreen setting stored state input) := by
  have asksAgain : state.promptsAgain input = isAllBlank input := by
    simp [State.promptsAgain, notInput]
  have isHint : setting.engine.invalidOptionMessage = state.hint setting := by
    simp [State.hint, notInput]
  unfold answerMenu
  rw [refuses.choose?_eq, isHint, ← asksAgain]
  cases prompts : state.promptsAgain input with
  | true => exact reports_showAgain found prompts
  | false => exact (Run.Reports.note rfl).bind fun log => reports_showHint found prompts

theorem reports_answerInput (isInput : state.type = .input) :
    (answerInput setting turn state input : Run β _ _).Reports gateway
      (refusalScreen setting stored state input) := by
  have unaccepted := refuses.unaccepted isInput
  have isHint : refusalHint setting state = state.hint setting := by simp [State.hint, isInput]
  unfold answerInput
  rw [refuses.choose?_eq, isHint]
  cases ruled : state.validation with
  | none =>
      rw [ruled] at unaccepted
      have blank : isAllBlank input = true := unaccepted
      simp only [blank, if_true]
      exact reports_showAgain found (by simp [State.promptsAgain, blank, ruled])
  | some rule =>
      rw [ruled] at unaccepted
      rcases unaccepted with ⟨refusal, refused⟩
      have checks : (checkInput input rule : Run β TurnError _).Reports gateway
          (.ok (.error refusal)) := by
        refine (Run.Reports.noteAll (Idle.map (fun _ => rfl) _)).bind fun log => ?_
        rw [refused]
        exact .of_on rfl
      have judges : state.promptsAgain input = false := by
        simp [State.promptsAgain, isInput, ruled]
      exact checks.bind fun log => (Run.Reports.note rfl).bind fun _ => reports_showHint found judges

theorem reports_answerState (waits : state.type.isInteractive = true) :
    (answerState setting turn state input : Run β _ _).Reports gateway
      (refusalScreen setting stored state input) := by
  unfold answerState
  cases type : state.type with
  | menu => exact reports_answerMenu found refuses (by rw [type]; exact nofun)
  | display => exact reports_answerMenu found refuses (by rw [type]; exact nofun)
  | input => exact reports_answerInput found refuses type
  | processing =>
      rw [type] at waits
      cases waits
  | final =>
      rw [type] at waits
      cases waits

end

/-- An input that a state refuses leaves no trace but reports in the log: sessions, records, the
services and the backend are as before, nothing has been done, and the session is still asked at the
state. What it is shown is the message of the state for its data, with a hint below it unless the
input was just a request for the screen. A session store that is out of order shows nothing, and no
more happens then either. -/
theorem refused_input_leaves_no_trace (setting : Setting) {definition : Definition}
    {session : Session} (resolved : definition.state? session.stateId = some state)
    (waits : state.type.isInteractive = true) (noPreActions : state.preActions = [])
    (noPostActions : state.postActions = [])
    (found : Table.get? gateway.sessions session.id = some stored)
    (refuses : state.Refuses input) :
    ∃ events, Idle events ∧
      (setting.outage .findSession = none →
        (answerTurn setting definition session input).on gateway =
          (.ok {
              message := state.answerToRefused setting input
                (Message.render state.message stored.visibleData)
              continues := true
              stateId := session.stateId },
            { gateway with log := gateway.log ++ events })) ∧
      ∀ reason, setting.outage .findSession = some reason →
        (answerTurn setting definition session input).on gateway =
          (.error (.store (.of .databaseError reason)),
            { gateway with log := gateway.log ++ events }) := by
  have turnReports : (answerTurn setting definition session input).Reports gateway
      (refusalScreen setting stored state input) := by
    unfold answerTurn requireState
    simp only [resolved, pure_bind, noPreActions, noPostActions, runActions]
    refine (Run.Reports.note rfl).bind fun log => ?_
    have answers : (answerState setting ⟨definition, session⟩ state input).Reports
        { gateway with log := log } (refusalScreen setting stored state input) :=
      reports_answerState found refuses waits
    cases screen : refusalScreen setting stored state input with
    | error error => exact (screen ▸ answers).bind_error
    | ok screen =>
        rw [screen] at answers
        exact answers.bind fun log => (Run.Reports.note rfl).bind fun _ => .of_on rfl
  rcases turnReports with ⟨events, idle, ran⟩
  refine ⟨events, idle, fun inOrder => ?shown, fun reason outage => ?failed⟩
  case shown =>
    rw [ran, refusalScreen, messageFor, inOrder, ← Definition.state?_id resolved]
    rfl
  case failed =>
    rw [ran, refusalScreen, messageFor, outage]
    rfl

end Answers

namespace Sample

def numeric : ValidationRule where
  kind := .numeric
  minLength := none
  maxLength := none
  min := none
  max := none
  pattern := none
  optional := false

/-- A question for an amount, with a hint of its own. -/
def amountQuestion : State :=
  { state "menu" .input none
      [{ input := none, condition := some (.on .invalid), nextState := "menu", value := none,
         message := some "Chiffres seulement" }] with
    message := "Montant, \x7b\x7bnom\x7d\x7d ?"
    validation := some numeric
    storeAs := some "montant" }

def named : Session := { session with data := [("nom", .text "Awa")] }

def askingAmount : Gateway ScriptedBackend :=
  { Gateway.empty backend with sessions := SessionStore.save [] named }

end Sample

theorem refused_amount_leaves_no_trace :
    (Sample.definition [Sample.amountQuestion]).state? Sample.named.stateId =
      some Sample.amountQuestion ∧
    Sample.amountQuestion.type.isInteractive = true ∧ Sample.amountQuestion.preActions = [] ∧
    Sample.amountQuestion.postActions = [] ∧
    Table.get? Sample.askingAmount.sessions Sample.named.id = some Sample.named ∧
    Sample.amountQuestion.Refuses "mille" ∧
    ∃ events, Idle events ∧
      (answerTurn Sample.setting (Sample.definition [Sample.amountQuestion]) Sample.named
          "mille").on Sample.askingAmount =
        (.ok { message := "Montant, Awa ?\n\nChiffres seulement", continues := true,
               stateId := "menu" },
          { Sample.askingAmount with log := events }) := by
  have refuses : Sample.amountQuestion.Refuses "mille" :=
    { unlabelled := by
        intro transition isOwn label labelled
        rw [List.mem_singleton.mp isOwn] at labelled
        cases labelled
      unaccepted := fun _ => ⟨.invalidKind .numeric, by rfl⟩ }
  have shown : Sample.amountQuestion.answerToRefused Sample.setting "mille"
      (Message.render Sample.amountQuestion.message Sample.named.visibleData) =
        "Montant, Awa ?\n\nChiffres seulement" := by decide +kernel
  have resolved : (Sample.definition [Sample.amountQuestion]).state? Sample.named.stateId =
      some Sample.amountQuestion := rfl
  have found : Table.get? Sample.askingAmount.sessions Sample.named.id = some Sample.named := rfl
  rcases refused_input_leaves_no_trace Sample.setting resolved rfl rfl rfl found refuses with
    ⟨events, idle, shows, -⟩
  refine ⟨resolved, rfl, rfl, rfl, found, refuses, events, idle, ?_⟩
  rw [shows rfl, shown]
  rfl

end Ussd
