import Ussd.Proofs.Route
import Ussd.Proofs.TurnFailure
import Ussd.Proofs.TurnOutcome

/-! # The course of a turn

As long as a turn is not broken off, its trail is that of its route. A turn that is broken off has
entered the states of its route in the same order, and whether the limit was the reason can be told
from the number of processing states among them. `Part` says both of a computation that a turn
consists of. The main induction is on the number of processing states that may still be passed,
which together with those that have been entered is one more than the limit. -/

namespace Ussd

variable {β : Type} [Backend β]

/-! ## What has been seen -/

/-- The trail of a gateway; its sessions are kept under their ids if they were in the beginning. -/
structure Seen (origin : SessionStore) (marks : List Mark) (gateway : Gateway β) : Prop where
  trail : gateway.trail = marks
  keyed : origin.Keyed → SessionStore.Keyed gateway.sessions

def TurnError.IsFault (error : TurnError) : Prop := ∃ fault, error = .store fault

/-- A fault of the store has broken a turn off before it entered another state. -/
def Broken (marks : List Mark) (error : TurnError) (gateway : Gateway β) : Prop :=
  error.IsFault ∧ enteredIds gateway.trail = enteredIds marks

omit [Backend β] in
theorem Broken.of_started {marks : List Mark} {action : Action} {error : TurnError}
    {gateway : Gateway β} (broken : Broken (marks ++ [.started action]) error gateway) :
    Broken marks error gateway :=
  ⟨broken.1, by simpa using broken.2⟩

/-- Neither actions nor states are allowed, just what actions do once they have been started. -/
def Permit.quiet : Permit :=
  { actions with
    starts := fun _ => False
    kept := fun _ forbidden => forbidden.elim }

namespace Seen

variable {origin : SessionStore} {marks : List Mark}

theorem scope (origin : SessionStore) (marks : List Mark) (id phoneNumber serviceCode : String) :
    WorkScope .quiet (Run.Alone (Seen (β := β) origin marks)) id phoneNumber serviceCode := by
  apply WorkScope.alone
  case noted =>
    intro gateway seen events quiet
    exact ⟨(quiet.trail_eq gateway).trans seen.trail, seen.keyed⟩
  case started => exact fun _ _ _ forbidden => forbidden.elim
  case entered => exact fun _ _ _ forbidden => forbidden.elim
  case merged => exact fun _ seen _ _ _ _ _ => ⟨seen.trail, fun kept => (seen.keyed kept).save _⟩
  case moved => exact fun _ _ _ _ _ forbidden => forbidden.elim
  case sent => exact fun _ seen _ => ⟨seen.trail, seen.keyed⟩
  case recorded => exact fun _ seen _ => ⟨seen.trail, seen.keyed⟩

omit [Backend β] in
theorem ends {α : Type} {run : Run β TurnError α}
    (respects : run.Respects (Run.Alone (Seen origin marks)))
    (fails : run.FailsOnly TurnError.IsFault) :
    run.Ends (Seen origin marks) (fun _ => Seen origin marks) (Broken marks) :=
  (Run.Ends.of_keeps respects.keeps fails).mono (fun _ _ seen => seen)
    fun _ _ ⟨isFault, seen⟩ => ⟨isFault, congrArg enteredIds seen.trail⟩

omit [Backend β] in
theorem note {gateway : Gateway β} (seen : Seen origin marks gateway) {event : Event} {mark : Mark}
    (leaves : event.mark? = some mark) :
    Seen origin (marks ++ [mark]) { gateway with log := gateway.log ++ [event] } where
  trail := by rw [trail_of_mark gateway leaves, seen.trail]
  keyed := seen.keyed

end Seen

/-! ## Actions and screens -/

section Actions

variable {origin : SessionStore} {setting : Setting} {turn : Turn} {marks : List Mark}

omit [Backend β] in
theorem Seen.ends_inTurn {α : Type} {run : Run β Fault α}
    (respects : run.Respects (Run.Alone (Seen origin marks))) :
    (inTurn run).Ends (Seen origin marks) (fun _ => Seen origin marks) (Broken marks) :=
  ends respects.inTurn (.inTurn (fun fault => ⟨fault, rfl⟩) run)

omit [Backend β] in
theorem ends_note {event : Event} (silent : event.mark? = none)
    {failed : TurnError → Gateway β → Prop} :
    (note event : Run β TurnError Unit).Ends (Seen origin marks) (fun _ => Seen origin marks)
      failed :=
  .note event fun gateway seen =>
    ⟨((Quiet.single silent).trail_eq gateway).trans seen.trail, seen.keyed⟩

theorem ends_showScreen (template : String) :
    (showScreen setting turn template : Run β _ _).Ends (Seen origin marks)
      (fun _ => Seen origin marks) (Broken marks) :=
  Seen.ends ((Seen.scope ..).respects_showScreen template)
    (failsOnly_showScreen (fun fault => ⟨fault, rfl⟩) template)

theorem ends_sessionData :
    (inTurn (sessionData setting turn.session.id) : Run β _ _).Ends (Seen origin marks)
      (fun _ => Seen origin marks) (Broken marks) :=
  Seen.ends_inTurn ((Seen.scope origin marks _ "" "").respects_sessionData)

theorem ends_keepEntry (name : String) (value : Json) :
    (inTurn (keepEntry setting turn.session.id name value) : Run β _ _).Ends (Seen origin marks)
      (fun _ => Seen origin marks) (Broken marks) :=
  Seen.ends_inTurn ((Seen.scope origin marks _ "" "").respects_keepEntry trivial)

theorem ends_checkInput (input : String) (rule : ValidationRule) :
    (checkInput input rule : Run β TurnError _).Ends (Seen origin marks)
      (fun _ => Seen origin marks) (Broken marks) :=
  Seen.ends ((Seen.scope origin marks "" "" "").respects_checkInput input rule)
    ((Run.FailsOnly.noteAll _).bind fun _ => .pure _)

theorem ends_firstHolding? (data : Json) (transitions : List Transition) :
    (firstHolding? data transitions : Run β _ _).Ends (Seen origin marks)
      (fun found gateway => (∀ transition ∈ found, transition ∈ transitions) ∧
        Seen origin marks gateway)
      (Broken marks) := by
  intro gateway seen
  have scope := Seen.scope (β := β) origin marks "" "" ""
  have ended := Seen.ends (scope.respects_firstHolding? data transitions)
    (failsOnly_firstHolding? data transitions) gateway seen
  rcases ran : (firstHolding? data transitions : Run β TurnError _).on gateway
    with ⟨error | found, final⟩ <;> rw [ran] at ended
  · exact ended
  · refine ⟨?_, ended⟩
    rintro transition rfl
    exact mem_of_firstHolding? ran

theorem ends_runAction (action : Action) :
    (runAction setting turn action : Run β _ _).Ends (Seen origin marks)
      (fun _ => Seen origin (marks ++ [.started action])) (Broken marks) := by
  have performs : (performAction setting turn action : Run β _ _).Ends
      (Seen origin (marks ++ [.started action])) (fun _ => Seen origin (marks ++ [.started action]))
      (Broken (marks ++ [.started action])) := by
    have permitted : action.KeepsOnly Permit.quiet.keeps := Permit.actions.kept action trivial
    exact Seen.ends ((Seen.scope ..).respects_performAction permitted)
      (failsOnly_performAction (fun fault => ⟨fault, rfl⟩) action)
  rw [runAction_eq]
  refine (Run.Ends.note _ fun gateway seen => seen.note rfl).bind fun _ => ?_
  exact performs.mono (fun _ _ seen => seen) fun _ _ => Broken.of_started

theorem ends_runActions (actions : List Action) :
    (runActions setting turn actions : Run β _ _).Ends (Seen origin marks)
      (fun _ => Seen origin (marks ++ startMarks actions)) (Broken marks) := by
  induction actions generalizing marks with
  | nil => exact .pure _ fun _ seen => by simpa [startMarks] using seen
  | cons action rest induction =>
      have others : (runActions setting turn rest : Run β _ _).Ends
          (Seen origin (marks ++ [.started action]))
          (fun _ => Seen origin (marks ++ startMarks (action :: rest))) (Broken marks) := by
        refine induction.mono (fun _ _ seen => ?_) fun _ _ => Broken.of_started
        simpa [startMarks] using seen
      unfold runActions
      refine (ends_runAction action).bind fun outcome => ?_
      cases outcome with
      | succeeded => exact others
      | failed reason => exact (ends_note rfl).bind fun _ => others

theorem ends_finish (state : State) :
    (finish setting turn state : Run β _ _).Ends (Seen origin marks)
      (fun screen gateway => screen.stateId = state.id ∧
        Seen origin (marks ++ startMarks state.primary) gateway)
      (Broken marks) := by
  unfold finish
  cases effective : state.effectiveAction? with
  | none =>
      have nothing : marks ++ startMarks state.primary = marks := by
        simp [State.primary, effective, startMarks]
      rw [nothing]
      dsimp only
      rw [pure_bind]
      exact (ends_showScreen _).bind fun _ => .pure _ fun _ seen => ⟨rfl, seen⟩
  | some action =>
      have started : startMarks state.primary = [.started action] := by
        simp [State.primary, effective, startMarks]
      have shows : (showScreen setting turn state.message : Run β _ _).Ends
          (Seen origin (marks ++ [.started action]))
          (fun _ => Seen origin (marks ++ [.started action])) (Broken marks) :=
        (ends_showScreen _).mono (fun _ _ seen => seen) fun _ _ => Broken.of_started
      rw [started]
      refine (ends_runAction action).bind fun outcome => ?_
      cases outcome with
      | succeeded => exact shows.bind fun _ => .pure _ fun _ seen => ⟨rfl, seen⟩
      | failed reason => exact (ends_note rfl).bind fun _ => .pure _ fun _ seen => ⟨rfl, seen⟩

end Actions

/-! ## Parts of a turn -/

/-- Since the marks were seen, the states from the given one on have been visited up to that of the
screen. There was `room` for as many processing states. -/
def Arrived (origin : SessionStore) (turn : Turn) (room : Nat) (state : State) (marks : List Mark)
    (around : List Mark → List Mark) (screen : Screen) (gateway : Gateway β) : Prop :=
  ∃ visits last, Route turn.definition state visits last ∧
    enteredIds gateway.trail = enteredIds marks ++ visits.map State.id ∧
    processed visits ≤ room ∧ screen.stateId = last.id ∧
    Seen origin (around (visitMarks visits)) gateway

/-- The session has just been moved to the state, and nothing else has happened since. -/
structure JustEntered (origin : SessionStore) (turn : Turn) (state : State)
    (gateway : Gateway β) : Prop where
  noted : gateway.log.getLast? = some (.stateEntered turn.session.id state.id)
  stored : origin.Keyed →
    (Table.get? gateway.sessions turn.session.id).map Session.stateId = some state.id

/-- The limit does not allow to pass the state that has just been entered. -/
structure Refused (origin : SessionStore) (setting : Setting) (turn : Turn) (last : State)
    (error : TurnError) (gateway : Gateway β) : Prop where
  reason : error = .processingLoop last.id setting.engine.maxProcessingChain
  processing : last.type = .processing
  entered : JustEntered origin turn last gateway

def TurnError.isLoop : TurnError → Bool
  | .processingLoop .. => true
  | _ => false

/-- The turn has been broken off after some visits, since there was no more room or for another
reason. -/
def Stopped (origin : SessionStore) (setting : Setting) (turn : Turn) (room : Nat) (state : State)
    (marks : List Mark) (error : TurnError) (gateway : Gateway β) : Prop :=
  ∃ visits last, Route turn.definition state visits last ∧
    enteredIds gateway.trail = enteredIds marks ++ visits.map State.id ∧
    (error.isLoop = false ∧ processed visits ≤ room ∨
      Refused origin setting turn last error gateway ∧ processed visits = room + 1)

/-- The computation is what a turn does at a state once the marks have been seen; `around` gives the
marks after it, from those of the states that it goes to. -/
def Part (origin : SessionStore) (setting : Setting) (turn : Turn) (room : Nat) (state : State)
    (marks : List Mark) (around : List Mark → List Mark) (run : Run β TurnError Screen) : Prop :=
  run.Ends (Seen origin marks) (Arrived origin turn room state marks around)
    (Stopped origin setting turn room state marks)

section Parts

variable {origin : SessionStore} {setting : Setting} {turn : Turn} {room : Nat} {state : State}
  {marks : List Mark} {around : List Mark → List Mark}

omit [Backend β] in
theorem Broken.stopped {error : TurnError} {gateway : Gateway β}
    (broken : Broken marks error gateway) :
    Stopped origin setting turn room state marks error gateway := by
  rcases broken with ⟨⟨fault, rfl⟩, entered⟩
  exact ⟨[], state, .stay state, by simpa using entered, .inl ⟨rfl, Nat.zero_le _⟩⟩

namespace Part

omit [Backend β] in
theorem throw {error : TurnError} (noLoop : error.isLoop = false) :
    Part (β := β) origin setting turn room state marks around (MonadExcept.throw error) :=
  Run.Ends.throw error fun _ seen =>
    ⟨[], state, .stay state, by simp [seen.trail], .inl ⟨noLoop, Nat.zero_le _⟩⟩

omit [Backend β] in
theorem staying {run : Run β TurnError Screen}
    (ends : run.Ends (Seen origin marks)
      (fun screen gateway => screen.stateId = state.id ∧ Seen origin (around []) gateway)
      (Broken marks))
    (same : enteredIds (around []) = enteredIds marks) :
    Part origin setting turn room state marks around run := by
  refine ends.mono (fun screen gateway ⟨shown, seen⟩ => ?_) fun _ _ => Broken.stopped
  exact ⟨[], state, .stay state, by simp [seen.trail, same], Nat.zero_le _, shown, seen⟩

theorem screen (template : String) (view : String → Screen)
    (stays : ∀ message, (view message).stateId = state.id) :
    Part (β := β) origin setting turn room state marks (fun inner => marks ++ inner)
      (do return view (← showScreen setting turn template)) := by
  refine staying ((ends_showScreen template).bind fun message => .pure _ fun _ seen => ?_) (by simp)
  exact ⟨stays message, by rwa [List.append_nil]⟩

omit [Backend β] in
/-- What is done before a part of a turn without entering states. -/
theorem after {α : Type} {run : Run β TurnError α} {next : α → Run β TurnError Screen}
    {later : List Mark}
    (first : run.Ends (Seen origin marks) (fun _ => Seen origin later) (Broken marks))
    (same : enteredIds later = enteredIds marks)
    (second : ∀ value, Part origin setting turn room state later around (next value)) :
    Part origin setting turn room state marks around (run >>= next) := by
  refine Run.Ends.bind (first.mono (fun _ _ seen => seen) fun _ _ => Broken.stopped)
    fun value => (second value).mono ?_ ?_
  · rintro screen gateway ⟨visits, last, route, entered, arrives⟩
    exact ⟨visits, last, route, same ▸ entered, arrives⟩
  · rintro error gateway ⟨visits, last, route, entered, stops⟩
    exact ⟨visits, last, route, same ▸ entered, stops⟩

omit [Backend β] in
/-- What is done after a part of a turn without entering states. -/
theorem closing {run : Run β TurnError Screen} {close : Screen → Run β TurnError Unit}
    {actions : List Action} (part : Part origin setting turn room state marks around run)
    (closes : ∀ marks screen, (close screen).Ends (Seen origin marks)
      (fun _ => Seen origin (marks ++ startMarks actions)) (Broken marks)) :
    Part origin setting turn room state marks (fun inner => around inner ++ startMarks actions) (do
      let screen ← run
      close screen
      return screen) := by
  refine Run.Ends.bind part fun screen => ?_
  rintro gateway ⟨visits, last, route, entered, short, shown, seen⟩
  rw [seen.trail] at entered
  have closed : (close screen).Ends (Seen origin (around (visitMarks visits)))
      (fun _ => Seen origin (around (visitMarks visits) ++ startMarks actions))
      (Stopped origin setting turn room state marks) := by
    refine (closes _ screen).mono (fun _ _ seen => seen) ?_
    rintro error final ⟨⟨fault, rfl⟩, same⟩
    exact ⟨visits, last, route, same.trans entered, .inl ⟨rfl, short⟩⟩
  refine (closed.bind fun _ => .pure screen fun final seen => ?_) gateway seen
  exact ⟨visits, last, route, by simpa [seen.trail] using entered, short, shown, seen⟩

end Part

/-! ## Going to a state -/

/-- A move that succeeds leaves the session at the state. -/
theorem ends_move (state : State) :
    (inTurn (moveSession setting turn.session.id state.id) : Run β _ _).Ends (Seen origin marks)
      (fun _ gateway => Seen origin marks gateway ∧
        (origin.Keyed →
          (Table.get? gateway.sessions turn.session.id).map Session.stateId = some state.id))
      (Broken marks) := by
  have respects : (moveSession setting turn.session.id state.id : Run β _ _).Respects
      (Run.Alone (Seen origin marks)) := by
    refine (Seen.scope origin marks turn.session.id turn.session.phoneNumber
      turn.session.serviceCode).respects_changeSession ?_
    rintro left _ ⟨rfl, seen⟩ stored _
    exact ⟨rfl, seen.trail, fun kept => (seen.keyed kept).save _⟩
  intro gateway seen
  have ended := Seen.ends_inTurn respects gateway seen
  rcases ran : (inTurn (moveSession setting turn.session.id state.id) : Run β _ _).on gateway
    with ⟨error | moved, final⟩ <;> rw [ran] at ended
  · exact ended
  · rcases on_changeSession_eq_ok (Run.on_inTurn_eq_ok.mp ran) with ⟨stored, found, -, rfl⟩
    refine ⟨ended, fun kept => ?_⟩
    have isStored := SessionStore.get?_save_same gateway.sessions
      (stored.moveTo state.id setting.now)
    have sameId : stored.id = turn.session.id := seen.keyed kept turn.session.id stored found
    change Table.get? _ stored.id = _ at isStored
    rw [sameId] at isStored
    rw [isStored]
    rfl

section Visits

variable {next : State} (leaves : state.type ≠ .final) (leads : next.id ∈ state.targets)
  (resolves : turn.definition.state? next.id = some next)

include leaves leads resolves

omit [Backend β] in
/-- Visiting a processing state takes room for one. -/
theorem Part.visit {run : Run β TurnError Screen} (processing : next.type = .processing)
    (part : Part origin setting turn room next (marks ++ [.entered next.id])
      (fun inner => marks ++ [.entered next.id] ++ next.arrivalMarks inner) run) :
    run.Ends (Seen origin (marks ++ [.entered next.id]))
      (Arrived origin turn (room + 1) state marks fun inner => marks ++ inner)
      (Stopped origin setting turn (room + 1) state marks) := by
  have one (visits : List State) : processed (next :: visits) = processed visits + 1 :=
    List.countP_cons_of_pos (by simpa using processing)
  refine part.mono ?_ ?_
  · rintro screen gateway ⟨visits, last, route, entered, short, shown, seen⟩
    refine ⟨next :: visits, last, .go leaves leads resolves (.inl processing) route, ?_, ?_, shown,
      by simpa [visitMarks] using seen⟩
    · simpa using entered
    · rw [one]
      omega
  · rintro error gateway ⟨visits, last, route, entered, stops⟩
    refine ⟨next :: visits, last, .go leaves leads resolves (.inl processing) route, ?_, ?_⟩
    · simpa using entered
    · rw [one]
      exact stops.imp (fun ⟨noLoop, short⟩ => ⟨noLoop, by omega⟩)
        fun ⟨refused, full⟩ => ⟨refused, by omega⟩

omit [Backend β] in
/-- A state with a screen is the last one to be visited. -/
theorem Part.visitLast {run : Run β TurnError Screen} (stays : next.type ≠ .processing)
    (ends : run.Ends (Seen origin (marks ++ [.entered next.id]))
      (fun screen gateway => screen.stateId = next.id ∧
        Seen origin (marks ++ [.entered next.id] ++ next.arrivalMarks []) gateway)
      (Broken (marks ++ [.entered next.id]))) :
    run.Ends (Seen origin (marks ++ [.entered next.id]))
      (Arrived origin turn room state marks fun inner => marks ++ inner)
      (Stopped origin setting turn room state marks) := by
  have route : Route turn.definition state [next] next :=
    .go leaves leads resolves (.inr rfl) (.stay next)
  have short : processed [next] ≤ room := by simp [processed, stays]
  refine ends.mono (fun screen gateway ⟨shown, seen⟩ => ?_) ?_
  · refine ⟨[next], next, route, ?_, short, shown, by simpa [visitMarks] using seen⟩
    rw [seen.trail]
    simp [enteredIds_arrivalMarks]
  · rintro error gateway ⟨⟨fault, rfl⟩, entered⟩
    exact ⟨[next], next, route, by simpa using entered, .inl ⟨rfl, short⟩⟩

end Visits

/-- What passing a processing state has to come to once a state has led to it. -/
def Passes (origin : SessionStore) (setting : Setting) (turn : Turn) (room : Nat)
    (pass : State → Run β TurnError Screen) : Prop :=
  ∀ state next marks, state.type ≠ .final → next.id ∈ state.targets →
    turn.definition.state? next.id = some next → next.type = .processing →
      (pass next).Ends
        (fun gateway => Seen origin (marks ++ [.entered next.id]) gateway ∧
          JustEntered origin turn next gateway)
        (Arrived origin turn room state marks fun inner => marks ++ inner)
        (Stopped origin setting turn room state marks)

/-! ## Processing states -/

section Chain

variable {pass : State → Run β TurnError Screen} (passing : Passes origin setting turn room pass)

include passing

theorem part_goTo (leaves : state.type ≠ .final) {target : String} (leads : target ∈ state.targets)
    (message : Option String) :
    Part origin setting turn room state marks (fun inner => marks ++ inner)
      (goTo setting turn pass target message) := by
  unfold goTo requireState
  cases resolves : turn.definition.state? target with
  | none => exact .throw rfl
  | some next =>
      rw [← Definition.state?_id resolves] at leads resolves
      have entering : (note (.stateEntered turn.session.id next.id) : Run β TurnError Unit).Ends
          (fun gateway => Seen origin marks gateway ∧
            (origin.Keyed →
              (Table.get? gateway.sessions turn.session.id).map Session.stateId = some next.id))
          (fun _ gateway => Seen origin (marks ++ [.entered next.id]) gateway ∧
            JustEntered origin turn next gateway)
          (Stopped origin setting turn room state marks) :=
        .note _ fun gateway ⟨seen, stored⟩ => ⟨seen.note rfl, List.getLast?_concat, stored⟩
      rw [pure_bind]
      refine Run.Ends.bind ((ends_move next).mono (fun _ _ moved => moved)
        fun _ _ => Broken.stopped) fun _ => entering.bind fun _ => ?_
      split
      · rename_i processing
        exact passing state next marks leaves leads resolves processing
      · rename_i final
        have stays : next.type ≠ .processing := by rw [final]; exact nofun
        refine (Part.visitLast leaves leads resolves stays ?_).left
        simpa only [State.arrivalMarks, final] using ends_finish next
      · rename_i stays notFinal
        refine (Part.visitLast leaves leads resolves stays ?_).left
        rw [State.arrivalMarks_of_ne stays notFinal, List.append_nil]
        exact (ends_showScreen _).bind fun _ => .pure _ fun _ seen => ⟨rfl, seen⟩

theorem part_followExpression (leaves : state.type ≠ .final) {otherwise : TurnError}
    (noLoop : otherwise.isLoop = false) :
    Part origin setting turn room state marks (fun inner => marks ++ inner)
      (followExpression setting turn pass state otherwise) := by
  unfold followExpression
  refine .after ends_sessionData rfl fun data => ?_
  refine Run.Ends.bind ((ends_firstHolding? data state.transitions).mono
    (fun _ _ found => found) fun _ _ => Broken.stopped) fun found => .given fun isOwn => ?_
  cases found with
  | none => exact Part.throw noLoop
  | some transition =>
      exact part_goTo passing leaves (State.nextState_mem_targets (isOwn transition rfl)) _

theorem part_process (processing : state.type = .processing) :
    Part origin setting turn room state marks
      (fun inner => marks ++ (startMarks state.primary ++ inner))
      (process setting turn pass state) := by
  have leaves : state.type ≠ .final := by rw [processing]; exact nofun
  unfold process
  cases effective : state.effectiveAction? with
  | none =>
      have nothing : startMarks state.primary = [] := by
        simp [State.primary, effective, startMarks]
      simp only [nothing, List.nil_append]
      exact part_followExpression passing leaves rfl
  | some action =>
      have started : startMarks state.primary = [.started action] := by
        simp [State.primary, effective, startMarks]
      simp only [started, ← List.append_assoc]
      refine .after (ends_runAction action) (by simp) fun outcome => ?_
      split
      · rename_i target leads
        exact part_goTo passing leaves (outcomeTarget?_mem_targets effective leads) none
      · exact part_followExpression passing leaves rfl
      · refine .staying ((ends_note rfl).bind fun _ => .pure _ fun _ seen => ⟨rfl, ?_⟩) (by simp)
        rwa [List.append_nil]

end Chain

/-- Passing a processing state, when there is room for it. -/
theorem part_passState {remaining : Nat}
    (passing : Passes (β := β) origin setting turn remaining (passState setting turn remaining))
    (processing : state.type = .processing) :
    Part (β := β) origin setting turn remaining state marks
      (fun inner => marks ++ state.arrivalMarks inner)
      (passState setting turn (remaining + 1) state) := by
  have around (inner : List Mark) : marks ++ state.arrivalMarks inner =
      marks ++ startMarks state.preActions ++ (startMarks state.primary ++ inner)
        ++ startMarks state.postActions := by
    simp [State.arrivalMarks, processing]
  simp only [around]
  refine .after (ends_runActions state.preActions) (by simp) fun _ => ?_
  exact (part_process passing processing).closing fun _ _ => ends_runActions _

theorem passes_passState (remaining : Nat) :
    Passes (β := β) origin setting turn remaining (passState setting turn remaining) := by
  induction remaining with
  | zero =>
      rintro state next marks leaves leads resolves processing gateway ⟨seen, entered⟩
      refine ⟨[next], next, .go leaves leads resolves (.inr rfl) (.stay next),
        by simp [seen.trail], .inr ⟨⟨rfl, processing, entered⟩, ?_⟩⟩
      simp [processed, processing]
  | succ remaining induction =>
      intro state next marks leaves leads resolves processing
      exact (Part.visit leaves leads resolves processing (part_passState induction processing)).left

/-! ## Answers -/

section Answers

variable (leaves : state.type ≠ .final)

include leaves

theorem part_follow {transition : Transition} (isOwn : transition ∈ state.transitions) :
    Part (β := β) origin setting turn setting.engine.maxProcessingChain state marks
      (fun inner => marks ++ inner) (follow setting turn (passFirst setting turn) transition) :=
  part_goTo (passes_passState _) leaves (State.nextState_mem_targets isOwn) _

theorem part_answerMenu (input : String) :
    Part (β := β) origin setting turn setting.engine.maxProcessingChain state marks
      (fun inner => marks ++ inner) (answerMenu setting turn state input) := by
  unfold answerMenu
  split
  · exact .screen _ _ fun _ => rfl
  · split
    · exact (ends_note rfl).bind fun _ => Part.screen _ _ fun _ => rfl
    · rename_i transition chosen
      have isOwn : transition ∈ state.transitions := List.mem_of_find?_eq_some chosen
      split
      · exact .after (ends_keepEntry _ _) rfl fun _ => part_follow leaves isOwn
      · exact part_follow leaves isOwn

theorem part_acceptInput (input : String) :
    Part (β := β) origin setting turn setting.engine.maxProcessingChain state marks
      (fun inner => marks ++ inner) (acceptInput setting turn state input) := by
  unfold acceptInput
  cases found : state.transitionFor? .valid with
  | some transition =>
      have isOwn : transition ∈ state.transitions := State.transitionFor?_mem found
      cases state.storeAs with
      | some name => exact .after (ends_keepEntry _ _) rfl fun _ => part_follow leaves isOwn
      | none => exact part_follow leaves isOwn
  | none =>
      cases state.storeAs with
      | some name => exact .after (ends_keepEntry _ _) rfl fun _ => .throw rfl
      | none => exact .throw rfl

theorem part_answerInput (input : String) :
    Part (β := β) origin setting turn setting.engine.maxProcessingChain state marks
      (fun inner => marks ++ inner) (answerInput setting turn state input) := by
  unfold answerInput
  split
  · rename_i chosen
    exact part_follow leaves (List.mem_of_find?_eq_some chosen)
  · split
    · split
      · exact .screen _ _ fun _ => rfl
      · exact part_acceptInput leaves input
    · refine .after (ends_checkInput input _) rfl fun verdict => ?_
      cases verdict with
      | ok _ => exact part_acceptInput leaves input
      | error refusal => exact (ends_note rfl).bind fun _ => Part.screen _ _ fun _ => rfl

end Answers

/-! ## Turns -/

/-- How many processing states a turn may pass after its first state. -/
def Setting.roomAfter (setting : Setting) (state : State) : Nat :=
  setting.engine.maxProcessingChain - processed [state]

theorem Setting.roomAfter_of_ne (setting : Setting) (notProcessing : state.type ≠ .processing) :
    setting.roomAfter state = setting.engine.maxProcessingChain := by
  simp [roomAfter, processed, notProcessing]

theorem Setting.roomAfter_of_processing (setting : Setting)
    (processing : state.type = .processing) :
    setting.roomAfter state = setting.engine.maxProcessingChain - 1 := by
  simp [roomAfter, processed, processing]

theorem part_answerState (input : String) :
    Part (β := β) origin setting turn (setting.roomAfter state) state marks
      (fun inner => marks ++ state.answerMarks inner) (answerState setting turn state input) := by
  unfold answerState State.answerMarks
  cases type : state.type with
  | processing =>
      rw [setting.roomAfter_of_processing type]
      exact part_process (passes_passState _) type
  | final => exact .staying (ends_finish state) (by simp)
  | menu =>
      rw [setting.roomAfter_of_ne (by rw [type]; exact nofun)]
      exact part_answerMenu (by rw [type]; exact nofun) input
  | display =>
      rw [setting.roomAfter_of_ne (by rw [type]; exact nofun)]
      exact part_answerMenu (by rw [type]; exact nofun) input
  | input =>
      rw [setting.roomAfter_of_ne (by rw [type]; exact nofun)]
      exact part_answerInput (by rw [type]; exact nofun) input

end Parts

section Turns

variable {origin : SessionStore} {setting : Setting} {definition : Definition} {session : Session}
  {state : State} {marks : List Mark}

theorem part_answerTurn (resolved : definition.state? session.stateId = some state)
    (input : String) :
    Part (β := β) origin setting ⟨definition, session⟩ (setting.roomAfter state) state marks
      (fun inner => marks ++ startMarks state.preActions ++ state.answerMarks inner
        ++ startMarks state.postActions)
      (answerTurn setting definition session input) := by
  have answers : Part (β := β) origin setting ⟨definition, session⟩ (setting.roomAfter state) state
      (marks ++ startMarks state.preActions)
      (fun inner => marks ++ startMarks state.preActions ++ state.answerMarks inner)
      (answerState setting ⟨definition, session⟩ state input) := part_answerState input
  let close (screen : Screen) : Run β TurnError Unit := do
    runActions setting ⟨definition, session⟩ state.postActions
    note (.turnCompleted session.id state.id screen.stateId screen.continues)
  have closes (marks : List Mark) (screen : Screen) : (close screen).Ends (Seen origin marks)
      (fun _ => Seen origin (marks ++ startMarks state.postActions)) (Broken marks) :=
    (ends_runActions _).bind fun _ => ends_note rfl
  unfold answerTurn requireState
  simp only [resolved, pure_bind]
  refine (ends_note rfl).bind fun _ => ?_
  refine Part.after (ends_runActions state.preActions) (by simp) fun _ => ?_
  simpa only [close, bind_assoc] using answers.closing closes

theorem ends_startState? (definition : Definition) (session : Session)
    (failed : TurnError → Gateway β → Prop) :
    (startState? definition : Run β TurnError _).Ends (Seen origin marks)
      (fun found gateway => found = definition.initialState? ∧ Seen origin marks gateway)
      failed := by
  intro gateway seen
  have scope := Seen.scope (β := β) origin marks session.id session.phoneNumber session.serviceCode
  have respects : (startState? definition : Run β TurnError _).Respects _ :=
    scope.respects_startState?
  have kept := respects.keeps gateway seen
  rcases on_startState? (ε := TurnError) definition gateway with ⟨events, finds⟩
  rw [finds] at kept ⊢
  exact ⟨rfl, kept⟩

/-- A processing state in which sessions start needs room like others. -/
theorem part_startTurn (isInitial : definition.initialState? = some state)
    (allows : state.type = .processing → 0 < setting.engine.maxProcessingChain) :
    Part (β := β) origin setting ⟨definition, session⟩ (setting.roomAfter state) state marks
      (fun inner => marks ++ state.arrivalMarks inner) (startTurn setting definition session) := by
  unfold startTurn
  refine Run.Ends.bind (ends_startState? definition session _) fun found => .given fun isFound => ?_
  rw [isFound, isInitial]
  refine (ends_note rfl).bind fun _ => ?_
  split
  · rename_i processing
    have one : setting.engine.maxProcessingChain = setting.engine.maxProcessingChain - 1 + 1 :=
      (Nat.sub_add_cancel (allows processing)).symm
    rw [setting.roomAfter_of_processing processing, passFirst, one]
    exact part_passState (passes_passState _) processing
  · rename_i final
    refine Part.staying ?_ (by simp [State.arrivalMarks, final])
    simpa only [State.arrivalMarks, final] using ends_finish state
  · rename_i notProcessing notFinal
    have nothing := State.arrivalMarks_of_ne notProcessing notFinal []
    refine Part.staying ?_ (by simp [nothing])
    rw [nothing, List.append_nil]
    exact (ends_showScreen _).bind fun _ => .pure _ fun _ seen => ⟨rfl, seen⟩

/-- Without room, no session can start in a processing state. -/
theorem ends_startTurn_of_zero (isInitial : definition.initialState? = some state)
    (processing : state.type = .processing) (noRoom : setting.engine.maxProcessingChain = 0) :
    (startTurn setting definition session : Run β _ _).Ends (Seen origin marks)
      (fun _ _ => False) (fun _ _ => True) := by
  unfold startTurn
  refine (ends_startState? definition session _).bind fun found => .given fun isFound => ?_
  rw [isFound, isInitial]
  refine (ends_note rfl).bind fun _ => ?_
  rw [processing, passFirst, noRoom]
  exact .throw _ fun _ _ => trivial

theorem on_startTurn_of_none (empty : definition.initialState? = none) (gateway : Gateway β) :
    (startTurn setting definition session).on gateway =
      (.error (.emptyDefinition definition.serviceCode), gateway) := by
  have chooses : (startState? definition : Run β TurnError _).on gateway = (.ok none, gateway) := by
    unfold startState?
    rw [empty]
    split
    · simp only [Option.toList_none, List.map_nil, Run.on_bind, Run.on_noteAll, List.append_nil,
        Run.on_pure]
    · rfl
  unfold startTurn
  rw [Run.on_bind_of_ok chooses]
  rfl

theorem on_answerTurn_of_none (unresolved : definition.state? session.stateId = none)
    (input : String) (gateway : Gateway β) :
    (answerTurn setting definition session input).on gateway =
      (.error (.unknownState session.stateId), gateway) := by
  unfold answerTurn requireState
  simp only [unresolved]
  rfl

omit [Backend β] in
theorem Seen.refl (gateway : Gateway β) : Seen gateway.sessions gateway.trail gateway :=
  ⟨rfl, fun keyed => keyed⟩

end Turns

end Ussd
