import Ussd.Gateway.Turn
import Ussd.Proofs.Services
import Ussd.Proofs.Sessions
import Ussd.Proofs.Stores
import Ussd.Proofs.Trail

/-! # The scope of a turn

A turn works on one session and on the records of its phone number and service. `WorkScope` lists
what the turn does to a gateway there, as far as a permit allows it; a relation between gateways
with these properties is respected by every action and by every turn that keep to the permit.
Nothing else that a gateway holds is mentioned, so an instance is all that a frame, an invariant or
a comparison of two runs needs. `ActionScope` and `TurnScope` are the cases in which any action may
be started. -/

namespace Ussd

variable {β : Type} [Backend β]

/-- What an action does once it has been started. -/
def performAction (setting : Setting) (turn : Turn) : Action → Run β TurnError ActionOutcome
  | .call request => runCall setting turn request
  | .access operation target => runAccess setting turn operation target
  | .nothing => return .succeeded

theorem runAction_eq (setting : Setting) (turn : Turn) (action : Action) :
    (runAction setting turn action : Run β TurnError ActionOutcome) = (do
      note (.actionStarted turn.session.id action)
      performAction setting turn action) := by
  cases action <;> rfl

/-! ## Permits -/

/-- All entries that the call keeps in the session are of this kind. -/
structure ApiCall.KeepsOnly (call : ApiCall) (keeps : String → Json → Prop) : Prop where
  mapped : ∀ mapping ∈ call.onSuccess.bind CallOutcome.responseMapping, ∀ entry ∈ mapping,
    ∀ value, keeps entry.1 value
  failure : ∀ reason, keeps errorKey (.text reason)

/-- What is loaded is kept under a name of the service's, or else under that of the record, which
may be any. -/
def RecordAccess.KeepsOnly (target : RecordAccess) (keeps : String → Json → Prop) : Prop :=
  ∀ name value, keeps (target.storeAs.getD name) value

/-- All entries that the action keeps in the session are of this kind. -/
def Action.KeepsOnly (keeps : String → Json → Prop) : Action → Prop
  | .call request => request.KeepsOnly keeps
  | .access .load target => target.KeepsOnly keeps
  | _ => True

/-- What a turn may do: the actions that it may start, the states that it may enter and the entries
that it may keep in its session, among them those of the actions. -/
structure Permit where
  starts : Action → Prop
  enters : State → Prop
  keeps : String → Json → Prop
  kept : ∀ action, starts action → action.KeepsOnly keeps

/-- All actions of a state. -/
def State.actions (state : State) : List Action :=
  state.preActions ++ state.action.toList ++ state.postActions

/-- The permit allows what turns do at the state. -/
structure Permit.Covers (permit : Permit) (state : State) : Prop where
  entered : permit.enters state
  started : ∀ action ∈ state.actions, permit.starts action
  chosen : state.type = .menu ∨ state.type = .display → ∀ transition ∈ state.transitions,
    ∀ value ∈ transition.value, ∀ name ∈ state.storeAs, permit.keeps name value
  answered : state.type = .input → ∀ input,
    (∀ rule ∈ state.validation, Validation.checkRule input rule = .ok ()) →
      ∀ name ∈ state.storeAs, permit.keeps name (.text (trimmed input))

namespace Permit

/-- Everything but entering states is allowed. -/
def actions : Permit where
  starts _ := True
  enters _ := False
  keeps _ _ := True
  kept
    | .call _, _ => ⟨fun _ _ _ _ _ => trivial, fun _ => trivial⟩
    | .access .load _, _ => fun _ _ => trivial
    | .access .save _, _ | .access .append _, _ | .access .delete _, _ | .nothing, _ => trivial

/-- Everything is allowed. -/
def all : Permit := { actions with enters _ := True }

theorem all_covers (state : State) : all.Covers state where
  entered := trivial
  started _ _ := trivial
  chosen _ _ _ _ _ _ _ := trivial
  answered _ _ _ _ _ := trivial

end Permit

/-! ## Where a state leads -/

theorem State.nextState_mem_targets {state : State} {transition : Transition}
    (member : transition ∈ state.transitions) : transition.nextState ∈ state.targets :=
  List.mem_append_left _ (List.mem_map_of_mem member)

theorem State.transitionFor?_mem {state : State} {outcome : Outcome} {transition : Transition}
    (found : state.transitionFor? outcome = some transition) : transition ∈ state.transitions :=
  List.mem_of_find?_eq_some found

/-- The state that a call names for its outcome is one of those that its state leads to. -/
theorem outcomeTarget?_mem_targets {state : State} {action : Action}
    (effective : state.effectiveAction? = some action) {succeeded : Bool} {target : String}
    (leads : outcomeTarget? state action succeeded = some target) : target ∈ state.targets := by
  have own : state.action = some action := (Option.filter_eq_some_iff.mp effective).1
  unfold outcomeTarget? at leads
  rcases Option.or_eq_some_iff.mp leads with named | ⟨-, routed⟩
  · rcases action with request | _ | _
    · refine List.mem_append_right _ ?_
      simp only [own, List.mem_filterMap]
      cases succeeded with
      | true => exact ⟨request.onSuccess, by simp, named⟩
      | false => exact ⟨request.onError, by simp, named⟩
    · cases named
    · cases named
  · rcases Option.map_eq_some_iff.mp routed with ⟨transition, found, rfl⟩
    exact State.nextState_mem_targets (State.transitionFor?_mem found)

omit [Backend β] in
theorem mem_of_firstHolding? [Evaluator β] {data : Json} {transitions : List Transition}
    {gateway final : Gateway β} {transition : Transition}
    (finds : (firstHolding? data transitions : Run β TurnError _).on gateway =
      (.ok (some transition), final)) : transition ∈ transitions := by
  induction transitions generalizing gateway with
  | nil => cases finds
  | cons head rest induction =>
      unfold firstHolding? at finds
      split at finds
      · exact List.mem_cons_of_mem _ (induction finds)
      · rcases Run.on_bind_eq_ok.mp finds with ⟨holds, middle, -, goesOn⟩
        cases holds with
        | true =>
            cases goesOn
            exact List.mem_cons_self
        | false => exact List.mem_cons_of_mem _ (induction goesOn)

/-! ## Zones -/

/-- The permit covers the states of the zone, and a state of the zone leads to no other ones. -/
structure Permit.Zone (permit : Permit) (definition : Definition) (zone : State → Prop) : Prop where
  covers : ∀ state, zone state → permit.Covers state
  closed : ∀ state, zone state → ∀ target ∈ state.targets, ∀ next,
    definition.state? target = some next → zone next

/-- All states of a definition are a zone. -/
theorem Permit.Zone.states {permit : Permit} {definition : Definition}
    (covers : ∀ state ∈ definition.states, permit.Covers state) :
    permit.Zone definition (· ∈ definition.states) where
  covers := covers
  closed _ _ _ _ _ found := List.mem_of_find?_eq_some found

/-! ## Scopes -/

/-- A relation that holds on to what the permit allows to do for a session of this identity. -/
structure WorkScope (permit : Permit) (related : Gateway β → Gateway β → Prop)
    (id phoneNumber serviceCode : String) : Prop where
  noted : ∀ left right, related left right → ∀ events, Quiet events →
    related { left with log := left.log ++ events } { right with log := right.log ++ events }
  started : ∀ left right, related left right → ∀ action, permit.starts action →
    related { left with log := left.log ++ [.actionStarted id action] }
      { right with log := right.log ++ [.actionStarted id action] }
  entered : ∀ left right, related left right → ∀ state, permit.enters state →
    related { left with log := left.log ++ [.stateEntered id state.id] }
      { right with log := right.log ++ [.stateEntered id state.id] }
  session : ∀ left right, related left right →
    Table.get? left.sessions id = Table.get? right.sessions id
  merged : ∀ left right, related left right → ∀ stored, Table.get? left.sessions id = some stored →
    ∀ entries, (∀ entry ∈ entries, permit.keeps entry.1 entry.2) → ∀ now,
      related { left with sessions := left.sessions.save (stored.merge entries now) }
        { right with sessions := right.sessions.save (stored.merge entries now) }
  moved : ∀ left right, related left right → ∀ stored, Table.get? left.sessions id = some stored →
    ∀ state, permit.enters state → ∀ now,
      related { left with sessions := left.sessions.save (stored.moveTo state.id now) }
        { right with sessions := right.sessions.save (stored.moveTo state.id now) }
  sent : ∀ left right, related left right → ∀ timing config call request,
    ∃ failed response leftBackend rightBackend,
      send timing config call request left.backend = ⟨failed, response, leftBackend⟩ ∧
      send timing config call request right.backend = ⟨failed, response, rightBackend⟩ ∧
      related { left with backend := leftBackend } { right with backend := rightBackend }
  record : ∀ left right, related left right → ∀ name,
    RecordStore.get? left.records { phoneNumber, serviceCode, name } =
      RecordStore.get? right.records { phoneNumber, serviceCode, name }
  put : ∀ left right, related left right → ∀ name value,
    related
      { left with records := RecordStore.put left.records { phoneNumber, serviceCode, name } value }
      { right with
        records := RecordStore.put right.records { phoneNumber, serviceCode, name } value }
  removed : ∀ left right, related left right → ∀ name,
    related
      { left with records := RecordStore.remove left.records { phoneNumber, serviceCode, name } }
      { right with records := RecordStore.remove right.records { phoneNumber, serviceCode, name } }

/-- A relation that holds on to what actions do for a session of this identity. -/
structure ActionScope (related : Gateway β → Gateway β → Prop)
    (id phoneNumber serviceCode : String) : Prop where
  noted : ∀ left right, related left right → ∀ events,
    related { left with log := left.log ++ events } { right with log := right.log ++ events }
  session : ∀ left right, related left right →
    Table.get? left.sessions id = Table.get? right.sessions id
  merged : ∀ left right, related left right → ∀ stored, Table.get? left.sessions id = some stored →
    ∀ entries now,
      related { left with sessions := left.sessions.save (stored.merge entries now) }
        { right with sessions := right.sessions.save (stored.merge entries now) }
  sent : ∀ left right, related left right → ∀ timing config call request,
    ∃ failed response leftBackend rightBackend,
      send timing config call request left.backend = ⟨failed, response, leftBackend⟩ ∧
      send timing config call request right.backend = ⟨failed, response, rightBackend⟩ ∧
      related { left with backend := leftBackend } { right with backend := rightBackend }
  record : ∀ left right, related left right → ∀ name,
    RecordStore.get? left.records { phoneNumber, serviceCode, name } =
      RecordStore.get? right.records { phoneNumber, serviceCode, name }
  put : ∀ left right, related left right → ∀ name value,
    related
      { left with records := RecordStore.put left.records { phoneNumber, serviceCode, name } value }
      { right with
        records := RecordStore.put right.records { phoneNumber, serviceCode, name } value }
  removed : ∀ left right, related left right → ∀ name,
    related
      { left with records := RecordStore.remove left.records { phoneNumber, serviceCode, name } }
      { right with records := RecordStore.remove right.records { phoneNumber, serviceCode, name } }

/-- A relation that also holds on to moving the session to another state. -/
structure TurnScope (related : Gateway β → Gateway β → Prop)
    (id phoneNumber serviceCode : String) : Prop
    extends ActionScope related id phoneNumber serviceCode where
  moved : ∀ left right, related left right → ∀ stored, Table.get? left.sessions id = some stored →
    ∀ stateId now,
      related { left with sessions := left.sessions.save (stored.moveTo stateId now) }
        { right with sessions := right.sessions.save (stored.moveTo stateId now) }

variable {related : Gateway β → Gateway β → Prop} {id phoneNumber serviceCode : String}
  {permit : Permit} {ε : Type} {setting : Setting} {turn : Turn}

omit [Backend β] in
theorem Run.Respects.requireState {α : Type} (turn : Turn) (target : String)
    {next : State → Run β TurnError α}
    (known : ∀ state, turn.definition.state? target = some state → (next state).Respects related) :
    (Ussd.requireState turn target >>= next).Respects related := by
  unfold Ussd.requireState
  cases resolved : turn.definition.state? target with
  | none => exact fun left right holds => ⟨rfl, holds⟩
  | some state =>
      rw [pure_bind]
      exact known state resolved

namespace WorkScope

/-! ## Notes and texts -/

theorem respects_noteAll (scope : WorkScope permit related id phoneNumber serviceCode)
    {events : List Event} (quiet : Quiet events) :
    (noteAll events : Run β ε Unit).Respects related :=
  fun left right holds => ⟨rfl, scope.noted left right holds events quiet⟩

theorem respects_note (scope : WorkScope permit related id phoneNumber serviceCode)
    {event : Event} (silent : event.mark? = none) : (note event : Run β ε Unit).Respects related :=
  scope.respects_noteAll (.single silent)

theorem respects_showMessage (scope : WorkScope permit related id phoneNumber serviceCode)
    (template : String) (data : Json) :
    (showMessage template data : Run β ε String).Respects related := by
  refine (scope.respects_noteAll ?_).bind fun _ => .pure _
  split
  · exact .single rfl
  · exact .map (fun _ => rfl) _

theorem respects_fillTemplate (scope : WorkScope permit related id phoneNumber serviceCode)
    (template : String) (data : Json) :
    (fillTemplate template data : Run β ε String).Respects related :=
  (scope.respects_noteAll (.map (fun _ => rfl) _)).bind fun _ => .pure _

theorem respects_fillValue (scope : WorkScope permit related id phoneNumber serviceCode)
    (template data : Json) : (fillValue template data : Run β ε Json).Respects related :=
  (scope.respects_noteAll (.map (fun _ => rfl) _)).bind fun _ => .pure _

theorem respects_testCondition (scope : WorkScope permit related id phoneNumber serviceCode)
    (condition : String) (data : Json) :
    (testCondition condition data : Run β ε Bool).Respects related := by
  refine (scope.respects_noteAll ?_).bind fun _ => .pure _
  split
  · exact .single rfl
  · exact .single rfl
  · exact .nil

theorem respects_checkInput (scope : WorkScope permit related id phoneNumber serviceCode)
    (input : String) (rule : ValidationRule) :
    (checkInput input rule : Run β ε (Except Validation.Refusal Unit)).Respects related :=
  (scope.respects_noteAll (.map (fun _ => rfl) _)).bind fun _ => .pure _

theorem respects_firstHolding? (scope : WorkScope permit related id phoneNumber serviceCode)
    (data : Json) (transitions : List Transition) :
    (firstHolding? data transitions : Run β TurnError (Option Transition)).Respects related := by
  induction transitions with
  | nil => exact .pure _
  | cons transition rest induction =>
      unfold firstHolding?
      split
      · exact induction
      · refine (scope.respects_testCondition _ _).bind fun holds => ?_
        cases holds with
        | true => exact .pure _
        | false => exact induction

/-! ## The session -/

theorem respects_storedSession? (scope : WorkScope permit related id phoneNumber serviceCode) :
    (storedSession? setting id : Run β Fault (Option Session)).Respects related := by
  refine (Run.Respects.requireOrder _ _).bind fun _ left right holds => ?_
  exact ⟨congrArg Except.ok (scope.session left right holds), holds⟩

theorem respects_requireSession (scope : WorkScope permit related id phoneNumber serviceCode) :
    (requireSession setting id : Run β Fault Session).Respects related := by
  refine scope.respects_storedSession?.bind fun stored => ?_
  cases stored with
  | some session => exact .pure _
  | none => exact .throw _

theorem respects_sessionData (scope : WorkScope permit related id phoneNumber serviceCode) :
    (sessionData setting id : Run β Fault Json).Respects related :=
  scope.respects_requireSession.bind fun _ => .pure _

theorem respects_changeSession (scope : WorkScope permit related id phoneNumber serviceCode)
    {change : Session → Session}
    (changed : ∀ left right, related left right → ∀ stored,
      Table.get? left.sessions id = some stored →
        related { left with sessions := left.sessions.save (change stored) }
          { right with sessions := right.sessions.save (change stored) }) :
    (changeSession setting id change : Run β Fault Session).Respects related := by
  intro left right holds
  rw [on_changeSession, on_changeSession, ← scope.session left right holds]
  cases setting.outage .findSession with
  | some reason => exact ⟨rfl, holds⟩
  | none =>
      cases found : Table.get? left.sessions id with
      | none => exact ⟨rfl, holds⟩
      | some stored =>
          cases setting.outage .saveSession with
          | some reason => exact ⟨rfl, holds⟩
          | none => exact ⟨rfl, changed left right holds stored found⟩

theorem respects_merge (scope : WorkScope permit related id phoneNumber serviceCode)
    {entries : Fields} (permitted : ∀ entry ∈ entries, permit.keeps entry.1 entry.2) :
    (changeSession setting id (·.merge entries setting.now) : Run β Fault Session).Respects
      related :=
  scope.respects_changeSession fun left right holds stored found =>
    scope.merged left right holds stored found entries permitted setting.now

theorem respects_keepEntry (scope : WorkScope permit related id phoneNumber serviceCode)
    {name : String} {value : Json} (permitted : permit.keeps name value) :
    (keepEntry setting id name value : Run β Fault Unit).Respects related := by
  have single (entry : String × Json) (member : entry ∈ [(name, value)]) :
      permit.keeps entry.1 entry.2 := by
    rwa [List.mem_singleton.mp member]
  exact (scope.respects_note rfl).bind fun _ => (scope.respects_merge single).bind fun _ => .pure _

theorem respects_keepEntries (scope : WorkScope permit related id phoneNumber serviceCode)
    {entries : Fields} (permitted : ∀ entry ∈ entries, permit.keeps entry.1 entry.2) :
    (keepEntries setting id entries : Run β Fault Unit).Respects related := by
  unfold keepEntries
  split
  · exact .pure _
  · exact (scope.respects_note rfl).bind fun _ =>
      (scope.respects_merge permitted).bind fun _ => .pure _

/-! ## Calls of the backend -/

theorem respects_callBackend (scope : WorkScope permit related id phoneNumber serviceCode)
    (config : Option ApiConfig) (call : ApiCall) (data : Json) :
    (callBackend setting config call data : Run β ε Response).Respects related := by
  refine (scope.respects_noteAll (.map (fun _ => rfl) _)).bind fun _ =>
    (scope.respects_noteAll (.map (fun _ => rfl) _)).bind fun _ =>
    (scope.respects_noteAll (.map (fun _ => rfl) _)).bind fun _ left right holds => ?_
  rw [Run.on_bind, Run.on_bind]
  simp only [Run.on_get, invoke]
  cases Request.build config call data with
  | error fault => exact ⟨rfl, scope.noted left right holds _ (.single rfl)⟩
  | ok request =>
      rcases scope.sent left right holds setting.timing config call request with
        ⟨failed, response, leftBackend, rightBackend, onLeft, onRight, relates⟩
      simp only [onLeft, onRight]
      have quiet := Quiet.exchangeEvents request ⟨failed, response, leftBackend⟩
      exact ⟨rfl, scope.noted _ _ relates _ quiet⟩

theorem respects_runCall
    (scope : WorkScope permit related turn.session.id turn.session.phoneNumber
      turn.session.serviceCode)
    {call : ApiCall} (permitted : call.KeepsOnly permit.keeps) :
    (runCall setting turn call).Respects related := by
  unfold runCall
  refine scope.respects_sessionData.inTurn.bind fun data => ?_
  refine (scope.respects_callBackend _ _ _).bind fun response => ?_
  split
  · split
    · exact .pure _
    · rename_i mapping maps
      have entries (entry : String × Json) (member : entry ∈ mappedEntries response mapping) :
          permit.keeps entry.1 entry.2 := by
        rcases List.mem_map.mp member with ⟨target, isTarget, rfl⟩
        exact permitted.mapped mapping maps target isTarget _
      exact (scope.respects_noteAll (.map (fun _ => rfl) _)).bind fun _ =>
        (scope.respects_keepEntries entries).inTurn.bind fun _ => .pure _
  · exact (scope.respects_note rfl).bind fun _ =>
      (scope.respects_keepEntry (permitted.failure _)).inTurn.bind fun _ => .pure _

/-! ## Work on records -/

theorem respects_loadRecord (scope : WorkScope permit related id phoneNumber serviceCode)
    (name : String) :
    (loadRecord setting { phoneNumber, serviceCode, name } :
      Run β Fault (Option Json)).Respects related := by
  refine (Run.Respects.requireOrder _ _).bind fun _ left right holds => ?_
  rw [Run.on_bind, Run.on_bind]
  simp only [Run.on_get, scope.record left right holds name]
  exact ⟨rfl, scope.noted left right holds _ (.single rfl)⟩

theorem respects_saveRecord (scope : WorkScope permit related id phoneNumber serviceCode)
    (name : String) (value : Json) :
    (saveRecord setting { phoneNumber, serviceCode, name } value :
      Run β Fault Unit).Respects related :=
  (scope.respects_note rfl).bind fun _ => (Run.Respects.requireOrder _ _).bind fun _ _ _ holds =>
    ⟨rfl, scope.put _ _ holds name value⟩

theorem respects_extendRecord (scope : WorkScope permit related id phoneNumber serviceCode)
    (name : String) (item : Json) :
    (extendRecord setting { phoneNumber, serviceCode, name } item :
      Run β Fault Unit).Respects related := by
  refine (scope.respects_note rfl).bind fun _ => (Run.Respects.requireOrder _ _).bind
    fun _ left right holds => ⟨rfl, ?_⟩
  have extended := scope.put left right holds name
    (RecordStore.extended (RecordStore.get? left.records { phoneNumber, serviceCode, name }) item)
  simpa only [RecordStore.append, Run.on_modify, ← scope.record left right holds name]
    using extended

theorem respects_deleteRecord (scope : WorkScope permit related id phoneNumber serviceCode)
    (name : String) :
    (deleteRecord setting { phoneNumber, serviceCode, name } : Run β Fault Unit).Respects related :=
  (scope.respects_note rfl).bind fun _ => (Run.Respects.requireOrder _ _).bind fun _ _ _ holds =>
    ⟨rfl, scope.removed _ _ holds name⟩

theorem respects_recordValue (scope : WorkScope permit related id phoneNumber serviceCode)
    (target : RecordAccess) (data : Json) :
    (recordValue target data : Run β ε Json).Respects related := by
  unfold recordValue
  split
  · exact scope.respects_fillValue _ _
  · exact .pure _

theorem respects_accessRecord
    (scope : WorkScope permit related turn.session.id turn.session.phoneNumber
      turn.session.serviceCode)
    {operation : RecordOperation} {target : RecordAccess}
    (permitted : Action.KeepsOnly permit.keeps (.access operation target)) (data : Json)
    (name : String) :
    (accessRecord setting turn operation target data
      { phoneNumber := turn.session.phoneNumber, serviceCode := turn.session.serviceCode,
        name := name }).Respects related := by
  cases operation with
  | load =>
      refine (scope.respects_loadRecord name).attemptRun.bind fun found => ?_
      cases found with
      | error fault => exact .pure _
      | ok value =>
          exact (scope.respects_keepEntry (permitted name _)).inTurn.bind fun _ => .pure _
  | save =>
      exact (scope.respects_recordValue _ _).bind fun _ =>
        (scope.respects_saveRecord name _).attemptRun
  | append =>
      exact (scope.respects_recordValue _ _).bind fun _ =>
        (scope.respects_extendRecord name _).attemptRun
  | delete => exact (scope.respects_deleteRecord name).attemptRun

theorem respects_runAccess
    (scope : WorkScope permit related turn.session.id turn.session.phoneNumber
      turn.session.serviceCode)
    {operation : RecordOperation} {target : RecordAccess}
    (permitted : Action.KeepsOnly permit.keeps (.access operation target)) :
    (runAccess setting turn operation target).Respects related := by
  unfold runAccess
  refine scope.respects_sessionData.inTurn.bind fun data => ?_
  refine (scope.respects_fillTemplate _ _).bind fun name => ?_
  split
  · exact .pure _
  · refine (scope.respects_accessRecord permitted _ name).bind fun result => ?_
    cases result with
    | ok _ => exact .pure _
    | error fault => exact (scope.respects_note rfl).bind fun _ => .pure _

/-! ## Actions -/

section Turns

variable
  (scope : WorkScope permit related turn.session.id turn.session.phoneNumber
    turn.session.serviceCode)

include scope

theorem respects_performAction {action : Action} (permitted : action.KeepsOnly permit.keeps) :
    (performAction setting turn action).Respects related := by
  cases action with
  | call request => exact scope.respects_runCall permitted
  | access operation target => exact scope.respects_runAccess permitted
  | nothing => exact .pure _

theorem respects_runAction {action : Action} (permitted : permit.starts action) :
    (runAction setting turn action).Respects related := by
  rw [runAction_eq]
  refine Run.Respects.bind (fun left right holds => ⟨rfl, ?_⟩) fun _ => ?_
  · exact scope.started left right holds action permitted
  · exact scope.respects_performAction (permit.kept action permitted)

theorem respects_runActions {actions : List Action}
    (permitted : ∀ action ∈ actions, permit.starts action) :
    (runActions setting turn actions).Respects related := by
  induction actions with
  | nil => exact .pure _
  | cons action rest induction =>
      rcases List.forall_mem_cons.mp permitted with ⟨first, others⟩
      unfold runActions
      refine (scope.respects_runAction first).bind fun outcome => ?_
      cases outcome with
      | succeeded => exact induction others
      | failed reason => exact (scope.respects_note rfl).bind fun _ => induction others

theorem respects_showScreen (template : String) :
    (showScreen setting turn template).Respects related :=
  scope.respects_sessionData.inTurn.bind fun _ => scope.respects_showMessage _ _

theorem respects_showAgain (state : State) : (showAgain setting turn state).Respects related :=
  (scope.respects_showScreen _).bind fun _ => .pure _

theorem respects_showHint (state : State) (hint : String) :
    (showHint setting turn state hint).Respects related :=
  (scope.respects_showScreen _).bind fun _ => .pure _

theorem respects_effectiveAction {state : State} (covers : permit.Covers state) {action : Action}
    (effective : state.effectiveAction? = some action) :
    (runAction setting turn action).Respects related := by
  have own : state.action = some action := (Option.filter_eq_some_iff.mp effective).1
  exact scope.respects_runAction (covers.started action (by simp [State.actions, own]))

theorem respects_finish {state : State} (covers : permit.Covers state) :
    (finish setting turn state).Respects related := by
  unfold finish
  split
  · rw [pure_bind]
    exact (scope.respects_showScreen _).bind fun _ => .pure _
  · rename_i effective
    refine (scope.respects_effectiveAction covers effective).bind fun outcome => ?_
    cases outcome with
    | succeeded => exact (scope.respects_showScreen _).bind fun _ => .pure _
    | failed reason => exact (scope.respects_note rfl).bind fun _ => .pure _

/-! ## Going to a state -/

variable {zone : State → Prop} (zoned : permit.Zone turn.definition zone)
  {pass : State → Run β TurnError Screen}
  (passing : ∀ state, zone state → (pass state).Respects related)
  {state : State} (isInside : zone state)

include zoned isInside

section Going

include passing

theorem respects_goTo {target : String} (leads : target ∈ state.targets) (message : Option String) :
    (goTo setting turn pass target message).Respects related := by
  refine Run.Respects.requireState turn target fun next resolved => ?_
  have inside := zoned.closed state isInside target leads next resolved
  have entered := (zoned.covers next inside).entered
  have moves : (moveSession setting turn.session.id next.id :
      Run β Fault Session).Respects related :=
    scope.respects_changeSession fun left right holds stored found =>
      scope.moved left right holds stored found next entered setting.now
  refine moves.inTurn.bind fun _ => ?_
  refine Run.Respects.bind
    (fun left right holds => ⟨rfl, scope.entered left right holds next entered⟩) fun _ => ?_
  split
  · exact passing next inside
  · exact scope.respects_finish (zoned.covers next inside)
  · exact (scope.respects_showScreen _).bind fun _ => .pure _

theorem respects_follow {transition : Transition} (isOwn : transition ∈ state.transitions) :
    (follow setting turn pass transition).Respects related :=
  scope.respects_goTo zoned passing isInside (State.nextState_mem_targets isOwn) _

theorem respects_followExpression (otherwise : TurnError) :
    (followExpression setting turn pass state otherwise).Respects related := by
  have own (data : Json) (left right : Gateway β) (_ : related left right)
      (found : Option Transition) (final : Gateway β)
      (finds : (firstHolding? data state.transitions : Run β TurnError _).on left =
        (.ok found, final)) : ∀ transition ∈ found, transition ∈ state.transitions := by
    rintro transition rfl
    exact mem_of_firstHolding? finds
  unfold followExpression
  refine scope.respects_sessionData.inTurn.bind fun data => ?_
  refine (scope.respects_firstHolding? data state.transitions).bindWhere (own data)
    fun found isOwn => ?_
  cases found with
  | some transition => exact scope.respects_follow zoned passing isInside (isOwn transition rfl)
  | none => exact .throw _

theorem respects_process : (process setting turn pass state).Respects related := by
  unfold process
  split
  · exact scope.respects_followExpression zoned passing isInside _
  · rename_i effective
    have covers := zoned.covers state isInside
    refine (scope.respects_effectiveAction covers effective).bind fun outcome => ?_
    split
    · rename_i leads
      have isTarget := outcomeTarget?_mem_targets effective leads
      exact scope.respects_goTo zoned passing isInside isTarget _
    · exact scope.respects_followExpression zoned passing isInside _
    · exact (scope.respects_note rfl).bind fun _ => .pure _

end Going

theorem respects_sideActions :
    (runActions setting turn state.preActions).Respects related ∧
      (runActions setting turn state.postActions).Respects related := by
  have started := (zoned.covers state isInside).started
  constructor
  · exact scope.respects_runActions fun action member =>
      started action (by simp [State.actions, member])
  · exact scope.respects_runActions fun action member =>
      started action (by simp [State.actions, member])

theorem respects_passState (remaining : Nat) :
    (passState setting turn remaining state).Respects related := by
  induction remaining generalizing state with
  | zero => exact .throw _
  | succ remaining induction =>
      rcases scope.respects_sideActions zoned isInside with ⟨before, after⟩
      unfold passState
      refine before.bind fun _ => ?_
      refine (scope.respects_process zoned (fun _ => induction) isInside).bind fun screen => ?_
      exact after.bind fun _ => .pure _

/-! ## Answers -/

theorem respects_followFirst {transition : Transition} (isOwn : transition ∈ state.transitions) :
    (follow setting turn (passFirst setting turn) transition).Respects related :=
  scope.respects_follow zoned (fun _ inside => scope.respects_passState zoned inside _) isInside
    isOwn

theorem respects_answerMenu (isMenu : state.type = .menu ∨ state.type = .display)
    (input : String) : (answerMenu setting turn state input).Respects related := by
  unfold answerMenu
  split
  · exact scope.respects_showAgain state
  · split
    · exact (scope.respects_note rfl).bind fun _ => scope.respects_showHint _ _
    · rename_i transition chosen
      have isOwn : transition ∈ state.transitions := List.mem_of_find?_eq_some chosen
      split
      · rename_i value name hasValue hasName
        have permitted := (zoned.covers state isInside).chosen isMenu transition isOwn value
          hasValue name hasName
        exact (scope.respects_keepEntry permitted).inTurn.bind fun _ =>
          scope.respects_followFirst zoned isInside isOwn
      · exact scope.respects_followFirst zoned isInside isOwn

theorem respects_acceptInput (isInput : state.type = .input) {input : String}
    (accepted : ∀ rule ∈ state.validation, Validation.checkRule input rule = .ok ()) :
    (acceptInput setting turn state input).Respects related := by
  have permitted := (zoned.covers state isInside).answered isInput input accepted
  have follows (transition : Transition) (found : state.transitionFor? .valid = some transition) :
      (follow setting turn (passFirst setting turn) transition).Respects related :=
    scope.respects_followFirst zoned isInside (State.transitionFor?_mem found)
  unfold acceptInput
  cases named : state.storeAs with
  | some name =>
      refine (scope.respects_keepEntry (permitted name named)).inTurn.bind fun _ => ?_
      cases found : state.transitionFor? .valid with
      | some transition => exact follows transition found
      | none => exact .throw _
  | none =>
      cases found : state.transitionFor? .valid with
      | some transition => exact follows transition found
      | none => exact .throw _

theorem respects_answerInput (isInput : state.type = .input) (input : String) :
    (answerInput setting turn state input).Respects related := by
  unfold answerInput
  split
  · rename_i chosen
    exact scope.respects_followFirst zoned isInside (List.mem_of_find?_eq_some chosen)
  · cases validation : state.validation with
    | none =>
        have accepted : ∀ rule ∈ state.validation, Validation.checkRule input rule = .ok () := by
          simp [validation]
        dsimp only
        split
        · exact scope.respects_showAgain state
        · exact scope.respects_acceptInput zoned isInside isInput accepted
    | some rule =>
        have verdictIs (left right : Gateway β) (_ : related left right)
            (verdict : Except Validation.Refusal Unit) (final : Gateway β)
            (checks : (checkInput input rule : Run β TurnError _).on left = (.ok verdict, final)) :
            verdict = Validation.checkRule input rule := by
          cases checks
          rfl
        refine (scope.respects_checkInput input rule).bindWhere verdictIs
          fun verdict isVerdict => ?_
        cases verdict with
        | ok _ =>
            refine scope.respects_acceptInput zoned isInside isInput ?_
            simpa [validation] using isVerdict.symm
        | error refusal =>
            exact (scope.respects_note rfl).bind fun _ => scope.respects_showHint _ _

theorem respects_answerState (input : String) :
    (answerState setting turn state input).Respects related := by
  unfold answerState
  cases type : state.type with
  | menu => exact scope.respects_answerMenu zoned isInside (.inl type) input
  | display => exact scope.respects_answerMenu zoned isInside (.inr type) input
  | input => exact scope.respects_answerInput zoned isInside type input
  | processing =>
      exact scope.respects_process zoned (fun _ inside => scope.respects_passState zoned inside _)
        isInside
  | final => exact scope.respects_finish (zoned.covers state isInside)

end Turns

end WorkScope

/-! ## Turns -/

section Turns

variable {definition : Definition} {session : Session}
  (scope : WorkScope permit related session.id session.phoneNumber session.serviceCode)

include scope

section Zones

variable {zone : State → Prop} (zoned : permit.Zone definition zone)

include zoned

/-- A turn that begins in a zone stays there. -/
theorem WorkScope.respects_answerWithin
    (begins : ∀ state, definition.state? session.stateId = some state → zone state)
    (input : String) : (answerTurn setting definition session input).Respects related := by
  have answers (state : State) (isInside : zone state) :
      (answerState setting ⟨definition, session⟩ state input).Respects related :=
    WorkScope.respects_answerState scope zoned isInside input
  have sides (state : State) (isInside : zone state) :
      (runActions setting ⟨definition, session⟩ state.preActions).Respects related ∧
        (runActions setting ⟨definition, session⟩ state.postActions).Respects related :=
    WorkScope.respects_sideActions scope zoned isInside
  refine Run.Respects.requireState ⟨definition, session⟩ session.stateId fun state resolved => ?_
  have isInside := begins state resolved
  refine (scope.respects_note rfl).bind fun _ => ?_
  refine (sides state isInside).1.bind fun _ => ?_
  refine (answers state isInside).bind fun screen => ?_
  refine (sides state isInside).2.bind fun _ => ?_
  exact (scope.respects_note rfl).bind fun _ => .pure _

omit zoned in
theorem WorkScope.respects_startState? :
    (startState? definition : Run β TurnError (Option State)).Respects related := by
  unfold startState?
  split
  · exact (scope.respects_noteAll (.map (fun _ => rfl) _)).bind fun _ => .pure _
  · exact .pure _

theorem WorkScope.respects_startWithin
    (begins : ∀ state, definition.initialState? = some state → zone state) :
    (startTurn setting definition session).Respects related := by
  have passing (state : State) (isInside : zone state) :
      (passFirst setting ⟨definition, session⟩ state).Respects related :=
    WorkScope.respects_passState scope zoned isInside _
  have finishing (state : State) (isInside : zone state) :
      (finish setting ⟨definition, session⟩ state).Respects related :=
    WorkScope.respects_finish scope (zoned.covers state isInside)
  have showing (state : State) : (showAgain setting ⟨definition, session⟩ state).Respects related :=
    WorkScope.respects_showAgain scope state
  have inside (left right : Gateway β) (_ : related left right) (found : Option State)
      (final : Gateway β)
      (starts : (startState? definition : Run β TurnError _).on left = (.ok found, final)) :
      ∀ state ∈ found, zone state := by
    rcases on_startState? (ε := TurnError) definition left with ⟨events, finds⟩
    rw [finds] at starts
    cases starts
    exact begins
  unfold startTurn
  refine scope.respects_startState?.bindWhere inside fun found isInside => ?_
  cases found with
  | none => exact .throw _
  | some state =>
      refine (scope.respects_note rfl).bind fun _ => ?_
      split
      · exact passing state (isInside state rfl)
      · exact finishing state (isInside state rfl)
      · exact showing state

end Zones

section States

variable (covers : ∀ state ∈ definition.states, permit.Covers state)

include covers

theorem WorkScope.respects_answerTurn (input : String) :
    (answerTurn setting definition session input).Respects related :=
  scope.respects_answerWithin (.states covers) (fun _ => List.mem_of_find?_eq_some) input

theorem WorkScope.respects_startTurn : (startTurn setting definition session).Respects related :=
  scope.respects_startWithin (.states covers) fun _ => Definition.mem_of_initialState?

end States

end Turns

/-! ## Scopes without a permit -/

namespace ActionScope

theorem work (scope : ActionScope related id phoneNumber serviceCode) :
    WorkScope .actions related id phoneNumber serviceCode where
  noted left right holds events _ := scope.noted left right holds events
  started left right holds _ _ := scope.noted left right holds _
  entered _ _ _ _ forbidden := forbidden.elim
  session := scope.session
  merged left right holds stored found entries _ :=
    scope.merged left right holds stored found entries
  moved _ _ _ _ _ _ forbidden := forbidden.elim
  sent := scope.sent
  record := scope.record
  put := scope.put
  removed := scope.removed

theorem respects_note (scope : ActionScope related id phoneNumber serviceCode) (event : Event) :
    (note event : Run β ε Unit).Respects related :=
  fun left right holds => ⟨rfl, scope.noted left right holds [event]⟩

theorem respects_checkInput (scope : ActionScope related id phoneNumber serviceCode)
    (input : String) (rule : ValidationRule) :
    (checkInput input rule : Run β ε (Except Validation.Refusal Unit)).Respects related :=
  scope.work.respects_checkInput input rule

theorem respects_firstHolding? (scope : ActionScope related id phoneNumber serviceCode)
    (data : Json) (transitions : List Transition) :
    (firstHolding? data transitions : Run β TurnError (Option Transition)).Respects related :=
  scope.work.respects_firstHolding? data transitions

theorem respects_sessionData (scope : ActionScope related id phoneNumber serviceCode) :
    (sessionData setting id : Run β Fault Json).Respects related :=
  scope.work.respects_sessionData

theorem respects_keepEntry (scope : ActionScope related id phoneNumber serviceCode) (name : String)
    (value : Json) : (keepEntry setting id name value : Run β Fault Unit).Respects related :=
  scope.work.respects_keepEntry trivial

theorem respects_showScreen
    (scope : ActionScope related turn.session.id turn.session.phoneNumber turn.session.serviceCode)
    (template : String) : (showScreen setting turn template).Respects related :=
  scope.work.respects_showScreen template

theorem respects_runAction
    (scope : ActionScope related turn.session.id turn.session.phoneNumber turn.session.serviceCode)
    (action : Action) : (runAction setting turn action).Respects related :=
  scope.work.respects_runAction trivial

theorem respects_runActions
    (scope : ActionScope related turn.session.id turn.session.phoneNumber turn.session.serviceCode)
    (actions : List Action) : (runActions setting turn actions).Respects related :=
  scope.work.respects_runActions fun _ _ => trivial

end ActionScope

namespace TurnScope

theorem work (scope : TurnScope related id phoneNumber serviceCode) :
    WorkScope .all related id phoneNumber serviceCode :=
  { scope.toActionScope.work with
    entered := fun left right holds _ _ => scope.noted left right holds _
    moved := fun left right holds stored found state _ =>
      scope.moved left right holds stored found state.id }

variable {definition : Definition} {session : Session}

theorem respects_answerTurn
    (scope : TurnScope related session.id session.phoneNumber session.serviceCode)
    (input : String) : (answerTurn setting definition session input).Respects related :=
  scope.work.respects_answerTurn (fun state _ => Permit.all_covers state) input

theorem respects_startTurn
    (scope : TurnScope related session.id session.phoneNumber session.serviceCode) :
    (startTurn setting definition session).Respects related :=
  scope.work.respects_startTurn fun state _ => Permit.all_covers state

end TurnScope

/-! ## Scopes of a single run -/

section Alone

variable {property : Gateway β → Prop}
  (noted : ∀ gateway, property gateway → ∀ events,
    property { gateway with log := gateway.log ++ events })
  (merged : ∀ gateway, property gateway → ∀ stored, Table.get? gateway.sessions id = some stored →
    ∀ entries now, property
      { gateway with sessions := gateway.sessions.save (stored.merge entries now) })
  (sent : ∀ gateway, property gateway → ∀ backend, property { gateway with backend := backend })
  (recorded : ∀ gateway, property gateway → ∀ records,
    (∀ key : RecordKey, key.phoneNumber ≠ phoneNumber ∨ key.serviceCode ≠ serviceCode →
      RecordStore.get? records key = RecordStore.get? gateway.records key) →
    property { gateway with records := records })

include noted merged sent recorded

/-- A property of single gateways holds on to actions if it does not mind a longer log, another
backend, other data of the session and other records of its phone number and service. -/
theorem ActionScope.alone :
    ActionScope (Run.Alone property) id phoneNumber serviceCode where
  noted := by
    rintro left _ ⟨rfl, holds⟩ events
    exact ⟨rfl, noted left holds events⟩
  session := by
    rintro left _ ⟨rfl, _⟩
    rfl
  merged := by
    rintro left _ ⟨rfl, holds⟩ stored found entries now
    exact ⟨rfl, merged left holds stored found entries now⟩
  sent := by
    rintro left _ ⟨rfl, holds⟩ timing config call request
    exact ⟨_, _, _, _, rfl, rfl, rfl, sent left holds _⟩
  record := by
    rintro left _ ⟨rfl, _⟩ name
    rfl
  put := by
    rintro left _ ⟨rfl, holds⟩ name value
    refine ⟨rfl, recorded left holds _ fun key outside => ?_⟩
    exact RecordStore.get?_put_other _ _ _ _ (by rintro rfl; simp at outside)
  removed := by
    rintro left _ ⟨rfl, holds⟩ name
    refine ⟨rfl, recorded left holds _ fun key outside => ?_⟩
    exact RecordStore.get?_remove_other _ (by rintro rfl; simp at outside)

theorem TurnScope.alone
    (moved : ∀ gateway, property gateway → ∀ stored,
      Table.get? gateway.sessions id = some stored → ∀ stateId now,
        property { gateway with sessions := gateway.sessions.save (stored.moveTo stateId now) }) :
    TurnScope (Run.Alone property) id phoneNumber serviceCode where
  toActionScope := ActionScope.alone noted merged sent recorded
  moved := by
    rintro left _ ⟨rfl, holds⟩ stored found stateId now
    exact ⟨rfl, moved left holds stored found stateId now⟩

end Alone

/-- The same for what a permit allows; only quiet events may be added otherwise. -/
theorem WorkScope.alone {property : Gateway β → Prop}
    (noted : ∀ gateway, property gateway → ∀ events, Quiet events →
      property { gateway with log := gateway.log ++ events })
    (started : ∀ gateway, property gateway → ∀ action, permit.starts action →
      property { gateway with log := gateway.log ++ [.actionStarted id action] })
    (entered : ∀ gateway, property gateway → ∀ state, permit.enters state →
      property { gateway with log := gateway.log ++ [.stateEntered id state.id] })
    (merged : ∀ gateway, property gateway → ∀ stored,
      Table.get? gateway.sessions id = some stored → ∀ entries,
        (∀ entry ∈ entries, permit.keeps entry.1 entry.2) → ∀ now,
          property { gateway with sessions := gateway.sessions.save (stored.merge entries now) })
    (moved : ∀ gateway, property gateway → ∀ stored,
      Table.get? gateway.sessions id = some stored → ∀ state, permit.enters state → ∀ now,
        property { gateway with sessions := gateway.sessions.save (stored.moveTo state.id now) })
    (sent : ∀ gateway, property gateway → ∀ backend, property { gateway with backend := backend })
    (recorded : ∀ gateway, property gateway → ∀ records,
      property { gateway with records := records }) :
    WorkScope permit (Run.Alone property) id phoneNumber serviceCode where
  noted := by
    rintro left _ ⟨rfl, holds⟩ events quiet
    exact ⟨rfl, noted left holds events quiet⟩
  started := by
    rintro left _ ⟨rfl, holds⟩ action permitted
    exact ⟨rfl, started left holds action permitted⟩
  entered := by
    rintro left _ ⟨rfl, holds⟩ state permitted
    exact ⟨rfl, entered left holds state permitted⟩
  session := by
    rintro left _ ⟨rfl, _⟩
    rfl
  merged := by
    rintro left _ ⟨rfl, holds⟩ stored found entries permitted now
    exact ⟨rfl, merged left holds stored found entries permitted now⟩
  moved := by
    rintro left _ ⟨rfl, holds⟩ stored found state permitted now
    exact ⟨rfl, moved left holds stored found state permitted now⟩
  sent := by
    rintro left _ ⟨rfl, holds⟩ timing config call request
    exact ⟨_, _, _, _, rfl, rfl, rfl, sent left holds _⟩
  record := by
    rintro left _ ⟨rfl, _⟩ name
    rfl
  put := by
    rintro left _ ⟨rfl, holds⟩ name value
    exact ⟨rfl, recorded left holds _⟩
  removed := by
    rintro left _ ⟨rfl, holds⟩ name
    exact ⟨rfl, recorded left holds _⟩

end Ussd
