import Ussd.Proofs.Conversation
import Ussd.Proofs.EvaluatedData

/-! # The own scope of a turn

A turn changes its session and the records of the session's phone number and service, and nothing
else that is stored. The session keeps its identity and every entry of its data, and whatever its
data hold under the name of the phone number, all that the turn evaluates sees the session's own. -/

namespace Ussd

namespace Table

variable {value : Type}

theorem isSome_get?_insert {table : Table value} {key : String}
    (present : (table.get? key).isSome = true) (name : String) (entry : value) :
    ((table.insert name entry).get? key).isSome = true := by
  rcases Decidable.em (key = name) with rfl | different
  · rw [get?_insert_same]
    rfl
  · rwa [get?_insert_other _ _ _ _ different]

theorem isSome_get?_merge {table : Table value} {key : String}
    (present : (table.get? key).isSome = true) (entries : List (String × value)) :
    ((table.merge entries).get? key).isSome = true := by
  induction entries generalizing table with
  | nil => exact present
  | cons entry rest induction => exact induction (isSome_get?_insert present entry.1 entry.2)

end Table

/-! ## Sessions that go on -/

/-- What a session may become: another state, more data and another end. -/
structure Session.Continues (session later : Session) : Prop where
  id : later.id = session.id
  phoneNumber : later.phoneNumber = session.phoneNumber
  serviceCode : later.serviceCode = session.serviceCode
  createdAt : later.createdAt = session.createdAt
  data : ∀ name, (session.data.get? name).isSome = true → (later.data.get? name).isSome = true

namespace Session.Continues

variable {session later : Session}

theorem refl (session : Session) : session.Continues session :=
  ⟨rfl, rfl, rfl, rfl, fun _ present => present⟩

theorem merge (continues : session.Continues later) (entries : List (String × Json))
    (now : Instant) : session.Continues (later.merge entries now) :=
  { continues with
    data := fun name present => Table.isSome_get?_merge (continues.data name present) entries }

theorem moveTo (continues : session.Continues later) (stateId : String) (now : Instant) :
    session.Continues (later.moveTo stateId now) := { continues with }

theorem touch (continues : session.Continues later) (timeout : Nat) (now : Instant) :
    session.Continues (later.touch timeout now) := { continues with }

theorem deactivate (continues : session.Continues later) (now : Instant) :
    session.Continues (later.deactivate now) := { continues with }

end Session.Continues

variable {β : Type} {setting : Setting}

/-- Since `start` only the session and what belongs to it have been worked on. -/
structure Within (session : Session) (start gateway : Gateway β) : Prop where
  others : ∀ id, id ≠ session.id →
    Table.get? gateway.sessions id = Table.get? start.sessions id
  records : ∀ key : RecordKey,
    key.phoneNumber ≠ session.phoneNumber ∨ key.serviceCode ≠ session.serviceCode →
      RecordStore.get? gateway.records key = RecordStore.get? start.records key
  own : ∃ later, Table.get? gateway.sessions session.id = some later ∧ session.Continues later

namespace Within

variable {session : Session} {start gateway : Gateway β}

theorem of_stored (stored : Table.get? gateway.sessions session.id = some session) :
    Within session gateway gateway where
  others _ _ := rfl
  records _ _ := rfl
  own := ⟨session, stored, .refl session⟩

theorem continues (within : Within session start gateway) {later : Session}
    (found : Table.get? gateway.sessions session.id = some later) : session.Continues later := by
  rcases within.own with ⟨stored, isStored, continues⟩
  cases isStored.symm.trans found
  exact continues

theorem congr (within : Within session start gateway) {cache : Table Definition} {backend : β}
    {log : List Event} :
    Within session start { gateway with cache := cache, backend := backend, log := log } :=
  ⟨within.others, within.records, within.own⟩

theorem saved (within : Within session start gateway) {later : Session}
    (continues : session.Continues later) :
    Within session start { gateway with sessions := gateway.sessions.save later } where
  others id other :=
    (SessionStore.get?_save_other _ fun equal => other (equal.trans continues.id)).trans
      (within.others id other)
  records := within.records
  own := ⟨later, continues.id ▸ SessionStore.get?_save_same _ later, continues⟩

/-- A session begins where there may have been another one. -/
theorem of_saved (gateway : Gateway β) (session : Session) :
    Within session gateway { gateway with sessions := gateway.sessions.save session } where
  others _ other := SessionStore.get?_save_other _ other
  records _ _ := rfl
  own := ⟨session, SessionStore.get?_save_same _ session, .refl session⟩

theorem ended (within : Within session start gateway) (now : Instant) :
    Within session start { gateway with
      sessions := gateway.sessions.update session.id (·.deactivate now) } where
  others id other :=
    (SessionStore.get?_update_other _ other (·.deactivate now)).trans (within.others id other)
  records := within.records
  own := by
    rcases within.own with ⟨stored, isStored, continues⟩
    refine ⟨stored.deactivate now, ?_, continues.deactivate now⟩
    rw [SessionStore.get?_update, if_pos rfl, isStored]
    rfl

theorem keeps_loadDefinition (code : String) :
    (loadDefinition setting code : Run β Fault Definition).Keeps (Within session start) := by
  intro gateway within
  rcases on_loadDefinition_frame setting code gateway with ⟨result, cache, events, loads⟩
  rw [loads]
  exact within.congr

variable [Backend β]

theorem turnScope {later : Session} (continues : session.Continues later) (start : Gateway β) :
    TurnScope (Run.Alone (Within session start)) later.id later.phoneNumber later.serviceCode := by
  rw [continues.id, continues.phoneNumber, continues.serviceCode]
  apply TurnScope.alone
  case noted => exact fun gateway within events => within.congr
  case merged =>
    exact fun gateway within stored found entries now =>
      within.saved ((within.continues found).merge entries now)
  case sent => exact fun gateway within backend => within.congr
  case recorded =>
    intro gateway within records same
    have recorded (key : RecordKey)
        (foreign : key.phoneNumber ≠ session.phoneNumber ∨
          key.serviceCode ≠ session.serviceCode) :
        RecordStore.get? records key = RecordStore.get? start.records key :=
      (same key foreign).trans (within.records key foreign)
    exact { within with records := recorded }
  case moved =>
    exact fun gateway within stored found stateId now =>
      within.saved ((within.continues found).moveTo stateId now)

end Within

/-! ## What is seen -/

/-- The data tell the phone number. -/
def Json.Tells (phoneNumber : String) (data : Json) : Prop :=
  data.field? Session.phoneKey = some (.text phoneNumber)

/-- Whatever the data of a session hold, they are shown with its phone number. -/
theorem Session.tells_visibleData (session : Session) :
    session.visibleData.Tells session.phoneNumber :=
  Table.get?_insert_same _ _ _

variable [Backend β] {session : Session} {start : Gateway β}

theorem Within.watched {evaluator : Evaluator β} {later : Session}
    (continues : session.Continues later) (start : Gateway β)
    (plain : evaluator.PlainOn (Json.Tells session.phoneNumber)) :
    Watched (Within session start) (Json.Tells session.phoneNumber) evaluator later where
  scope := Within.turnScope continues start
  sees := by
    intro gateway within stored found
    rw [continues.id] at found
    rw [← (within.continues found).phoneNumber]
    exact stored.tells_visibleData
  plain := plain

/-! ## Requests -/

section Requests

variable (inOrder : setting.InOrder)

include inOrder

omit [Backend β] in
theorem Within.keeps_conclude (screen : Screen) :
    (conclude setting session.id screen : Run β TurnError CarrierAnswer).Keeps
      (Within session start) := by
  intro gateway within
  rw [on_conclude inOrder]
  cases screen.continues with
  | true => exact within
  | false => exact (within.ended setting.now).congr

omit inOrder

theorem Within.respects_touchSession (timeout : Option Nat) :
    (touchSession setting session.id timeout : Run β Fault Session).Respects
      (Run.Alone (Within session start)) := by
  apply (Within.turnScope (.refl session) start).work.respects_changeSession
  rintro left _ ⟨rfl, within⟩ stored found
  exact ⟨rfl, within.saved ((within.continues found).touch _ _)⟩

omit [Backend β] in
theorem Within.continues_of_touchSession {gateway final : Gateway β}
    (within : Within session start gateway) {timeout : Option Nat} {later : Session}
    (touches : (touchSession setting session.id timeout).on gateway = (.ok later, final)) :
    session.Continues later := by
  rcases on_changeSession_eq_ok touches with ⟨stored, found, rfl, -⟩
  exact (within.continues found).touch _ _

include inOrder

theorem Within.keeps_continueSession {current : Session} (isCurrent : current.id = session.id)
    (text : String) :
    (continueSession setting current text : Run β TurnError CarrierAnswer).Keeps
      (Within session start) := by
  have loads : (loadDefinition setting current.serviceCode : Run β Fault Definition).Respects
      (Run.Alone (Within session start)) := .of_keeps (Within.keeps_loadDefinition _)
  apply Run.Respects.keeps
  unfold continueSession
  rw [isCurrent]
  refine loads.inTurn.bind fun definition => ?_
  refine (Within.respects_touchSession _).inTurn.bindWhere
    (fun left right holds later final touches =>
      holds.2.continues_of_touchSession (Run.on_inTurn_eq_ok.mp touches)) fun later continues => ?_
  refine (Within.turnScope continues start).respects_answerTurn text |>.bind fun screen => ?_
  rw [continues.id]
  exact .of_keeps (Within.keeps_conclude inOrder screen)

omit inOrder

theorem same_continueSession {evaluator : Evaluator β}
    (plain : evaluator.PlainOn (Json.Tells session.phoneNumber)) {current : Session}
    (isCurrent : current.id = session.id) (text : String) :
    Run.SameFrom (Within session start) (@continueSession β evaluator setting current text)
      (@continueSession β .plain setting current text) := by
  have loads : (loadDefinition setting current.serviceCode : Run β Fault Definition).Respects
      (Run.Alone (Within session start)) := .of_keeps (Within.keeps_loadDefinition _)
  unfold continueSession
  rw [isCurrent]
  refine .after loads.inTurn.keeps fun definition => ?_
  refine .afterWhere (Within.respects_touchSession _).inTurn.keeps
    (fun gateway within later final touches =>
      within.continues_of_touchSession (Run.on_inTurn_eq_ok.mp touches)) fun later continues => ?_
  exact ((Within.watched continues start plain).same_answerTurn definition text).andThen _

/-! ### Starting a service -/

/-- No session of the id is live. -/
def NotLive (setting : Setting) (id : String) (gateway : Gateway β) : Prop :=
  gateway.live? id setting.now = none

omit [Backend β] in
theorem NotLive.keeps_loadDefinition (id code : String) :
    (loadDefinition setting code : Run β Fault Definition).Keeps (NotLive setting id) := by
  intro gateway notLive
  rcases on_loadDefinition_frame setting code gateway with ⟨result, cache, events, loads⟩
  rw [loads]
  exact notLive

include inOrder

theorem same_startService {evaluator : Evaluator β} {phoneNumber : String}
    (plain : evaluator.PlainOn (Json.Tells phoneNumber)) (id : String) (record : ServiceRecord) :
    Run.SameFrom (NotLive setting id)
      (@startService β evaluator setting id phoneNumber record)
      (@startService β .plain setting id phoneNumber record) := by
  have loads : (loadDefinition setting record.code : Run β Fault Definition).Respects
      (Run.Alone (NotLive setting id)) := .of_keeps (NotLive.keeps_loadDefinition id _)
  refine .after loads.inTurn.keeps fun definition gateway notLive => ?_
  rcases on_startState? (ε := TurnError) definition gateway with ⟨events, chooses⟩
  rw [Run.on_bind_of_ok chooses, Run.on_bind_of_ok chooses]
  cases definition.initialState? with
  | none => rfl
  | some initial =>
      dsimp only
      have opens := on_openSession inOrder id phoneNumber record.code initial.id
        definition.sessionLimits.effectiveTimeout?
        { gateway with log := gateway.log ++ events }
      rw [Run.on_bind_of_ok (Run.on_inTurn_eq_ok.mpr opens),
        Run.on_bind_of_ok (Run.on_inTurn_eq_ok.mpr opens)]
      have begun : openedSession setting { gateway with log := gateway.log ++ events } id
          phoneNumber record.code initial.id (timeoutOf setting
            definition.sessionLimits.effectiveTimeout?) = .begin id phoneNumber record.code
          initial.id (timeoutOf setting definition.sessionLimits.effectiveTimeout?)
          setting.now := by
        have stale : Gateway.live? { gateway with log := gateway.log ++ events } id
          setting.now = none := notLive
        rw [openedSession, stale]
      rw [begun]
      let session : Session := .begin id phoneNumber record.code initial.id
        (timeoutOf setting definition.sessionLimits.effectiveTimeout?) setting.now
      have watched : Watched (Within session gateway) (Json.Tells session.phoneNumber) evaluator
          session := Within.watched (.refl session) gateway plain
      exact (watched.same_startTurn definition).andThen _ _ (Within.of_saved gateway session).congr

theorem Within.keeps_firstTurn (definition : Definition) :
    (do
      let screen ← startTurn setting definition session
      conclude setting session.id screen : Run β TurnError CarrierAnswer).Keeps
        (Within session start) := by
  have turns : (startTurn setting definition session).Respects
      (Run.Alone (Within session start)) :=
    (Within.turnScope (.refl session) start).respects_startTurn
  exact (turns.bind fun screen => .of_keeps (Within.keeps_conclude inOrder screen)).keeps

theorem same_openMenu {evaluator : Evaluator β} {phoneNumber : String}
    (plain : evaluator.PlainOn (Json.Tells phoneNumber)) (id choice : String) :
    Run.SameFrom (NotLive setting id) (@openMenu β evaluator setting id phoneNumber choice)
      (@openMenu β .plain setting id phoneNumber choice) := by
  have lists : (inTurn (activeServices setting) : Run β TurnError (List ServiceRecord)).Keeps
      (NotLive setting id) := by
    intro gateway notLive
    rw [Run.on_inTurn, activeServices, Run.on_bind,
      on_requireOrder_of_none (inOrder .listServices (by decide))]
    exact notLive
  unfold openMenu
  apply Run.SameFrom.after lists
  intro services
  split
  · exact .refl _
  · split
    · exact .refl _
    · cases chosenService? services choice with
      | some record =>
          exact .after (fun _ notLive => notLive) fun _ => same_startService inOrder plain id record
      | none => exact .refl _

theorem same_dial {evaluator : Evaluator β} {request : CarrierRequest}
    (plain : evaluator.PlainOn (Json.Tells request.phoneNumber)) (id : String) :
    Run.SameFrom (NotLive setting id) (@dial β evaluator setting id request)
      (@dial β .plain setting id request) := by
  have finds : (inTurn (serviceByShortCode? setting (trimmed request.dialled)) :
      Run β TurnError (Option ServiceRecord)).Keeps (NotLive setting id) := by
    intro gateway notLive
    rw [Run.on_inTurn, serviceByShortCode?, Run.on_bind,
      on_requireOrder_of_none (inOrder .findShortCode (by decide))]
    exact notLive
  unfold dial
  dsimp only
  rcases menuDial? setting.engine.mainMenuCode (trimmed request.dialled) with _ | _ | choice
  · apply Run.SameFrom.after finds
    intro found
    cases found with
    | some record => exact same_startService inOrder plain id record
    | none => exact .refl _
  · exact same_openMenu inOrder plain id _
  · exact same_openMenu inOrder plain id choice

/-! ### Requests that run a turn -/

omit inOrder [Backend β] in
/-- The request runs a turn of the session: the live one, or one that begins with the request. -/
inductive Occasion.Runs (setting : Setting) (occasion : Occasion) (gateway : Gateway β) :
    Session → Prop
  | resumes (session : Session) (handled : occasion.handling setting gateway = .resume session) :
      Runs setting occasion gateway session
  | begins (record : ServiceRecord) (definition : Definition) (initial : State)
      (handled : occasion.handling setting gateway = .start record)
      (beginning : gateway.catalogue.beginning? setting record.code = .ok (definition, initial)) :
      Runs setting occasion gateway (.begin (occasion.sessionId gateway)
        occasion.request.phoneNumber record.code initial.id
        (timeoutOf setting definition.sessionLimits.effectiveTimeout?) occasion.now)

theorem same_dispatch {evaluator : Evaluator β} {occasion : Occasion} {gateway : Gateway β}
    (sound : gateway.Sound) (runs : occasion.Runs setting gateway session)
    (plain : evaluator.PlainOn (Json.Tells session.phoneNumber)) :
    (@dispatch β evaluator (occasion.circumstances setting) (occasion.sessionId gateway)
        occasion.request).on gateway =
      (@dispatch β .plain (occasion.circumstances setting) (occasion.sessionId gateway)
        occasion.request).on gateway := by
  have inOrder' := inOrder.circumstances occasion
  unfold dispatch
  rw [Run.on_bind, Run.on_bind, Run.on_inTurn, on_liveSession? inOrder']
  cases runs with
  | resumes _ handled =>
      have live := Occasion.handling_eq_resume.mp handled
      have stored := (Gateway.live?_eq_some.mp live).1
      have isId := sound.keyed _ _ stored
      rw [Occasion.circumstances_now, live]
      exact same_continueSession plain rfl _ gateway (.of_stored (isId ▸ stored))
  | begins record definition initial handled beginning =>
      have notLive := (Occasion.handling_eq_start.mp handled).1
      rw [Occasion.circumstances_now, notLive]
      exact same_dial inOrder' plain _ gateway notLive

theorem same_handle {evaluator : Evaluator β} {occasion : Occasion} {gateway : Gateway β}
    (sound : gateway.Sound) (runs : occasion.Runs setting gateway session)
    (plain : evaluator.PlainOn (Json.Tells session.phoneNumber)) :
    @handle β evaluator (occasion.circumstances setting) occasion.request gateway =
      occasion.serve setting gateway := by
  have same : (@handleRun β evaluator (occasion.circumstances setting) occasion.request).on
      gateway = (@handleRun β .plain (occasion.circumstances setting) occasion.request).on
        gateway := by
    unfold handleRun
    dsimp only
    rw [Run.on_bind, Run.on_bind, Run.on_attemptRun, on_sessionIdFor inOrder]
    dsimp only
    rw [Run.on_bind, Run.on_bind, Run.on_attemptRun, Run.on_attemptRun,
      same_dispatch inOrder sound runs plain]
  have ran : (@handleRun β evaluator (occasion.circumstances setting) occasion.request).run
      gateway = (@handleRun β .plain (occasion.circumstances setting) occasion.request).run
        gateway := same
  unfold Occasion.serve handle
  rw [ran]

theorem within_dispatch {occasion : Occasion} {gateway : Gateway β} (sound : gateway.Sound)
    (runs : occasion.Runs setting gateway session) :
    Within session gateway ((dispatch (occasion.circumstances setting)
      (occasion.sessionId gateway) occasion.request).on gateway).2 := by
  have inOrder' := inOrder.circumstances occasion
  rcases occasion.dispatch_eq inOrder gateway with ⟨events, dispatches⟩
  rw [dispatches]
  cases runs with
  | resumes _ handled =>
      have stored := (Gateway.live?_eq_some.mp (Occasion.handling_eq_resume.mp handled)).1
      have isId := sound.keyed _ _ stored
      rw [handled]
      exact Within.keeps_continueSession inOrder' rfl _ gateway (.of_stored (isId ▸ stored))
  | begins record definition initial handled beginning =>
      have notLive := (Occasion.handling_eq_start.mp handled).1
      let noted : Gateway β := { gateway with log := gateway.log ++ events }
      have soundNoted : noted.Sound := sound.congr
      rcases on_startService inOrder' soundNoted.listed soundNoted.agrees
        (occasion.sessionId gateway) occasion.request.phoneNumber record with ⟨loading, starts⟩
      let loaded : Gateway β := { noted with
        cache := noted.catalogue.cacheAfter noted.cache record.code
        log := noted.log ++ loading }
      have stale : loaded.live? (occasion.sessionId gateway)
          (occasion.circumstances setting).now = none := notLive
      have begun := on_beginService inOrder' occasion.request.phoneNumber record.code definition
        initial stale
      have onNoted : noted.catalogue.beginning? (occasion.circumstances setting) record.code =
          .ok (definition, initial) := beginning
      rw [handled]
      dsimp only
      rw [starts, onNoted]
      dsimp only
      rw [begun]
      let session : Session := .begin (occasion.sessionId gateway) occasion.request.phoneNumber
        record.code initial.id (timeoutOf setting definition.sessionLimits.effectiveTimeout?)
        occasion.now
      exact Within.keeps_firstTurn inOrder' definition _ (Within.of_saved gateway session).congr

theorem within_serve {occasion : Occasion} {gateway : Gateway β} (sound : gateway.Sound)
    (runs : occasion.Runs setting gateway session) :
    Within session gateway (occasion.serve setting gateway).2 := by
  have within := within_dispatch inOrder sound runs
  have isOwn : occasion.sessionId gateway = session.id := by
    cases runs with
    | resumes _ handled =>
        have stored := (Gateway.live?_eq_some.mp (Occasion.handling_eq_resume.mp handled)).1
        exact (sound.keyed _ _ stored).symm
    | begins record definition initial handled beginning => rfl
  rw [Occasion.serve_eq inOrder]
  rcases ran : (dispatch (occasion.circumstances setting) (occasion.sessionId gateway)
    occasion.request).on gateway with ⟨error | answer, after⟩ <;> rw [ran] at within
  · rw [isOwn]
    exact (within.ended occasion.now).congr
  · exact within

end Requests

/-- A turn, whether or not it succeeds, leaves other sessions alone and the records of other phone
numbers and services. Its session keeps its identity and every entry of its data. All that the turn
evaluates sees the phone number of the session: with an evaluator that treats any other data in a
different way the turn is the same. So it is for requests that run a turn. -/
theorem turn_stays_in_its_scope (setting : Setting) (gateway : Gateway β) :
    (∀ definition session input, Table.get? gateway.sessions session.id = some session →
      Within session gateway ((answerTurn setting definition session input).on gateway).2 ∧
      Within session gateway ((startTurn setting definition session).on gateway).2 ∧
      ∀ evaluator : Evaluator β, evaluator.PlainOn (Json.Tells session.phoneNumber) →
        (@answerTurn β evaluator setting definition session input).on gateway =
            (@answerTurn β .plain setting definition session input).on gateway ∧
          (@startTurn β evaluator setting definition session).on gateway =
            (@startTurn β .plain setting definition session).on gateway) ∧
    (setting.InOrder → gateway.Sound → ∀ occasion session,
      Occasion.Runs setting occasion gateway session →
        Within session gateway (occasion.serve setting gateway).2 ∧
        ∀ evaluator : Evaluator β, evaluator.PlainOn (Json.Tells session.phoneNumber) →
          @handle β evaluator (occasion.circumstances setting) occasion.request gateway =
            occasion.serve setting gateway) := by
  constructor
  · intro definition session input stored
    have within := Within.of_stored stored
    have scope := Within.turnScope (.refl session) gateway
    refine ⟨(scope.respects_answerTurn input).keeps gateway within,
      scope.respects_startTurn.keeps gateway within, fun evaluator plain => ?_⟩
    have watched := Within.watched (.refl session) gateway plain
    exact ⟨watched.same_answerTurn definition input gateway within,
      watched.same_startTurn definition gateway within⟩
  · intro inOrder sound occasion session runs
    exact ⟨within_serve inOrder sound runs, fun evaluator plain =>
      same_handle inOrder sound runs plain⟩

namespace Sample

/-- A service that keeps what is entered under the name of the phone number, and shows that. -/
def curiousService : ServiceRecord :=
  service "curious" "*3#" ("\"states\":[\x7b\"id\":\"a\",\"type\":\"INPUT\"," ++
    "\"storeAs\":\"phoneNumber\"," ++
    "\"transitions\":[\x7b\"condition\":\"VALID\",\"nextState\":\"b\"\x7d]\x7d," ++
    "\x7b\"id\":\"b\",\"type\":\"FINAL\",\"message\":\"\x7b\x7bphoneNumber\x7d\x7d\"\x7d]")

def tells (phoneNumber : String) (data : Json) : Bool :=
  match data.field? Session.phoneKey with
  | some (.text known) => known == phoneNumber
  | _ => false

/-- An evaluator that ends the turn when it is given data that tell another phone number. -/
@[reducible] def strict (phoneNumber : String) : Evaluator ScriptedBackend where
  message template data :=
    if tells phoneNumber data then showMessage template data else throw (.unknownState "")
  key template data :=
    if tells phoneNumber data then fillTemplate template data else throw (.unknownState "")
  value target data :=
    if tells phoneNumber data then recordValue target data else throw (.unknownState "")
  condition condition data :=
    if tells phoneNumber data then testCondition condition data else throw (.unknownState "")
  call setting config request data :=
    if tells phoneNumber data then callBackend setting config request data
    else throw (.unknownState "")

theorem plainOn_strict (phoneNumber : String) :
    (strict phoneNumber).PlainOn (Json.Tells phoneNumber) := by
  have isTold (data : Json) (told : data.Tells phoneNumber) : tells phoneNumber data = true := by
    rw [tells, told]
    simp
  constructor
  case message => exact fun data told template => if_pos (isTold data told)
  case key => exact fun data told template => if_pos (isTold data told)
  case value => exact fun data told target => if_pos (isTold data told)
  case condition => exact fun data told condition => if_pos (isTold data told)
  case call => exact fun data told setting config request => if_pos (isTold data told)

end Sample

/-- The number that has been entered is kept in the session, but it is not shown. -/
theorem entered_number_is_not_shown :
    let start := Gateway.opened [Sample.curiousService] [] Sample.backend
    let gateway := ((Sample.visit 1000 (some "x") "237" "*3#" "").serve Sample.setting start).2
    let occasion := Sample.visit 1001 (some "x") "237" "*3#" "999"
    let served := occasion.serve Sample.setting gateway
    Sample.setting.InOrder ∧ gateway.Sound ∧ ∃ session : Session,
      Table.get? gateway.sessions session.id = some session ∧
      occasion.Runs Sample.setting gateway session ∧
      (Sample.strict "237").PlainOn (Json.Tells session.phoneNumber) ∧
      Within session gateway served.2 ∧
      @handle _ (Sample.strict "237") (occasion.circumstances Sample.setting) occasion.request
        gateway = served ∧
      Within session gateway ((answerTurn Sample.setting default session "1").on gateway).2 ∧
      ((Table.get? served.2.sessions "x").bind fun after =>
        (after.data.get? Session.phoneKey).bind Json.text?) = some "999" ∧
      served.1.message = "237" := by
  intro start gateway occasion served
  have sound : gateway.Sound :=
    ((Sample.visit 1000 (some "x") "237" "*3#" "").serve_frame Sample.inOrder
      (Gateway.Sound.opened [Sample.curiousService] [] Sample.backend)).sound
  have evaluated : (gateway.live? "x" occasion.now).map Session.phoneNumber = some "237" ∧
      occasion.sessionId gateway = "x" ∧
      ((Table.get? served.2.sessions "x").bind fun after =>
        (after.data.get? Session.phoneKey).bind Json.text?) = some "999" ∧
      served.1.message = "237" := by decide +kernel
  rcases evaluated with ⟨isLive, isOwn, kept, shown⟩
  rcases Option.map_eq_some_iff.mp isLive with ⟨session, live, isPhone⟩
  have found := (Gateway.live?_eq_some.mp live).1
  have stored : Table.get? gateway.sessions session.id = some session :=
    (sound.keyed "x" session found).symm ▸ found
  have runs : occasion.Runs Sample.setting gateway session :=
    .resumes session (Occasion.handling_eq_resume.mpr (isOwn.symm ▸ live))
  have plain : (Sample.strict "237").PlainOn (Json.Tells session.phoneNumber) :=
    isPhone.symm ▸ Sample.plainOn_strict "237"
  rcases turn_stays_in_its_scope Sample.setting gateway with ⟨turns, requests⟩
  rcases requests Sample.inOrder sound occasion session runs with ⟨within, same⟩
  exact ⟨Sample.inOrder, sound, session, stored, runs, plain, within, same _ plain,
    (turns default session "1" stored).1, kept, shown⟩

end Ussd
