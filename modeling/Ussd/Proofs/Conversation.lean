import Ussd.Proofs.RequestScope
import Ussd.Proofs.TurnOutcome

/-! # Conversations

Requests come one after the other, each at its own instant. A request is handled in one of three
ways, which the stored sessions and the catalogue decide: it continues the live session that it
belongs to, or starts the service that it dials, or is answered with a screen of the gateway. It
changes no other session than its own, and after a turn that session waits for an answer exactly if
the carrier was told so. -/

namespace Ussd

def CarrierRequest.namedId? (request : CarrierRequest) : Option String :=
  (request.sessionId.map trimmed).filter fun id => !id.isEmpty

/-- The service that a request dials. -/
def dialledService? (engine : EngineSettings) (catalogue : Catalogue) (request : CarrierRequest) :
    Option ServiceRecord :=
  match menuDial? engine.mainMenuCode (trimmed request.dialled) with
  | some .plain => chosenService? catalogue.active (trimmed request.text)
  | some (.inline choice) => chosenService? catalogue.active choice
  | none => (catalogue.byShortCode? (trimmed request.dialled)).filter ServiceRecord.isActive

/-- The screen of the main menu for a choice that leads to no service. -/
def menuAnswer (setting : Setting) (services : List ServiceRecord) (choice : String) :
    CarrierAnswer :=
  if choice.isEmpty then .proceed (menuText setting services)
  else if choice = "0" then .conclude setting.engine.goodbyeMessage
  else .proceed (menuText setting services ++ "\n\n" ++ setting.engine.invalidOptionMessage)

def dialAnswer (setting : Setting) (catalogue : Catalogue) (request : CarrierRequest) :
    CarrierAnswer :=
  match menuDial? setting.engine.mainMenuCode (trimmed request.dialled) with
  | some .plain => menuAnswer setting catalogue.active (trimmed request.text)
  | some (.inline choice) => menuAnswer setting catalogue.active choice
  | none => .conclude setting.engine.unknownApplicationMessage

/-- The definition of a service and the state that its sessions start in. -/
def Catalogue.beginning? (catalogue : Catalogue) (setting : Setting) (serviceCode : String) :
    Except TurnError (Definition × State) :=
  match catalogue.definition? serviceCode with
  | .error fault => .error (.store (fault.fault setting))
  | .ok definition =>
    match definition.initialState? with
    | none => .error (.emptyDefinition serviceCode)
    | some initial => .ok (definition, initial)

theorem Catalogue.beginning?_eq_ok {catalogue : Catalogue} {setting : Setting}
    {serviceCode : String} {definition : Definition} {initial : State} :
    catalogue.beginning? setting serviceCode = .ok (definition, initial) ↔
      catalogue.definition? serviceCode = .ok definition ∧
        definition.initialState? = some initial := by
  unfold beginning?
  cases catalogue.definition? serviceCode with
  | error fault => simp
  | ok found => cases isInitial : found.initialState? <;> grind

/-- A request, with the instant at which it comes and the id that a new session would get then. -/
structure Occasion where
  now : Instant
  freshId : String
  request : CarrierRequest

inductive Handling where
  | resume (session : Session)
  | start (record : ServiceRecord)
  | inform

def Handling.service? : Handling → Option String
  | .resume session => some session.serviceCode
  | .start record => some record.code
  | .inform => none

theorem Handling.eq_inform_of_service? {handling : Handling} (none : handling.service? = none) :
    handling = .inform := by
  cases handling with
  | inform => rfl
  | resume session => cases none
  | start record => cases none

namespace Occasion

variable {β : Type}

def circumstances (setting : Setting) (occasion : Occasion) : Setting :=
  { setting with now := occasion.now, freshId := occasion.freshId }

def sessionId (occasion : Occasion) (gateway : Gateway β) : String :=
  match occasion.request.namedId? with
  | some id => id
  | none =>
    match (gateway.sessions.latestActive? occasion.request.phoneNumber).filter
      (·.isLive occasion.now) with
    | some session => session.id
    | none => occasion.freshId

def handling (setting : Setting) (occasion : Occasion) (gateway : Gateway β) : Handling :=
  match gateway.live? (occasion.sessionId gateway) occasion.now with
  | some session => .resume session
  | none =>
    match dialledService? setting.engine gateway.catalogue occasion.request with
    | some record => .start record
    | none => .inform

/-- The request starts a service under the id: its definition loads and says where to start. -/
structure Begins (setting : Setting) (id : String) (occasion : Occasion) (gateway : Gateway β) :
    Prop where
  sessionId : occasion.sessionId gateway = id
  starts : ∃ record first, occasion.handling setting gateway = .start record ∧
    gateway.catalogue.beginning? setting record.code = .ok first

/-- The answer to the request, and the gateway afterwards. -/
def serve [Backend β] (setting : Setting) (occasion : Occasion) (gateway : Gateway β) :
    CarrierAnswer × Gateway β :=
  handle (occasion.circumstances setting) occasion.request gateway

end Occasion

variable {setting : Setting}

theorem Occasion.sessionId_of_named {β : Type} {occasion : Occasion} {id : String}
    (named : occasion.request.namedId? = some id) (gateway : Gateway β) :
    occasion.sessionId gateway = id := by
  rw [sessionId, named]

@[simp] theorem Occasion.circumstances_now (occasion : Occasion) :
    (occasion.circumstances setting).now = occasion.now := rfl

@[simp] theorem Occasion.circumstances_engine (occasion : Occasion) :
    (occasion.circumstances setting).engine = setting.engine := rfl

theorem Occasion.handling_eq_resume {β : Type} {occasion : Occasion} {gateway : Gateway β}
    {session : Session} : occasion.handling setting gateway = .resume session ↔
      gateway.live? (occasion.sessionId gateway) occasion.now = some session := by
  unfold handling
  cases gateway.live? (occasion.sessionId gateway) occasion.now with
  | some current => simp
  | none => cases dialledService? setting.engine gateway.catalogue occasion.request <;> simp

theorem Occasion.handling_eq_start {β : Type} {occasion : Occasion} {gateway : Gateway β}
    {record : ServiceRecord} : occasion.handling setting gateway = .start record ↔
      gateway.live? (occasion.sessionId gateway) occasion.now = none ∧
        dialledService? setting.engine gateway.catalogue occasion.request = some record := by
  unfold handling
  cases gateway.live? (occasion.sessionId gateway) occasion.now with
  | some current => simp
  | none => cases dialledService? setting.engine gateway.catalogue occasion.request <;> simp

theorem Occasion.handling_eq_inform {β : Type} {occasion : Occasion} {gateway : Gateway β} :
    occasion.handling setting gateway = .inform ↔
      gateway.live? (occasion.sessionId gateway) occasion.now = none ∧
        dialledService? setting.engine gateway.catalogue occasion.request = none := by
  unfold handling
  cases gateway.live? (occasion.sessionId gateway) occasion.now with
  | some current => simp
  | none => cases dialledService? setting.engine gateway.catalogue occasion.request <;> simp

theorem Setting.InOrder.circumstances {setting : Setting} (inOrder : setting.InOrder)
    (occasion : Occasion) : (occasion.circumstances setting).InOrder := inOrder

variable {β : Type}

/-! ## Handling a request -/

theorem on_sessionIdFor (inOrder : setting.InOrder) (occasion : Occasion) (gateway : Gateway β) :
    (sessionIdFor (occasion.circumstances setting) occasion.request).on gateway =
      (.ok (occasion.sessionId gateway), gateway) := by
  unfold sessionIdFor Occasion.sessionId CarrierRequest.namedId?
  dsimp only
  cases (occasion.request.sessionId.map trimmed).filter fun id => !id.isEmpty with
  | some id => rfl
  | none =>
      dsimp only
      rw [Run.on_bind, on_liveSessionOf? (inOrder.circumstances occasion),
        Occasion.circumstances_now]
      cases (gateway.sessions.latestActive? occasion.request.phoneNumber).filter
        (·.isLive occasion.now) with
      | some session => rfl
      | none => rfl

/-- Also where stores are out of order, a session id that is found is the one of the request. -/
theorem Occasion.of_sessionIdFor_eq_ok {occasion : Occasion} {gateway after : Gateway β}
    {id : String}
    (finds : (sessionIdFor (occasion.circumstances setting) occasion.request).on gateway =
      (.ok id, after)) : id = occasion.sessionId gateway ∧ after = gateway := by
  unfold sessionIdFor at finds
  unfold Occasion.sessionId CarrierRequest.namedId?
  dsimp only at finds
  cases named : (occasion.request.sessionId.map trimmed).filter fun id => !id.isEmpty with
  | some name =>
      rw [named] at finds
      cases finds
      exact ⟨rfl, rfl⟩
  | none =>
      rw [named] at finds
      rcases Run.on_bind_eq_ok.mp finds with ⟨found, between, reads, names⟩
      rcases of_liveSessionOf?_eq_ok reads with ⟨isLatest, rfl⟩
      rw [Occasion.circumstances_now] at isLatest
      dsimp only
      rw [← isLatest]
      cases found with
      | some session =>
          cases names
          exact ⟨rfl, rfl⟩
      | none =>
          cases names
          exact ⟨rfl, rfl⟩

section Requests

variable [Backend β]

theorem on_dispatch (inOrder : setting.InOrder) (id : String) (request : CarrierRequest)
    (gateway : Gateway β) :
    (dispatch setting id request).on gateway =
      match gateway.live? id setting.now with
      | some current => (continueSession setting current request.text).on gateway
      | none => (dial setting id request).on gateway := by
  unfold dispatch
  rw [Run.on_bind, Run.on_inTurn, on_liveSession? inOrder]
  cases gateway.live? id setting.now with
  | some current => rfl
  | none => rfl

theorem handle_eq_of_on {request : CarrierRequest} {gateway final : Gateway β}
    {answer : CarrierAnswer}
    (handles : (handleRun setting request).on gateway = (.ok answer, final)) :
    handle setting request gateway = (answer, final) := by
  have runs : (handleRun setting request).run gateway = (.ok answer, final) := handles
  rw [handle, runs]

/-- Requests of one phone number whose session id is found in the same way are handled alike if they
are dispatched alike. -/
theorem handle_congr {left right : CarrierRequest} {gateway : Gateway β}
    (phone : left.phoneNumber = right.phoneNumber)
    (finds : (sessionIdFor setting left : Run β Fault String) = sessionIdFor setting right)
    (same : ∀ id after, (sessionIdFor setting left).on gateway = (.ok id, after) →
      (dispatch setting id left).on after = (dispatch setting id right).on after) :
    handle setting left gateway = handle setting right gateway := by
  have running : (handleRun setting left).on gateway = (handleRun setting right).on gateway := by
    unfold handleRun
    dsimp only
    rw [← finds, ← phone]
    apply Run.on_bind_congr
    intro found after attempted
    rw [Run.on_attemptRun] at attempted
    cases found with
    | error fault => rfl
    | ok id =>
        have isFound : (sessionIdFor setting left).on gateway = (.ok id, after) := by
          rcases ran : (sessionIdFor setting left).on gateway with ⟨result, read⟩
          rw [ran] at attempted
          cases attempted
          rfl
        dsimp only
        rw [Run.on_bind, Run.on_bind, Run.on_attemptRun, Run.on_attemptRun, same id after isFound]
  have runs : (handleRun setting left).run gateway = (handleRun setting right).run gateway :=
    running
  rw [handle, handle, runs]

/-- A failed request ends its session and tells nothing about the cause. -/
theorem Occasion.serve_eq (inOrder : setting.InOrder) (occasion : Occasion) (gateway : Gateway β) :
    occasion.serve setting gateway =
      match (dispatch (occasion.circumstances setting) (occasion.sessionId gateway)
        occasion.request).on gateway with
      | (.ok answer, after) => (answer, after)
      | (.error error, after) =>
        (.conclude setting.engine.technicalErrorMessage,
          { after with
            sessions := after.sessions.update (occasion.sessionId gateway)
              (·.deactivate occasion.now)
            log := after.log ++ [.turnFailed (occasion.sessionId gateway) error.message,
              .sessionEnded (occasion.sessionId gateway)] }) := by
  apply handle_eq_of_on
  unfold handleRun
  dsimp only
  rw [Run.on_bind, Run.on_attemptRun, on_sessionIdFor inOrder]
  dsimp only
  rw [Run.on_bind, Run.on_attemptRun]
  rcases (dispatch (occasion.circumstances setting) (occasion.sessionId gateway)
    occasion.request).on gateway with ⟨error | answer, after⟩
  · dsimp only
    rw [Run.on_bind, Run.on_note]
    dsimp only
    rw [Run.on_bind]
    unfold endFailed
    rw [Run.on_bind, Run.on_attemptRun, on_endSession (inOrder.circumstances occasion)]
    simp
  · rfl

theorem RequestScope.respects_serve {related : Gateway β → Gateway β → Prop} {occasion : Occasion}
    {id : String} {phones : String → Prop}
    (scope : RequestScope related (occasion.circumstances setting) id phones)
    (inOrder : setting.InOrder) (isOwn : phones occasion.request.phoneNumber)
    {left right : Gateway β} (holds : related left right) (ofLeft : occasion.sessionId left = id)
    (ofRight : occasion.sessionId right = id) :
    (occasion.serve setting left).1 = (occasion.serve setting right).1 ∧
      related (occasion.serve setting left).2 (occasion.serve setting right).2 := by
  rcases scope.respects_dispatch (inOrder.circumstances occasion) isOwn left right holds with
    ⟨results, relates⟩
  rw [Occasion.serve_eq inOrder, Occasion.serve_eq inOrder, ofLeft, ofRight]
  rcases onLeft : (dispatch (occasion.circumstances setting) id occasion.request).on left with
    ⟨error | answer, afterLeft⟩ <;>
    rcases onRight : (dispatch (occasion.circumstances setting) id occasion.request).on right with
      ⟨otherError | otherAnswer, afterRight⟩ <;>
    rw [onLeft, onRight] at results relates
  · cases results
    exact ⟨rfl, scope.noted _ _ (scope.ended _ _ relates) _⟩
  · cases results
  · cases results
  · cases results
    exact ⟨rfl, relates⟩

theorem chosenService?_of_isEmpty (services : List ServiceRecord) {choice : String}
    (empty : choice.isEmpty = true) : chosenService? services choice = none := by
  rw [String.isEmpty_iff.mp empty]
  rfl

theorem chosenService?_zero (services : List ServiceRecord) :
    chosenService? services "0" = none := by
  have zero : Text.unsigned? "0".toList = some 0 := by decide +kernel
  rw [chosenService?, zero]
  rfl

theorem on_openMenu (inOrder : setting.InOrder) (id phoneNumber choice : String)
    (gateway : Gateway β) :
    ∃ events, (openMenu setting id phoneNumber choice).on gateway =
      match chosenService? gateway.catalogue.active choice with
      | some record => (startService setting id phoneNumber record).on
          { gateway with log := gateway.log ++ events }
      | none => (.ok (menuAnswer setting gateway.catalogue.active choice),
          { gateway with log := gateway.log ++ events }) := by
  have lists : (inTurn (activeServices setting)).on gateway =
      (.ok gateway.catalogue.active, gateway) := by
    rw [Run.on_inTurn, activeServices, Run.on_bind,
      on_requireOrder_of_none (inOrder .listServices (by decide))]
    rfl
  unfold openMenu menuAnswer
  rw [Run.on_bind, lists]
  dsimp only
  split
  · rename_i empty
    rw [chosenService?_of_isEmpty _ empty]
    exact ⟨[], by rw [List.append_nil]; rfl⟩
  · split
    · rename_i zero
      rw [zero, chosenService?_zero]
      exact ⟨[], by rw [List.append_nil]; rfl⟩
    · cases chosenService? gateway.catalogue.active choice with
      | some record =>
          dsimp only
          rw [Run.on_bind, Run.on_note]
          exact ⟨_, rfl⟩
      | none => exact ⟨[], by rw [List.append_nil]; rfl⟩

/-- What a request dials is decided before anything is changed. -/
theorem on_dial (inOrder : setting.InOrder) (id : String) (request : CarrierRequest)
    (gateway : Gateway β) :
    ∃ events, (dial setting id request).on gateway =
      match dialledService? setting.engine gateway.catalogue request with
      | some record => (startService setting id request.phoneNumber record).on
          { gateway with log := gateway.log ++ events }
      | none => (.ok (dialAnswer setting gateway.catalogue request),
          { gateway with log := gateway.log ++ events }) := by
  have finds : (inTurn (serviceByShortCode? setting (trimmed request.dialled))).on gateway =
      (.ok ((gateway.catalogue.byShortCode? (trimmed request.dialled)).filter
        ServiceRecord.isActive), gateway) := by
    rw [Run.on_inTurn, serviceByShortCode?, Run.on_bind,
      on_requireOrder_of_none (inOrder .findShortCode (by decide))]
    rfl
  unfold dial dialledService? dialAnswer
  dsimp only
  rcases menuDial? setting.engine.mainMenuCode (trimmed request.dialled) with _ | _ | choice
  · dsimp only
    rw [Run.on_bind, finds]
    cases (gateway.catalogue.byShortCode? (trimmed request.dialled)).filter
        ServiceRecord.isActive with
    | some record => exact ⟨[], by rw [List.append_nil]⟩
    | none =>
        refine ⟨[.unknownShortCode (trimmed request.dialled)], ?_⟩
        dsimp only
        rw [Run.on_bind, Run.on_note]
        rfl
  · dsimp only
    exact on_openMenu inOrder id request.phoneNumber (trimmed request.text) gateway
  · dsimp only
    exact on_openMenu inOrder id request.phoneNumber choice gateway

/-- A request is dispatched the way it is handled; the log alone may have been written to before. -/
theorem Occasion.dispatch_eq (inOrder : setting.InOrder) (occasion : Occasion)
    (gateway : Gateway β) :
    let circumstances := occasion.circumstances setting
    let id := occasion.sessionId gateway
    ∃ events, (dispatch circumstances id occasion.request).on gateway =
      match occasion.handling setting gateway with
      | .resume session => (continueSession circumstances session occasion.request.text).on gateway
      | .start record =>
        (startService circumstances id occasion.request.phoneNumber record).on
          { gateway with log := gateway.log ++ events }
      | .inform => (.ok (dialAnswer circumstances gateway.catalogue occasion.request),
          { gateway with log := gateway.log ++ events }) := by
  intro circumstances id
  have inOrder' : circumstances.InOrder := inOrder.circumstances occasion
  rcases on_dial inOrder' id occasion.request gateway with ⟨events, dials⟩
  refine ⟨events, ?_⟩
  rw [on_dispatch inOrder']
  cases live : gateway.live? id circumstances.now with
  | some session =>
      have handled : occasion.handling setting gateway = .resume session :=
        handling_eq_resume.mpr live
      rw [handled]
  | none =>
      dsimp only
      rw [dials]
      cases dialled : dialledService? circumstances.engine gateway.catalogue occasion.request with
      | some record =>
          have handled : occasion.handling setting gateway = .start record :=
            handling_eq_start.mpr ⟨live, dialled⟩
          rw [handled]
      | none =>
          have handled : occasion.handling setting gateway = .inform :=
            handling_eq_inform.mpr ⟨live, dialled⟩
          rw [handled]

/-- What is left of starting a service when it is known how it begins. -/
def beginService (setting : Setting) (id phoneNumber serviceCode : String)
    (definition : Definition) (initial : State) : Run β TurnError CarrierAnswer := do
  let session ← inTurn (openSession setting id phoneNumber serviceCode initial.id
    definition.sessionLimits.effectiveTimeout?)
  let screen ← startTurn setting definition session
  conclude setting id screen

theorem on_beginService (inOrder : setting.InOrder) {id : String} (phoneNumber serviceCode : String)
    (definition : Definition) (initial : State) {gateway : Gateway β}
    (notLive : gateway.live? id setting.now = none) :
    let session : Session := .begin id phoneNumber serviceCode initial.id
      (timeoutOf setting definition.sessionLimits.effectiveTimeout?) setting.now
    (beginService setting id phoneNumber serviceCode definition initial).on gateway =
      (do
        let screen ← startTurn setting definition session
        conclude setting id screen : Run β TurnError CarrierAnswer).on { gateway with
          sessions := gateway.sessions.save session
          log := gateway.log ++ openingEvents setting gateway id serviceCode initial.id } := by
  unfold beginService
  rw [Run.on_bind, Run.on_inTurn, on_openSession inOrder, openedSession, notLive]
  rfl

theorem on_startService (inOrder : setting.InOrder) {gateway : Gateway β}
    (keyed : gateway.catalogue.Keyed) (agrees : gateway.catalogue.Agrees gateway.cache)
    (id phoneNumber : String) (record : ServiceRecord) :
    ∃ events,
      let loaded := { gateway with
        cache := gateway.catalogue.cacheAfter gateway.cache record.code
        log := gateway.log ++ events }
      (startService setting id phoneNumber record).on gateway =
        match gateway.catalogue.beginning? setting record.code with
        | .error error => (.error error, loaded)
        | .ok (definition, initial) =>
          (beginService setting id phoneNumber record.code definition initial).on loaded := by
  rcases on_loadDefinition inOrder keyed agrees record.code with ⟨events, loads⟩
  unfold startService Catalogue.beginning?
  cases defined : gateway.catalogue.definition? record.code with
  | error fault =>
      refine ⟨events, ?_⟩
      rw [Run.on_bind, Run.on_inTurn, loads, defined]
      rfl
  | ok definition =>
      rw [defined] at loads
      rcases on_startState? (ε := TurnError) definition { gateway with
        cache := gateway.catalogue.cacheAfter gateway.cache record.code
        log := gateway.log ++ events } with ⟨noted, chooses⟩
      refine ⟨events ++ noted, ?_⟩
      rw [Run.on_bind_of_ok (Run.on_inTurn_eq_ok.mpr loads), Run.on_bind_of_ok chooses]
      simp only [List.append_assoc]
      cases definition.initialState? with
      | none => rfl
      | some initial => rfl

end Requests

/-! ## What a request leaves alone -/

/-- The stores hold everything in its place, and the kept definitions are those of the catalogue. -/
structure Gateway.Sound (gateway : Gateway β) : Prop where
  ordered : Table.Ordered gateway.sessions
  keyed : SessionStore.Keyed gateway.sessions
  listed : gateway.catalogue.Keyed
  agrees : gateway.catalogue.Agrees gateway.cache

theorem Gateway.Sound.save {gateway : Gateway β} (sound : gateway.Sound) (session : Session) :
    Gateway.Sound { gateway with sessions := gateway.sessions.save session } where
  ordered := sound.ordered.insert _ _
  keyed := sound.keyed.save session
  listed := sound.listed
  agrees := sound.agrees

theorem Gateway.Sound.deactivate {gateway : Gateway β} (sound : gateway.Sound) (id : String)
    (now : Instant) :
    Gateway.Sound { gateway with sessions := gateway.sessions.update id (·.deactivate now) } where
  ordered := SessionStore.ordered_update sound.ordered id (·.deactivate now)
  keyed := sound.keyed.update id (·.deactivate now) fun _ => rfl
  listed := sound.listed
  agrees := sound.agrees

theorem Gateway.Sound.loaded {gateway : Gateway β} (sound : gateway.Sound) (code : String)
    {log : List Event} :
    Gateway.Sound { gateway with
      cache := gateway.catalogue.cacheAfter gateway.cache code
      log := log } :=
  ⟨sound.ordered, sound.keyed, sound.listed, sound.agrees.cacheAfter code⟩

theorem Gateway.Sound.congr {gateway : Gateway β} (sound : gateway.Sound) {records : RecordStore}
    {backend : β} {log : List Event} :
    Gateway.Sound { gateway with records := records, backend := backend, log := log } :=
  ⟨sound.ordered, sound.keyed, sound.listed, sound.agrees⟩

/-- Since `start`, only the session of one id has been worked on. -/
structure Frame (id : String) (start gateway : Gateway β) : Prop where
  sound : gateway.Sound
  catalogue : gateway.catalogue = start.catalogue
  others : ∀ other, other ≠ id →
    Table.get? gateway.sessions other = Table.get? start.sessions other

theorem Frame.refl {gateway : Gateway β} (sound : gateway.Sound) (id : String) :
    Frame id gateway gateway :=
  ⟨sound, rfl, fun _ _ => rfl⟩

theorem Frame.keeps_loadDefinition {id : String} {start : Gateway β} (inOrder : setting.InOrder)
    (code : String) :
    (loadDefinition setting code : Run β Fault Definition).Keeps (Frame id start) := by
  intro gateway frame
  rcases on_loadDefinition inOrder frame.sound.listed frame.sound.agrees code with
    ⟨events, loads⟩
  rw [loads]
  exact ⟨frame.sound.loaded code, frame.catalogue, frame.others⟩

section Turns

variable [Backend β]

theorem Frame.requestScope (inOrder : setting.InOrder) (id : String) (start : Gateway β) :
    RequestScope (Run.Alone (Frame id start)) setting id fun _ => True := by
  apply RequestScope.alone
  case loaded => exact Frame.keeps_loadDefinition inOrder
  case noted =>
    exact fun gateway frame events => ⟨frame.sound.congr, frame.catalogue, frame.others⟩
  case sent =>
    exact fun gateway frame backend => ⟨frame.sound.congr, frame.catalogue, frame.others⟩
  case owned =>
    intro gateway frame stored found
    exact ⟨frame.sound.keyed id stored found, trivial⟩
  case saved =>
    rintro gateway frame session rfl _
    refine ⟨frame.sound.save session, frame.catalogue, fun other different => ?_⟩
    exact (SessionStore.get?_save_other _ different).trans (frame.others other different)
  case ended =>
    intro gateway frame now
    refine ⟨frame.sound.deactivate id now, frame.catalogue, fun other different => ?_⟩
    exact (SessionStore.get?_update_other _ different (·.deactivate now)).trans
      (frame.others other different)
  case recorded =>
    exact fun gateway frame records _ => ⟨frame.sound.congr, frame.catalogue, frame.others⟩

theorem Occasion.serve_frame (inOrder : setting.InOrder) (occasion : Occasion)
    {gateway : Gateway β} (sound : gateway.Sound) :
    Frame (occasion.sessionId gateway) gateway (occasion.serve setting gateway).2 := by
  have scope := Frame.requestScope (inOrder.circumstances occasion)
    (occasion.sessionId gateway) gateway
  have start : Run.Alone (Frame (occasion.sessionId gateway) gateway) gateway gateway :=
    ⟨rfl, .refl sound _⟩
  exact (scope.respects_serve inOrder trivial start rfl rfl).2.2

/-! ## What a turn leaves of its session -/

/-- The session waits for an answer, as long as its service allows. -/
structure Waits (setting : Setting) (definition : Definition) (serviceCode : String)
    (session : Session) : Prop where
  isActive : session.isActive = true
  service : session.serviceCode = serviceCode
  expires : session.expiresAt = setting.now.plusSeconds
    (timeoutOf setting definition.sessionLimits.effectiveTimeout?)
  interactive : ∃ state, (definition.state? session.stateId = some state ∨
      definition.initialState? = some state ∧ session.stateId = state.id) ∧
    state.type.isInteractive = true

/-- After a turn of a service its session waits or has ended, as the answer says. -/
structure Settled (setting : Setting) (catalogue : Catalogue) (id serviceCode : String)
    (answer : CarrierAnswer) (gateway : Gateway β) : Prop where
  waits : answer.continues = true → ∃ definition session,
    catalogue.definition? serviceCode = .ok definition ∧
      Table.get? gateway.sessions id = some session ∧ Waits setting definition serviceCode session
  ended : answer.continues = false → ∀ session,
    Table.get? gateway.sessions id = some session → session.isActive = false

omit [Backend β] in
theorem inactive_of_deactivated {gateway : Gateway β} {id : String} {now : Instant}
    {session : Session}
    (found : Table.get? (gateway.sessions.update id (·.deactivate now)) id = some session) :
    session.isActive = false := by
  rw [SessionStore.get?_update, if_pos rfl] at found
  rcases Option.map_eq_some_iff.mp found with ⟨stored, -, rfl⟩
  rfl

omit [Backend β] in
theorem on_conclude (inOrder : setting.InOrder) (id : String) (screen : Screen)
    (gateway : Gateway β) :
    (conclude setting id screen).on gateway =
      (.ok { message := screen.message, continues := screen.continues },
        if screen.continues then gateway
        else { gateway with
          sessions := gateway.sessions.update id (·.deactivate setting.now)
          log := gateway.log ++ [.sessionEnded id] }) := by
  unfold conclude
  cases screen.continues with
  | true => rfl
  | false =>
      simp only [Bool.not_false, if_true]
      rw [Run.on_bind, Run.on_inTurn, on_endSession inOrder]
      rfl

/-- The end of a turn that has made its screen. -/
theorem settled_of_conclude (inOrder : setting.InOrder) {catalogue : Catalogue}
    {definition : Definition} (session : Session) {start gateway final : Gateway β}
    {screen : Screen} {answer : CarrierAnswer} {state : State}
    (defined : catalogue.definition? session.serviceCode = .ok definition)
    (isActive : session.isActive = true)
    (expires : session.expiresAt = setting.now.plusSeconds
      (timeoutOf setting definition.sessionLimits.effectiveTimeout?))
    (stands : Stands session start screen.stateId gateway)
    (known : definition.state? state.id = some state ∨ definition.initialState? = some state)
    (shown : ScreenOf setting ⟨definition, session⟩ start gateway screen state)
    (concludes : (conclude setting session.id screen).on gateway = (.ok answer, final)) :
    Settled setting catalogue session.id session.serviceCode answer final := by
  rw [on_conclude inOrder] at concludes
  cases concludes
  cases continues : screen.continues with
  | true =>
      rcases stands.stored with ⟨data, lastActivity, stored⟩
      refine ⟨fun _ => ⟨definition, _, defined, stored, ?_⟩, nofun⟩
      refine ⟨isActive, rfl, expires, state, ?_, shown.answerable continues⟩
      exact known.imp (fun found => shown.stateId ▸ found)
        fun isInitial => ⟨isInitial, shown.stateId.symm⟩
  | false => exact ⟨nofun, fun _ session found => inactive_of_deactivated found⟩

theorem settled_of_continueSession (inOrder : setting.InOrder) {gateway final : Gateway β}
    (sound : gateway.Sound) {current : Session} {id text : String} {answer : CarrierAnswer}
    (live : gateway.live? id setting.now = some current)
    (continues : (continueSession setting current text).on gateway = (.ok answer, final)) :
    Settled setting gateway.catalogue id current.serviceCode answer final := by
  rcases Gateway.live?_eq_some.mp live with ⟨found, isLive⟩
  cases sound.keyed id current found
  unfold continueSession at continues
  rcases Run.on_bind_eq_ok.mp continues with ⟨definition, loaded, loads, afterLoad⟩
  rcases on_loadDefinition inOrder sound.listed sound.agrees current.serviceCode with
    ⟨events, loading⟩
  rw [Run.on_inTurn_eq_ok, loading] at loads
  rcases Prod.mk.inj loads with ⟨gives, isLoaded⟩
  have defined := mapError_eq_ok.mp gives
  have foundLoaded : Table.get? loaded.sessions current.id = some current := by
    rw [← isLoaded]
    exact found
  rcases Run.on_bind_eq_ok.mp afterLoad with ⟨session, touched, touches, afterTouch⟩
  rw [Run.on_inTurn_eq_ok, on_touchSession inOrder foundLoaded] at touches
  rcases Prod.mk.inj touches with ⟨isSession, isTouched⟩
  cases isSession
  rcases Run.on_bind_eq_ok.mp afterTouch with ⟨screen, shown, answers, concludes⟩
  have active := (Bool.and_eq_true_iff.mp isLive).1
  let session : Session := current.touch
    (timeoutOf setting definition.sessionLimits.effectiveTimeout?) setting.now
  have stored : Table.get? touched.sessions session.id = some session := by
    rw [← isTouched]
    exact SessionStore.get?_save_same _ session
  rcases settles_answerTurn setting definition session touched text touched (.refl stored) screen
    shown answers with ⟨stands, state, known, ofScreen⟩
  have expires : session.expiresAt = setting.now.plusSeconds
      (timeoutOf setting definition.sessionLimits.effectiveTimeout?) := rfl
  exact settled_of_conclude inOrder session defined active expires stands (.inl known) ofScreen
    concludes

theorem settled_of_startService (inOrder : setting.InOrder) {gateway final : Gateway β}
    (sound : gateway.Sound) {id phoneNumber : String} {record : ServiceRecord}
    {answer : CarrierAnswer} (notLive : gateway.live? id setting.now = none)
    (starts : (startService setting id phoneNumber record).on gateway = (.ok answer, final)) :
    Settled setting gateway.catalogue id record.code answer final := by
  rcases on_startService inOrder sound.listed sound.agrees id phoneNumber record with
    ⟨events, equation⟩
  rw [equation] at starts
  cases begins : gateway.catalogue.beginning? setting record.code with
  | error error => simp [begins] at starts
  | ok first =>
      rcases first with ⟨definition, initial⟩
      rcases Catalogue.beginning?_eq_ok.mp begins with ⟨defined, isInitial⟩
      simp only [begins] at starts
      have notLiveLoaded : Gateway.live? { gateway with
          cache := gateway.catalogue.cacheAfter gateway.cache record.code
          log := gateway.log ++ events } id setting.now = none := notLive
      rw [on_beginService inOrder _ _ _ _ notLiveLoaded] at starts
      rcases Run.on_bind_eq_ok.mp starts with ⟨screen, shown, begins, concludes⟩
      let session : Session := .begin id phoneNumber record.code initial.id
        (timeoutOf setting definition.sessionLimits.effectiveTimeout?) setting.now
      have stored := SessionStore.get?_save_same gateway.sessions session
      rcases settles_startTurn isInitial _ _ (.refl stored) screen shown begins with
        ⟨stands, state, found, ofScreen⟩
      have known : definition.state? state.id = some state ∨
          definition.initialState? = some state := by
        rcases found with resolved | rfl
        · exact .inl resolved
        · exact .inr isInitial
      have expires : session.expiresAt = setting.now.plusSeconds
          (timeoutOf setting definition.sessionLimits.effectiveTimeout?) := rfl
      exact settled_of_conclude inOrder session defined rfl expires stands known ofScreen concludes

namespace Occasion

/-- A request that no turn is run for only adds to the log. -/
theorem serve_inform (inOrder : setting.InOrder) {occasion : Occasion} {gateway : Gateway β}
    (informs : occasion.handling setting gateway = .inform) :
    ∃ events, occasion.serve setting gateway =
      (dialAnswer (occasion.circumstances setting) gateway.catalogue occasion.request,
        { gateway with log := gateway.log ++ events }) := by
  rcases occasion.dispatch_eq inOrder gateway with ⟨events, dispatches⟩
  rw [serve_eq inOrder, dispatches, informs]
  exact ⟨events, rfl⟩

/-- After a turn of a service, also one that has failed, the session of the request waits for an
answer or has ended, as the carrier is told. -/
theorem serve_settled (inOrder : setting.InOrder) {occasion : Occasion} {gateway : Gateway β}
    (sound : gateway.Sound) {serviceCode : String}
    (turns : (occasion.handling setting gateway).service? = some serviceCode) :
    Settled (occasion.circumstances setting) gateway.catalogue (occasion.sessionId gateway)
      serviceCode (occasion.serve setting gateway).1 (occasion.serve setting gateway).2 := by
  rcases occasion.dispatch_eq inOrder gateway with ⟨events, dispatches⟩
  rw [serve_eq inOrder]
  rcases dispatched : (dispatch (occasion.circumstances setting) (occasion.sessionId gateway)
    occasion.request).on gateway with ⟨error | answer, after⟩
  · exact ⟨nofun, fun _ session found => inactive_of_deactivated found⟩
  · rw [dispatches] at dispatched
    have inOrder' := inOrder.circumstances occasion
    cases handled : occasion.handling setting gateway with
    | inform =>
        rw [handled] at turns
        cases turns
    | resume session =>
        rw [handled] at turns dispatched
        cases turns
        exact settled_of_continueSession inOrder' sound (handling_eq_resume.mp handled) dispatched
    | start record =>
        rw [handled] at turns dispatched
        cases turns
        have noted : Gateway.Sound { gateway with log := gateway.log ++ events } := sound.congr
        exact settled_of_startService inOrder' noted (handling_eq_start.mp handled).1 dispatched

end Occasion

/-! ## Conversations -/

/-- The answers to requests that come one after the other, and the gateway at the end. -/
def converse (setting : Setting) : List Occasion → Gateway β → List CarrierAnswer × Gateway β
  | [], gateway => ([], gateway)
  | occasion :: rest, gateway =>
    let served := occasion.serve setting gateway
    let later := converse setting rest served.2
    (served.1 :: later.1, later.2)

/-- The requests of a conversation, each with the gateway that it finds. -/
def encounters (setting : Setting) : List Occasion → Gateway β → List (Occasion × Gateway β)
  | [], _ => []
  | occasion :: rest, gateway =>
    (occasion, gateway) :: encounters setting rest (occasion.serve setting gateway).2

end Turns

def Gateway.opened (services : List ServiceRecord) (records : RecordStore) (backend : β) :
    Gateway β :=
  { Gateway.empty backend with
    catalogue := services.foldl Catalogue.add []
    records := records }

theorem Gateway.Sound.opened (services : List ServiceRecord) (records : RecordStore)
    (backend : β) : (Gateway.opened services records backend).Sound where
  ordered := Table.ordered_nil
  keyed _ _ stored := nomatch stored
  listed := by
    apply Catalogue.Keyed.addAll
    intro code record listed
    cases listed
  agrees _ _ kept := nomatch kept

namespace Sample

def service (code shortCode fields : String) : ServiceRecord where
  code := code
  name := ""
  shortCode := shortCode
  definitionText := "\x7b\"serviceCode\":\"" ++ code ++ "\"," ++ fields ++ "\x7d"
  isActive := true

/-- A menu with one option, which leads to the last screen. -/
def menuService : ServiceRecord :=
  service "menu" "*1#" ("\"states\":[\x7b\"id\":\"a\",\"type\":\"MENU\"," ++
    "\"transitions\":[\x7b\"input\":\"1\",\"nextState\":\"b\"\x7d]\x7d," ++
    "\x7b\"id\":\"b\",\"type\":\"FINAL\"\x7d]")

/-- Two states of one id; sessions start in the second one. -/
def shadowedService : ServiceRecord :=
  service "shadowed" "*2#" ("\"states\":[\x7b\"id\":\"a\",\"type\":\"FINAL\"\x7d," ++
    "\x7b\"id\":\"a\",\"type\":\"MENU\",\"isInitial\":true\x7d]")

def visit (seconds : Int) (sessionId : Option String) (phoneNumber dialled text : String) :
    Occasion where
  now := { seconds := seconds, nanoseconds := 0 }
  freshId := "fresh"
  request :=
    { sessionId := sessionId, phoneNumber := phoneNumber, dialled := dialled, text := text }

theorem inOrder : Sample.setting.InOrder := fun _ _ => rfl

end Sample

end Ussd
