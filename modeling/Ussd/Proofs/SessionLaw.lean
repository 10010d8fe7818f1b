import Ussd.Proofs.Resting

/-! # Laws of stored sessions

A law is a property that sessions begin with and that nothing takes away which a turn of their
service may do. Every session that a gateway stores then has it, after any requests and sweeps, also
where stores fail on the way: a turn that breaks off has done nothing else than one that goes on.

Between the requests nothing more is known about the sessions. Within one, it matters that its
session belongs to the service whose definition has been loaded, and that a service is only opened
where no session is live. -/

namespace Ussd

/-- The permits say what the turns of a definition may do. -/
structure SessionLaw (catalogue : Catalogue) (permit : Definition → Permit)
    (lawful : Session → Prop) : Prop where
  covers : ∀ code definition, catalogue.definition? code = .ok definition →
    ∀ state ∈ definition.states, (permit definition).Covers state
  begun : ∀ code definition, catalogue.definition? code = .ok definition →
    ∀ initial, definition.initialState? = some initial → ∀ id phoneNumber timeout now,
      lawful (.begin id phoneNumber code initial.id timeout now)
  merged : ∀ session definition, catalogue.definition? session.serviceCode = .ok definition →
    lawful session → ∀ entries,
      (∀ entry ∈ entries, (permit definition).keeps entry.1 entry.2) → ∀ now,
        lawful (session.merge entries now)
  moved : ∀ session definition, catalogue.definition? session.serviceCode = .ok definition →
    lawful session → ∀ state, (permit definition).enters state → ∀ now,
      lawful (session.moveTo state.id now)
  touched : ∀ session, lawful session → ∀ timeout now, lawful (session.touch timeout now)
  ended : ∀ session, lawful session → ∀ now, lawful (session.deactivate now)

/-- The session of the id, if there is one, is not live. -/
def SessionStore.Unlive (id : String) (now : Instant) (sessions : SessionStore) : Prop :=
  ∀ session, Table.get? sessions id = some session → session.isLive now = false

/-- The session of the id, if there is one, is one of the service. -/
def SessionStore.Serves (id serviceCode : String) (sessions : SessionStore) : Prop :=
  ∀ session, Table.get? sessions id = some session → session.serviceCode = serviceCode

theorem SessionStore.Serves.of_found {id : String} {sessions : SessionStore} {session : Session}
    (found : Table.get? sessions id = some session) : Serves id session.serviceCode sessions := by
  intro other listed
  cases found.symm.trans listed
  rfl

theorem SessionStore.Serves.save {id serviceCode : String} {sessions : SessionStore}
    (serves : Serves id serviceCode sessions) {session : Session}
    (ofService : session.serviceCode = serviceCode) :
    Serves id serviceCode (sessions.save session) := by
  intro found listed
  rcases get?_save_cases listed with rfl | kept
  · exact ofService
  · exact serves found kept

variable {β : Type} {catalogue : Catalogue} {permit : Definition → Permit}
  {lawful : Session → Prop} {known : SessionStore → Prop} {setting : Setting}
  {id phoneNumber code : String}

/-- All stored sessions are lawful, and something else is known about them. -/
structure Gateway.Lawful (catalogue : Catalogue) (lawful : Session → Prop)
    (known : SessionStore → Prop) (gateway : Gateway β) : Prop where
  sound : gateway.Sound
  services : gateway.catalogue = catalogue
  sessions : ∀ id session, Table.get? gateway.sessions id = some session → lawful session
  known : known gateway.sessions

/-- All stored sessions are lawful. -/
def Gateway.Orderly (catalogue : Catalogue) (lawful : Session → Prop) (gateway : Gateway β) :
    Prop :=
  gateway.Lawful catalogue lawful fun _ => True

/-- Whatever the computation gives and whether or not it fails, all stored sessions are lawful
afterwards. -/
def Run.LeavesOrder {ε α : Type} (catalogue : Catalogue) (lawful : Session → Prop)
    (known : SessionStore → Prop) (run : Run β ε α) : Prop :=
  Run.Ends (Gateway.Lawful catalogue lawful known) run
    (fun _ gateway => gateway.Orderly catalogue lawful)
    fun _ gateway => gateway.Orderly catalogue lawful

namespace Gateway.Lawful

variable {gateway : Gateway β}

theorem learn (holds : gateway.Lawful catalogue lawful known) {later : SessionStore → Prop}
    (laterKnown : later gateway.sessions) : gateway.Lawful catalogue lawful later :=
  ⟨holds.sound, holds.services, holds.sessions, laterKnown⟩

theorem orderly (holds : gateway.Lawful catalogue lawful known) :
    gateway.Orderly catalogue lawful :=
  holds.learn trivial

theorem congr (holds : gateway.Lawful catalogue lawful known) {records : RecordStore}
    {backend : β} {log : List Event} :
    Gateway.Lawful catalogue lawful known
      { gateway with records := records, backend := backend, log := log } :=
  ⟨holds.sound.congr, holds.services, holds.sessions, holds.known⟩

theorem save (holds : gateway.Lawful catalogue lawful known) {session : Session}
    (isLawful : lawful session) {later : SessionStore → Prop}
    (laterKnown : later (gateway.sessions.save session)) :
    Gateway.Lawful catalogue lawful later
      { gateway with sessions := gateway.sessions.save session } where
  sound := holds.sound.save session
  services := holds.services
  sessions other found listed := by
    rcases SessionStore.get?_save_cases listed with rfl | kept
    · exact isLawful
    · exact holds.sessions other found kept
  known := laterKnown

end Gateway.Lawful

/-! ## Work on a session -/

/-- What a turn of the service does. -/
theorem SessionLaw.workScope [Backend β] (law : SessionLaw catalogue permit lawful)
    {definition : Definition} (defined : catalogue.definition? code = .ok definition)
    (serviceCode : String) :
    WorkScope (permit definition) (Run.Alone fun gateway : Gateway β =>
      gateway.Lawful catalogue lawful (SessionStore.Serves id code))
      id phoneNumber serviceCode := by
  apply WorkScope.alone
  case noted => exact fun _ holds _ _ => holds.congr
  case started => exact fun _ holds _ _ => holds.congr
  case entered => exact fun _ holds _ _ => holds.congr
  case sent => exact fun _ holds _ => holds.congr
  case recorded => exact fun _ holds _ => holds.congr
  case merged =>
    intro gateway holds stored found entries kept now
    have ofService := holds.known stored found
    exact holds.save (law.merged stored definition (ofService ▸ defined)
      (holds.sessions id stored found) entries kept now) (holds.known.save ofService)
  case moved =>
    intro gateway holds stored found state entered now
    have ofService := holds.known stored found
    exact holds.save (law.moved stored definition (ofService ▸ defined)
      (holds.sessions id stored found) state entered now) (holds.known.save ofService)

theorem Run.Ends.loadDefinition (setting : Setting) (code : String) :
    Run.Ends (Gateway.Lawful (β := β) catalogue lawful known) (loadDefinition setting code)
      (fun definition gateway => catalogue.definition? code = .ok definition ∧
        gateway.Lawful catalogue lawful known)
      fun _ gateway => gateway.Orderly catalogue lawful := by
  intro gateway holds
  rcases loadDefinition_cases setting holds.sound.listed holds.sound.agrees code with
    ⟨result, cache, events, loads, agrees, defined⟩
  have sound : Gateway.Sound { gateway with cache := cache, log := gateway.log ++ events } :=
    ⟨holds.sound.ordered, holds.sound.keyed, holds.sound.listed, agrees⟩
  have loaded : Gateway.Lawful catalogue lawful known
      { gateway with cache := cache, log := gateway.log ++ events } :=
    ⟨sound, holds.services, holds.sessions, holds.known⟩
  rw [loads]
  cases result with
  | error fault => exact loaded.orderly
  | ok definition => exact ⟨holds.services ▸ defined definition rfl, loaded⟩

theorem Run.Ends.storedSession? (setting : Setting) (id : String) :
    Run.Ends (Gateway.Lawful (β := β) catalogue lawful known) (storedSession? setting id)
      (fun found gateway => gateway.Lawful catalogue lawful known ∧
        found = Table.get? gateway.sessions id)
      fun _ gateway => gateway.Orderly catalogue lawful := by
  unfold Ussd.storedSession?
  exact (Run.Ends.requireOrder setting _ fun _ holds => holds.orderly).bind
    fun _ _ holds => ⟨holds, rfl⟩

theorem Run.Ends.liveSession? (setting : Setting) (id : String) :
    Run.Ends (Gateway.Orderly (β := β) catalogue lawful) (liveSession? setting id)
      (fun found gateway => match found with
        | some current => current.id = id ∧
            gateway.Lawful catalogue lawful (SessionStore.Serves id current.serviceCode)
        | none => gateway.Lawful catalogue lawful (SessionStore.Unlive id setting.now))
      fun _ gateway => gateway.Orderly catalogue lawful := by
  refine (Run.Ends.storedSession? setting id).bind fun found gateway ⟨holds, isStored⟩ => ?_
  subst isStored
  cases stored : Table.get? gateway.sessions id with
  | none => exact holds.learn fun session listed => nomatch stored.symm.trans listed
  | some session =>
      cases live : session.isLive setting.now with
      | true =>
          simp only [Option.filter_some, live, if_true]
          exact ⟨holds.sound.keyed id session stored, holds.learn (.of_found stored)⟩
      | false =>
          simp only [Option.filter_some, live, Bool.false_eq_true, if_false]
          refine holds.learn fun other listed => ?_
          cases stored.symm.trans listed
          exact live

theorem SessionLaw.ends_touchSession (law : SessionLaw catalogue permit lawful)
    (timeout : Option Nat) :
    Run.Ends (Gateway.Lawful (β := β) catalogue lawful (SessionStore.Serves id code))
      (touchSession setting id timeout)
      (fun session gateway => session.id = id ∧
        gateway.Lawful catalogue lawful (SessionStore.Serves id code))
      fun _ gateway => gateway.Orderly catalogue lawful := by
  intro gateway holds
  rcases changes : (touchSession setting id timeout).on gateway with ⟨fault | session, final⟩
  · rw [touchSession, on_changeSession] at changes
    split at changes <;> cases changes <;> exact holds.orderly
  · rcases on_changeSession_eq_ok changes with ⟨stored, found, rfl, rfl⟩
    have touched := law.touched stored (holds.sessions id stored found)
      (timeoutOf setting timeout) setting.now
    exact ⟨holds.sound.keyed id stored found, holds.save touched
      (holds.known.save (holds.known stored found))⟩

/-- A new session takes the place of any other one of its id. -/
theorem Run.Ends.storeSession {session : Session} (isLawful : lawful session) :
    Run.Ends (Gateway.Orderly (β := β) catalogue lawful) (storeSession setting session)
      (fun _ gateway =>
        gateway.Lawful catalogue lawful (SessionStore.Serves session.id session.serviceCode))
      fun _ gateway => gateway.Orderly catalogue lawful := by
  unfold Ussd.storeSession
  refine (Run.Ends.requireOrder setting _ fun _ holds => holds).bind fun _ gateway holds => ?_
  exact holds.save isLawful (.of_found (SessionStore.get?_save_same gateway.sessions session))

theorem SessionLaw.ends_openSession (law : SessionLaw catalogue permit lawful)
    {definition : Definition}
    (defined : catalogue.definition? code = .ok definition) {initial : State}
    (isInitial : definition.initialState? = some initial) (timeout : Option Nat) :
    Run.Ends (Gateway.Lawful (β := β) catalogue lawful (SessionStore.Unlive id setting.now))
      (openSession setting id phoneNumber code initial.id timeout)
      (fun session gateway => session.id = id ∧
        gateway.Lawful catalogue lawful (SessionStore.Serves id code))
      fun _ gateway => gateway.Orderly catalogue lawful := by
  have begun := law.begun code definition defined initial isInitial id phoneNumber
    (timeoutOf setting timeout) setting.now
  have stores : Run.Ends (Gateway.Orderly (β := β) catalogue lawful) (do
      note (.sessionCreated id code initial.id)
      let session ← pure (.begin id phoneNumber code initial.id (timeoutOf setting timeout)
        setting.now)
      storeSession setting session
      return session)
      (fun session gateway => session.id = id ∧
        gateway.Lawful catalogue lawful (SessionStore.Serves id code))
      fun _ gateway => gateway.Orderly catalogue lawful := by
    refine (Run.Ends.note _ fun _ holds => holds.congr).bind fun _ => ?_
    rw [pure_bind]
    exact (Run.Ends.storeSession begun).bind fun _ => .pure _ fun _ holds => ⟨rfl, holds⟩
  unfold openSession
  dsimp only
  refine (Run.Ends.storedSession? setting id).bind fun found => ?_
  cases found with
  | none => exact fun gateway holds => stores gateway holds.1.orderly
  | some existing =>
      dsimp only
      split
      -- A live session would be prolonged here, whatever service it belongs to.
      · rename_i isLive
        rintro gateway ⟨holds, stored⟩
        rw [holds.known existing stored.symm] at isLive
        cases isLive
      · refine (Run.Ends.note _ fun _ holds => ?_).bind fun _ => stores
        exact holds.1.orderly.congr

theorem SessionLaw.leavesOrder_endSession (law : SessionLaw catalogue permit lawful) :
    (endSession setting id : Run β _ _).LeavesOrder catalogue lawful fun _ => True := by
  unfold endSession
  refine (Run.Ends.note _ fun gateway holds => holds.congr).bind fun _ => ?_
  refine (Run.Ends.requireOrder setting _ fun _ holds => holds).bind fun _ gateway holds => ?_
  refine ⟨holds.sound.deactivate id setting.now, holds.services, fun other found listed => ?_,
    trivial⟩
  have changed : (if other = id then (Table.get? gateway.sessions other).map
      (·.deactivate setting.now) else Table.get? gateway.sessions other) = some found :=
    (SessionStore.get?_update _ _ _ _).symm.trans listed
  split at changed
  · rcases Option.map_eq_some_iff.mp changed with ⟨stored, storedFound, rfl⟩
    exact law.ended stored (holds.sessions other stored storedFound) setting.now
  · exact holds.sessions other found changed

theorem SessionLaw.leavesOrder_conclude (law : SessionLaw catalogue permit lawful)
    (screen : Screen) :
    (conclude setting id screen : Run β _ _).LeavesOrder catalogue lawful fun _ => True := by
  unfold conclude
  split
  · exact law.leavesOrder_endSession.inTurn.bind fun _ => .pure _ fun _ holds => holds
  · exact .pure _ fun _ holds => holds

theorem Run.Ends.startState? {ε : Type} {failed : ε → Gateway β → Prop} (definition : Definition) :
    Run.Ends (Gateway.Lawful (β := β) catalogue lawful known) (startState? definition)
      (fun found gateway => found = definition.initialState? ∧
        gateway.Lawful catalogue lawful known) failed := by
  intro gateway holds
  rcases on_startState? (ε := ε) definition gateway with ⟨events, finds⟩
  rw [finds]
  exact ⟨rfl, holds.congr⟩

theorem Run.Respects.leavesOrder {ε α : Type} {run : Run β ε α}
    (respects : run.Respects (Run.Alone fun gateway => gateway.Lawful catalogue lawful known)) :
    run.LeavesOrder catalogue lawful known :=
  (Run.Ends.keeps_iff.mp respects.keeps).mono (fun _ _ holds => holds.orderly)
    fun _ _ holds => holds.orderly

/-! ## Requests -/

section Requests

variable [Backend β] (law : SessionLaw catalogue permit lawful)

include law

theorem SessionLaw.leavesOrder_continueSession {current : Session} (text : String) :
    (continueSession setting current text : Run β _ _).LeavesOrder catalogue lawful
      (SessionStore.Serves current.id current.serviceCode) := by
  unfold continueSession
  refine (Run.Ends.loadDefinition setting current.serviceCode).inTurn.bind fun definition =>
    Run.Ends.given fun defined => ?_
  refine (law.ends_touchSession _).inTurn.bind fun session => Run.Ends.given fun isCurrent => ?_
  rw [← isCurrent]
  have answers : (answerTurn setting definition session text : Run β _ _).Respects _ :=
    (law.workScope defined session.serviceCode).respects_answerTurn
      (law.covers _ definition defined) text
  exact answers.leavesOrder.bind fun screen => law.leavesOrder_conclude screen

theorem SessionLaw.leavesOrder_startService (record : ServiceRecord) :
    (startService setting id phoneNumber record : Run β _ _).LeavesOrder catalogue lawful
      (SessionStore.Unlive id setting.now) := by
  unfold startService
  refine (Run.Ends.loadDefinition setting record.code).inTurn.bind fun definition =>
    Run.Ends.given fun defined => ?_
  refine (Run.Ends.startState? definition).bind fun found => Run.Ends.given fun isFirst => ?_
  cases found with
  | none => exact .throw _ fun _ holds => holds.orderly
  | some initial =>
      refine (law.ends_openSession defined isFirst.symm _).inTurn.bind fun session =>
        Run.Ends.given fun isOwn => ?_
      rw [← isOwn]
      have starts : (startTurn setting definition session : Run β _ _).Respects _ :=
        (law.workScope defined session.serviceCode).respects_startTurn
          (law.covers _ definition defined)
      exact starts.leavesOrder.bind fun screen => law.leavesOrder_conclude screen

theorem SessionLaw.leavesOrder_openMenu (choice : String) :
    (openMenu setting id phoneNumber choice : Run β _ _).LeavesOrder catalogue lawful
      (SessionStore.Unlive id setting.now) := by
  have reads : Run.Ends (Gateway.Lawful (β := β) catalogue lawful
      (SessionStore.Unlive id setting.now)) (activeServices setting)
      (fun _ gateway => gateway.Lawful catalogue lawful (SessionStore.Unlive id setting.now))
      fun _ gateway => gateway.Orderly catalogue lawful :=
    (Run.Ends.requireOrder setting _ fun _ holds => holds.orderly).bind fun _ _ holds => holds
  unfold openMenu
  refine reads.inTurn.bind fun services => ?_
  split
  · exact .pure _ fun _ holds => holds.orderly
  · split
    · exact .pure _ fun _ holds => holds.orderly
    · split
      · refine (Run.Ends.note _ fun _ holds => holds.congr).bind fun _ => ?_
        exact law.leavesOrder_startService _
      · exact .pure _ fun _ holds => holds.orderly

theorem SessionLaw.leavesOrder_dial (request : CarrierRequest) :
    (dial setting id request : Run β _ _).LeavesOrder catalogue lawful
      (SessionStore.Unlive id setting.now) := by
  have reads (dialled : String) : Run.Ends (Gateway.Lawful (β := β) catalogue lawful
      (SessionStore.Unlive id setting.now)) (serviceByShortCode? setting dialled)
      (fun _ gateway => gateway.Lawful catalogue lawful (SessionStore.Unlive id setting.now))
      fun _ gateway => gateway.Orderly catalogue lawful :=
    (Run.Ends.requireOrder setting _ fun _ holds => holds.orderly).bind fun _ _ holds => holds
  unfold dial
  dsimp only
  split
  · exact law.leavesOrder_openMenu _
  · exact law.leavesOrder_openMenu _
  · refine (reads _).inTurn.bind fun found => ?_
    cases found with
    | some record => exact law.leavesOrder_startService record
    | none =>
        refine (Run.Ends.note _ fun _ holds => holds.congr).bind fun _ => ?_
        exact .pure _ fun _ holds => holds.orderly

theorem SessionLaw.leavesOrder_dispatch (request : CarrierRequest) :
    (dispatch setting id request : Run β _ _).LeavesOrder catalogue lawful fun _ => True := by
  unfold dispatch
  refine (Run.Ends.liveSession? setting id).inTurn.bind fun found => ?_
  cases found with
  | some current =>
      refine Run.Ends.given fun isOwn => ?_
      rw [← isOwn]
      exact law.leavesOrder_continueSession request.text
  | none => exact law.leavesOrder_dial request

omit [Backend β] law in
theorem Run.leavesOrder_sessionIdFor (request : CarrierRequest) :
    (sessionIdFor setting request : Run β _ _).LeavesOrder catalogue lawful fun _ => True := by
  have reads : Run.Ends (Gateway.Orderly (β := β) catalogue lawful)
      (liveSessionOf? setting request.phoneNumber)
      (fun _ gateway => gateway.Orderly catalogue lawful)
      fun _ gateway => gateway.Orderly catalogue lawful := by
    unfold liveSessionOf?
    exact (Run.Ends.requireOrder setting _ fun _ holds => holds).bind fun _ _ holds => holds
  unfold sessionIdFor
  dsimp only
  split
  · exact .pure _ fun _ holds => holds
  · refine reads.bind fun found => ?_
    cases found <;> exact .pure _ fun _ holds => holds

omit [Backend β] in
theorem SessionLaw.leavesOrder_endFailed :
    (endFailed setting id : Run β _ _).LeavesOrder catalogue lawful fun _ => True := by
  unfold endFailed
  refine law.leavesOrder_endSession.attemptRun.bind fun result => ?_
  cases result with
  | ok _ => exact .pure _ fun _ holds => holds
  | error fault => exact .note _ fun _ holds => holds.congr

theorem SessionLaw.leavesOrder_handleRun (request : CarrierRequest) :
    (handleRun setting request : Run β _ _).LeavesOrder catalogue lawful fun _ => True := by
  unfold handleRun
  dsimp only
  refine (Run.leavesOrder_sessionIdFor request).attemptRun.bind fun resolved => ?_
  cases resolved with
  | error fault =>
      exact (Run.Ends.note _ fun _ holds => holds.congr).bind fun _ => .pure _ fun _ holds => holds
  | ok sessionId =>
      refine (law.leavesOrder_dispatch request).attemptRun.bind fun result => ?_
      cases result with
      | ok answer => exact .pure _ fun _ holds => holds
      | error error =>
          refine (Run.Ends.note _ fun _ holds => holds.congr).bind fun _ => ?_
          exact law.leavesOrder_endFailed.bind fun _ => .pure _ fun _ holds => holds

theorem SessionLaw.orderly_handle (request : CarrierRequest) {gateway : Gateway β}
    (orderly : gateway.Orderly catalogue lawful) :
    (handle setting request gateway).2.Orderly catalogue lawful := by
  have handled : (handleRun setting request : Run β _ _).LeavesOrder catalogue lawful _ :=
    law.leavesOrder_handleRun request
  have ended := handled gateway orderly
  rcases handles : (handleRun setting request).on gateway with ⟨never | answer, final⟩
  · exact never.elim
  · rw [handles] at ended
    rw [handle_eq_of_on handles]
    exact ended

/-! ## Runs -/

omit [Backend β] in
theorem SessionLaw.leavesOrder_expireSessions :
    (expireSessions setting : Run β _ _).LeavesOrder catalogue lawful fun _ => True := by
  unfold expireSessions
  refine (Run.Ends.requireOrder setting _ fun _ holds => holds).bind fun _ gateway holds => ?_
  have ordered := SessionStore.ordered_expire holds.sound.ordered setting.now
  have keyed := holds.sound.keyed.expire setting.now
  have sound : Gateway.Sound { gateway with
      sessions := (gateway.sessions.expire setting.now).1 } :=
    ⟨ordered, keyed, holds.sound.listed, holds.sound.agrees⟩
  refine ⟨sound, holds.services, fun id session listed => ?_, trivial⟩
  rcases Option.map_eq_some_iff.mp ((SessionStore.get?_expire _ _ _).symm.trans listed) with
    ⟨stored, found, rfl⟩
  have isLawful := holds.sessions id stored found
  split
  · exact law.ended stored isLawful setting.now
  · exact isLawful

omit [Backend β] law in
theorem Run.leavesOrder_purgeSessions (days : Int) :
    (purgeSessions setting days : Run β _ _).LeavesOrder catalogue lawful fun _ => True := by
  unfold purgeSessions
  refine (Run.Ends.requireOrder setting _ fun _ holds => holds).bind fun _ gateway holds => ?_
  have ordered := holds.sound.ordered
  have stayed {id : String} {session : Session}
      (listed : Table.get? (gateway.sessions.purge (setting.now.minusDays days)).1 id =
        some session) : Table.get? gateway.sessions id = some session :=
    SessionStore.get?_of_purge ordered listed
  have sound : Gateway.Sound { gateway with
      sessions := (gateway.sessions.purge (setting.now.minusDays days)).1 } :=
    ⟨SessionStore.ordered_purge ordered _, fun id session listed =>
      holds.sound.keyed id session (stayed listed), holds.sound.listed, holds.sound.agrees⟩
  exact ⟨sound, holds.services, fun id session listed =>
    holds.sessions id session (stayed listed), trivial⟩

omit [Backend β] in
theorem SessionLaw.leavesOrder_sweep (days : Int) :
    (sweep setting days : Run β _ _).LeavesOrder catalogue lawful fun _ => True := by
  unfold sweep
  refine law.leavesOrder_expireSessions.bind fun expired => ?_
  refine (Run.leavesOrder_purgeSessions days).bind fun purged => ?_
  split
  · exact (Run.Ends.note _ fun _ holds => holds.congr).bind fun _ => .pure _ fun _ holds => holds
  · exact .pure _ fun _ holds => holds

theorem SessionLaw.orderly_take (step : Step) {gateway : Gateway β}
    (orderly : gateway.Orderly catalogue lawful) :
    (step.take setting gateway).Orderly catalogue lawful := by
  cases step with
  | request occasion => exact law.orderly_handle occasion.request orderly
  | sweep now days => exact Run.Ends.keeps_iff.mpr (law.leavesOrder_sweep days) gateway orderly

/-- The gateway after some steps, each under its own setting. -/
def Step.takeEach (gateway : Gateway β) (steps : List (Setting × Step)) : Gateway β :=
  steps.foldl (fun gateway step => step.2.take step.1 gateway) gateway

/-- After any steps, of which each may find other stores out of order, all sessions are lawful. -/
theorem SessionLaw.orderly_takeEach (steps : List (Setting × Step)) {gateway : Gateway β}
    (orderly : gateway.Orderly catalogue lawful) :
    (Step.takeEach gateway steps).Orderly catalogue lawful := by
  induction steps generalizing gateway with
  | nil => exact orderly
  | cons step rest induction => exact induction (law.orderly_take step.2 orderly)

end Requests

theorem Gateway.Orderly.opened (services : List ServiceRecord) (records : RecordStore)
    (backend : β) : (Gateway.opened services records backend).Orderly
      (services.foldl Catalogue.add []) lawful :=
  ⟨.opened services records backend, rfl, fun _ _ stored => (nomatch stored), trivial⟩

end Ussd
