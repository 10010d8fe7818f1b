import Ussd.Proofs.Expiry
import Ussd.Proofs.OwnScope

/-! # Starting a service

A gateway offers a service if it lists it as an active one and has a definition of it with states.
A request that is handled by starting such a service opens a session of this service and of no other
one, and is answered with the first screen of that session. This holds in whatever order the
services are listed, and also where the gateway has kept a definition that is no longer the listed
one. Instants go on where the calendar ends, but a session can only be opened there if its own end is
in the calendar; so what starts a session tells the range in which that is so. -/

namespace Ussd

/-! ## Catalogues -/

/-- Every service is listed once, under its own code. Nothing is said about the order. -/
structure Catalogue.Indexed (catalogue : Catalogue) : Prop where
  keyed : catalogue.Keyed
  once : (Table.keys catalogue).Nodup

namespace Catalogue

theorem Indexed.get?_of_mem {catalogue : Catalogue} (indexed : catalogue.Indexed)
    {record : ServiceRecord} (member : record ∈ catalogue.values) :
    Table.get? catalogue record.code = some record := by
  rcases List.mem_map.mp member with ⟨entry, isEntry, isRecord⟩
  have found := Table.get?_of_mem indexed.once isEntry
  rw [isRecord] at found
  rwa [indexed.keyed _ _ found]

theorem indexed_addAll (records : List ServiceRecord) :
    (records.foldl Catalogue.add []).Indexed where
  keyed := by
    apply Keyed.addAll
    intro code record listed
    cases listed
  once := by
    have ordered (catalogue : Catalogue) (holds : Table.Ordered catalogue) :
        Table.Ordered (records.foldl Catalogue.add catalogue) := by
      induction records generalizing catalogue with
      | nil => exact holds
      | cons record rest induction => exact induction _ (holds.insert _ _)
    exact (ordered [] Table.ordered_nil).nodup_keys

end Catalogue

/-! ## Offers -/

variable {β : Type} {setting : Setting}

/-- The definition that is loaded for a service: the one that has been kept, or else the one in the
text of its record. -/
def Gateway.definitionOf? (gateway : Gateway β) (record : ServiceRecord) : Option Definition :=
  (Table.get? gateway.cache record.code).or (Definition.ofText? record.definitionText)

theorem Gateway.definitionOf?_opened (services : List ServiceRecord) (records : RecordStore)
    (backend : β) (record : ServiceRecord) :
    (Gateway.opened services records backend).definitionOf? record =
      Definition.ofText? record.definitionText := rfl

/-- The service is listed as an active one, and its definition has states. -/
structure Gateway.Offers (gateway : Gateway β) (record : ServiceRecord) : Prop where
  listed : Table.get? gateway.catalogue record.code = some record
  isActive : record.isActive = true
  defined : ∃ definition, gateway.definitionOf? record = some definition ∧ definition.states ≠ []

theorem on_loadDefinition_of_defined (readable : setting.outage .getService = none)
    {gateway : Gateway β} {record : ServiceRecord} {definition : Definition}
    (listed : Table.get? gateway.catalogue record.code = some record)
    (isActive : record.isActive = true)
    (defined : gateway.definitionOf? record = some definition) :
    ∃ cache events, (loadDefinition setting record.code).on gateway =
      (.ok definition, { gateway with cache := cache, log := gateway.log ++ events }) := by
  unfold Gateway.definitionOf? at defined
  cases kept : Table.get? gateway.cache record.code with
  | some known =>
      rw [kept, Option.some_or] at defined
      cases defined
      refine ⟨gateway.cache, [], ?_⟩
      rw [on_loadDefinition_of_kept kept, List.append_nil]
  | none =>
      rw [kept, Option.none_or] at defined
      have read := load_of_listed readable kept listed isActive
      rcases on_loadDefinition_frame setting record.code gateway with
        ⟨result, cache, events, loads⟩
      rw [loads, defined] at read
      refine ⟨cache, events, ?_⟩
      cases result with
      | error fault => cases read
      | ok loaded =>
          cases read
          exact loads

section Starting

variable [Backend β]

theorem on_startService_of_offered (inOrder : setting.InOrder) {gateway : Gateway β}
    {record : ServiceRecord} (offers : gateway.Offers record) (id phoneNumber : String) :
    ∃ definition initial cache events,
      gateway.definitionOf? record = some definition ∧
      definition.initialState? = some initial ∧
      (startService setting id phoneNumber record).on gateway =
        (beginService setting id phoneNumber record.code definition initial).on
          { gateway with cache := cache, log := gateway.log ++ events } := by
  rcases offers.defined with ⟨definition, defined, hasStates⟩
  rcases Definition.exists_initialState? hasStates with ⟨initial, isInitial⟩
  rcases on_loadDefinition_of_defined (inOrder .getService (by decide)) offers.listed
    offers.isActive defined with ⟨cache, loading, loads⟩
  rcases on_startState? (ε := TurnError) definition
    { gateway with cache := cache, log := gateway.log ++ loading } with ⟨choosing, chooses⟩
  refine ⟨definition, initial, cache, loading ++ choosing, defined, isInitial, ?_⟩
  unfold startService
  rw [Run.on_bind_of_ok (Run.on_inTurn_eq_ok.mpr loads), Run.on_bind_of_ok chooses, isInitial]
  simp only [List.append_assoc]
  rfl

/-! ## Requests that start a service -/

/-- The answer for the result of a turn; a failure tells nothing about its cause. -/
def answerOf (setting : Setting) : Except TurnError Screen → CarrierAnswer
  | .ok screen => { message := screen.message, continues := screen.continues }
  | .error _ => .conclude setting.engine.technicalErrorMessage

namespace Occasion

def firstSession (setting : Setting) (occasion : Occasion) (gateway : Gateway β)
    (record : ServiceRecord) (definition : Definition) (initial : State) : Session :=
  .begin (occasion.sessionId gateway) occasion.request.phoneNumber record.code initial.id
    (timeoutOf setting definition.sessionLimits.effectiveTimeout?) occasion.now

/-- The request opens a session of the service in the state where the service's definition starts,
and stores nothing outside that session and the records of its phone number and service. The answer
is the first screen of the session, which the engine makes once the session is stored. The end of the
session is in the calendar as long as this admits the timeout. -/
def Starts (setting : Setting) (occasion : Occasion) (gateway : Gateway β)
    (record : ServiceRecord) : Prop :=
  ∃ definition initial,
    let session := occasion.firstSession setting gateway record definition initial
    gateway.definitionOf? record = some definition ∧
    definition.initialState? = some initial ∧
    (occasion.now.isInCalendar = true →
      timeoutOf setting definition.sessionLimits.effectiveTimeout? ≤ Text.greatestWord →
      (session.expiresAt.isInCalendar = true ↔
        occasion.now.Admits (timeoutOf setting definition.sessionLimits.effectiveTimeout?))) ∧
    Within session gateway (occasion.serve setting gateway).2 ∧
    ∃ ready : Gateway β,
      ready.sessions = gateway.sessions.save session ∧
      ready.records = gateway.records ∧
      ready.catalogue = gateway.catalogue ∧
      ready.backend = gateway.backend ∧
      (occasion.serve setting gateway).1 = answerOf setting
        ((startTurn (occasion.circumstances setting) definition session).on ready).1

/-- The request changes nothing but the log, and is answered with a screen of the gateway. -/
def Informs (setting : Setting) (occasion : Occasion) (gateway : Gateway β)
    (answer : CarrierAnswer) : Prop :=
  ∃ events, occasion.serve setting gateway =
    (answer, { gateway with log := gateway.log ++ events })

/-- Starting a service that is offered comes down to the first turn of the session. -/
theorem dispatch_of_start (inOrder : setting.InOrder) {occasion : Occasion} {gateway : Gateway β}
    {record : ServiceRecord} (handled : occasion.handling setting gateway = .start record)
    (offers : gateway.Offers record) :
    ∃ definition initial, gateway.definitionOf? record = some definition ∧
      definition.initialState? = some initial ∧
      let session := occasion.firstSession setting gateway record definition initial
      ∃ cache log,
        let ready := { gateway with
          cache := cache
          sessions := gateway.sessions.save session
          log := log }
        (dispatch (occasion.circumstances setting) (occasion.sessionId gateway)
            occasion.request).on gateway =
          (do
            let screen ← startTurn (occasion.circumstances setting) definition session
            conclude (occasion.circumstances setting) session.id screen :
              Run β TurnError CarrierAnswer).on ready := by
  have inOrder' := inOrder.circumstances occasion
  rcases occasion.dispatch_eq inOrder gateway with ⟨events, dispatches⟩
  let noted : Gateway β := { gateway with log := gateway.log ++ events }
  have notedOffers : noted.Offers record := ⟨offers.listed, offers.isActive, offers.defined⟩
  rcases on_startService_of_offered inOrder' notedOffers (occasion.sessionId gateway)
    occasion.request.phoneNumber with
    ⟨definition, initial, cache, loading, defined, isInitial, starts⟩
  have notLive : Gateway.live? { noted with cache := cache, log := noted.log ++ loading }
      (occasion.sessionId gateway) (occasion.circumstances setting).now = none :=
    (handling_eq_start.mp handled).1
  have begins := on_beginService inOrder' occasion.request.phoneNumber record.code definition
    initial notLive
  rw [handled] at dispatches
  exact ⟨definition, initial, defined, isInitial, cache, _,
    dispatches.trans (starts.trans begins)⟩

theorem starts_of_handling (inOrder : setting.InOrder) {occasion : Occasion} {gateway : Gateway β}
    {record : ServiceRecord} (handled : occasion.handling setting gateway = .start record)
    (offers : gateway.Offers record) : occasion.Starts setting gateway record := by
  have inOrder' := inOrder.circumstances occasion
  rcases dispatch_of_start inOrder handled offers with
    ⟨definition, initial, defined, isInitial, cache, log, runs⟩
  let session := occasion.firstSession setting gateway record definition initial
  let ready : Gateway β :=
    { gateway with cache := cache, sessions := gateway.sessions.save session, log := log }
  have within := Within.keeps_firstTurn inOrder' definition ready
    (Within.of_saved gateway session).congr
  refine ⟨definition, initial, defined, isInitial, fun isPresent isWord =>
    Instant.isInCalendar_plusSeconds isPresent isWord, ?_, ready, rfl, rfl, rfl, rfl, ?_⟩
  · rw [serve_eq inOrder, runs]
    rcases ran : (do
      let screen ← startTurn (occasion.circumstances setting) definition session
      conclude (occasion.circumstances setting) session.id screen :
        Run β TurnError CarrierAnswer).on ready with ⟨error | answer, after⟩ <;>
      rw [ran] at within
    · exact (within.ended occasion.now).congr
    · exact within
  · rw [serve_eq inOrder, runs, Run.on_bind]
    rcases (startTurn (occasion.circumstances setting) definition session).on ready with
      ⟨error | screen, after⟩
    · rfl
    · dsimp only
      rw [on_conclude inOrder']
      rfl

/-! ### First contact

Without a live session the dialled code decides. -/

section Contact

variable (inOrder : setting.InOrder) {occasion : Occasion} {gateway : Gateway β}
  (notLive : gateway.live? (occasion.sessionId gateway) occasion.now = none)

include inOrder notLive

theorem starts_of_dialled {record : ServiceRecord}
    (dialled : dialledService? setting.engine gateway.catalogue occasion.request = some record)
    (offers : gateway.Offers record) : occasion.Starts setting gateway record :=
  starts_of_handling inOrder (handling_eq_start.mpr ⟨notLive, dialled⟩) offers

theorem informs_of_dialled
    (dialled : dialledService? setting.engine gateway.catalogue occasion.request = none) :
    occasion.Informs setting gateway (dialAnswer setting gateway.catalogue occasion.request) :=
  serve_inform inOrder (handling_eq_inform.mpr ⟨notLive, dialled⟩)

end Contact

end Occasion

end Starting

namespace Sample

theorem exists_definition_menuService :
    ∃ definition, Definition.ofText? menuService.definitionText = some definition ∧
      definition.states ≠ [] := by
  have evaluated : (Definition.ofText? menuService.definitionText).map (·.states.isEmpty) =
      some false := by
    decide +kernel
  rcases Option.map_eq_some_iff.mp evaluated with ⟨definition, defined, hasStates⟩
  exact ⟨definition, defined, List.isEmpty_eq_false_iff.mp hasStates⟩

end Sample

end Ussd
