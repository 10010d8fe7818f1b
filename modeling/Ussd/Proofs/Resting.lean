import Ussd.Gateway.Sweep
import Ussd.Proofs.Conversation

/-! # Where sessions rest

Between two requests an active session is at a state that has shown its screen and waits for an
answer. Within a turn this does not hold: a session is created at the state in which its service
starts, whatever its type, and moved at every step. So the invariant is not one of the steps of a
turn; it follows from what a whole turn, also one that has failed, leaves of its session. -/

namespace Ussd

/-- Where sessions start at a state that waits for an answer, the id of that state also stands for
such a state. -/
def Definition.Resumable (definition : Definition) : Prop :=
  ∀ initial ∈ definition.initialState?, initial.type.isInteractive = true →
    ∃ state ∈ definition.state? initial.id, state.type.isInteractive = true

instance (definition : Definition) : Decidable definition.Resumable :=
  inferInstanceAs (Decidable (∀ initial ∈ definition.initialState?,
    initial.type.isInteractive = true →
      ∃ state ∈ definition.state? initial.id, state.type.isInteractive = true))

def Catalogue.Resumable (catalogue : Catalogue) : Prop :=
  ∀ code definition, catalogue.definition? code = .ok definition → definition.Resumable

theorem Catalogue.resumable_of_listed {catalogue : Catalogue}
    (listed : ∀ entry ∈ catalogue, ∀ definition ∈ Definition.ofText? entry.2.definitionText,
      definition.Resumable) : catalogue.Resumable := by
  intro code definition defined
  unfold Catalogue.definition? at defined
  cases found : Table.get? catalogue code with
  | none => simp [found] at defined
  | some record =>
      simp only [found] at defined
      split at defined
      · cases defined
      · cases read : Definition.ofText? record.definitionText with
        | none => simp [read] at defined
        | some other =>
            simp only [read] at defined
            cases defined
            exact listed (code, record) (Table.mem_of_get? found) definition read

/-- The session is at a state of its service that waits for an answer. -/
def Session.Rests (catalogue : Catalogue) (session : Session) : Prop :=
  ∃ definition state, catalogue.definition? session.serviceCode = .ok definition ∧
    definition.state? session.stateId = some state ∧ state.type.isInteractive = true

/-- What happens to a gateway from outside. -/
inductive Step where
  | request (occasion : Occasion)
  | sweep (now : Instant) (retentionDays : Int)

variable {β : Type} {setting : Setting} {catalogue : Catalogue}

/-- Every active session rests. -/
structure Resting (catalogue : Catalogue) (gateway : Gateway β) : Prop where
  sound : gateway.Sound
  services : gateway.catalogue = catalogue
  rests : ∀ id session, Table.get? gateway.sessions id = some session →
    session.isActive = true → session.Rests catalogue

theorem Waits.rests (resumable : catalogue.Resumable) {definition : Definition}
    {serviceCode : String} {session : Session}
    (defined : catalogue.definition? serviceCode = .ok definition)
    (waits : Waits setting definition serviceCode session) : session.Rests catalogue := by
  rcases waits.interactive with ⟨state, found | ⟨isInitial, atInitial⟩, interactive⟩
  · exact ⟨definition, state, waits.service ▸ defined, found, interactive⟩
  · rcases resumable serviceCode definition defined state isInitial interactive with
      ⟨reached, found, waiting⟩
    exact ⟨definition, reached, waits.service ▸ defined, atInitial ▸ found, waiting⟩

/-! ## Steps -/

theorem on_sweep (inOrder : setting.InOrder) (days : Int) (gateway : Gateway β) :
    ∃ events, (sweep setting days).on gateway =
      (.ok { expired := (gateway.sessions.expire setting.now).2
             purged := ((gateway.sessions.expire setting.now).1.purge
               (setting.now.minusDays days)).2 },
        { gateway with
          sessions := gateway.sessions.swept setting.now days
          log := gateway.log ++ events }) := by
  unfold sweep expireSessions purgeSessions
  simp only [Run.on_bind, Run.on_get, Run.on_modify, Run.on_pure,
    on_requireOrder_of_none (inOrder .expireSessions (by decide)),
    on_requireOrder_of_none (inOrder .purgeSessions (by decide))]
  split
  · exact ⟨_, rfl⟩
  · exact ⟨[], by simp [SessionStore.swept]⟩

theorem Gateway.Sound.sweep (inOrder : setting.InOrder) (days : Int) {gateway : Gateway β}
    (sound : gateway.Sound) : ((Ussd.sweep setting days).on gateway).2.Sound := by
  rcases on_sweep inOrder days gateway with ⟨events, sweeps⟩
  rw [sweeps]
  refine ⟨SessionStore.ordered_swept sound.ordered _ _, ?_, sound.listed, sound.agrees⟩
  intro id session found
  have ordered := SessionStore.ordered_expire sound.ordered setting.now
  exact sound.keyed.expire setting.now id session (SessionStore.get?_of_purge ordered found)

/-- A session that is active after a sweep was stored like that before. -/
theorem active_of_sweep (inOrder : setting.InOrder) (days : Int) {gateway : Gateway β}
    (sound : gateway.Sound) {id : String} {session : Session}
    (found : Table.get? ((sweep setting days).on gateway).2.sessions id = some session)
    (active : session.isActive = true) : Table.get? gateway.sessions id = some session := by
  have ordered := SessionStore.ordered_expire sound.ordered setting.now
  rcases on_sweep inOrder days gateway with ⟨events, sweeps⟩
  rw [sweeps] at found
  have expired := SessionStore.get?_of_purge ordered found
  rw [SessionStore.get?_expire] at expired
  rcases Option.map_eq_some_iff.mp expired with ⟨stored, storedFound, rfl⟩
  split at active
  · cases active
  · rename_i notOverdue
    rw [if_neg notOverdue]
    exact storedFound

theorem Resting.sweep (inOrder : setting.InOrder) (days : Int) {gateway : Gateway β}
    (resting : Resting catalogue gateway) :
    Resting catalogue ((Ussd.sweep setting days).on gateway).2 where
  sound := resting.sound.sweep inOrder days
  services := by
    rcases on_sweep inOrder days gateway with ⟨events, sweeps⟩
    rw [sweeps]
    exact resting.services
  rests id session found active :=
    resting.rests id session (active_of_sweep inOrder days resting.sound found active) active

variable [Backend β]

theorem Resting.serve (inOrder : setting.InOrder) (resumable : catalogue.Resumable)
    (occasion : Occasion) {gateway : Gateway β} (resting : Resting catalogue gateway) :
    Resting catalogue (occasion.serve setting gateway).2 := by
  have frame := occasion.serve_frame inOrder resting.sound
  refine ⟨frame.sound, frame.catalogue.trans resting.services, fun id session found active => ?_⟩
  cases handled : (occasion.handling setting gateway).service? with
  | none =>
      rcases Occasion.serve_inform inOrder (Handling.eq_inform_of_service? handled) with
        ⟨events, served⟩
      rw [served] at found
      exact resting.rests id session found active
  | some serviceCode =>
      rcases Decidable.em (id = occasion.sessionId gateway) with rfl | other
      · have settled := occasion.serve_settled inOrder resting.sound handled
        cases continues : (occasion.serve setting gateway).1.continues with
        | true =>
            rcases settled.waits continues with ⟨definition, stored, defined, storedFound, waits⟩
            cases found.symm.trans storedFound
            exact waits.rests resumable (resting.services ▸ defined)
        | false =>
            rw [settled.ended continues session found] at active
            cases active
      · exact resting.rests id session ((frame.others id other).symm.trans found) active

namespace Step

def take (setting : Setting) (gateway : Gateway β) : Step → Gateway β
  | .request occasion => (occasion.serve setting gateway).2
  | .sweep now days => ((Ussd.sweep { setting with now := now } days).on gateway).2

def takeAll (setting : Setting) (gateway : Gateway β) (steps : List Step) : Gateway β :=
  steps.foldl (take setting) gateway

theorem sound_take (inOrder : setting.InOrder) (step : Step) {gateway : Gateway β}
    (sound : gateway.Sound) : (step.take setting gateway).Sound := by
  cases step with
  | request occasion => exact (occasion.serve_frame inOrder sound).sound
  | sweep now days =>
      have inOrder' : Setting.InOrder { setting with now := now } := inOrder
      exact sound.sweep inOrder' days

theorem resting_take (inOrder : setting.InOrder) (resumable : catalogue.Resumable) (step : Step)
    {gateway : Gateway β} (resting : Resting catalogue gateway) :
    Resting catalogue (step.take setting gateway) := by
  cases step with
  | request occasion => exact resting.serve inOrder resumable occasion
  | sweep now days =>
      have inOrder' : Setting.InOrder { setting with now := now } := inOrder
      exact resting.sweep inOrder' days

end Step

/-! ## Runs -/

theorem sound_run (inOrder : setting.InOrder) (steps : List Step) {gateway : Gateway β}
    (sound : gateway.Sound) : (Step.takeAll setting gateway steps).Sound := by
  induction steps generalizing gateway with
  | nil => exact sound
  | cons step rest induction => exact induction (step.sound_take inOrder sound)

theorem resting_run (inOrder : setting.InOrder) (resumable : catalogue.Resumable)
    (steps : List Step) {gateway : Gateway β} (resting : Resting catalogue gateway) :
    Resting catalogue (Step.takeAll setting gateway steps) := by
  induction steps generalizing gateway with
  | nil => exact resting
  | cons step rest induction => exact induction (step.resting_take inOrder resumable resting)

/-- After any requests and sweeps the active sessions rest at states that wait for an answer, if
that is where sessions of their services start; and whatever turn comes next, its session is active
afterwards exactly if the carrier is told to go on. -/
theorem active_sessions_wait_for_answers (inOrder : setting.InOrder)
    (services : List ServiceRecord) (records : RecordStore) (backend : β) (steps : List Step) :
    let gateway := Step.takeAll setting (Gateway.opened services records backend) steps
    (Catalogue.Resumable (services.foldl Catalogue.add []) →
      ∀ id session, Table.get? gateway.sessions id = some session → session.isActive = true →
        ∃ definition state,
          ((loadDefinition setting session.serviceCode).on gateway).1 = .ok definition ∧
          definition.state? session.stateId = some state ∧ state.type.isInteractive = true) ∧
    ∀ occasion : Occasion, occasion.handling setting gateway ≠ .inform →
      ((occasion.serve setting gateway).1.continues = true ↔
        ∃ session, Table.get? (occasion.serve setting gateway).2.sessions
          (occasion.sessionId gateway) = some session ∧ session.isActive = true) := by
  intro gateway
  have opened := Gateway.Sound.opened services records backend
  have sound : gateway.Sound := sound_run inOrder steps opened
  constructor
  · intro resumable id session found active
    have start : Resting (services.foldl Catalogue.add [])
        (Gateway.opened services records backend) := ⟨opened, rfl, fun _ _ stored => nomatch stored⟩
    have resting : Resting (services.foldl Catalogue.add []) gateway :=
      resting_run inOrder resumable steps start
    rcases resting.rests id session found active with
      ⟨definition, state, defined, reached, interactive⟩
    rcases on_loadDefinition inOrder sound.listed sound.agrees session.serviceCode with
      ⟨events, loads⟩
    refine ⟨definition, state, ?_, reached, interactive⟩
    rw [loads, resting.services]
    exact mapError_eq_ok.mpr defined
  · intro occasion turns
    cases handled : (occasion.handling setting gateway).service? with
    | none => exact absurd (Handling.eq_inform_of_service? handled) turns
    | some serviceCode =>
        have settled := occasion.serve_settled inOrder sound handled
        constructor
        · intro continues
          rcases settled.waits continues with ⟨definition, session, -, found, waits⟩
          exact ⟨session, found, waits.isActive⟩
        · rintro ⟨session, found, active⟩
          cases continues : (occasion.serve setting gateway).1.continues with
          | true => rfl
          | false =>
              rw [settled.ended continues session found] at active
              cases active

/-- A first visit and a sweep. -/
def Sample.visits : List Step :=
  [.request (Sample.visit 1000 (some "x") "237" "*1#" ""),
    .sweep { seconds := 1001, nanoseconds := 0 } 7]

def Sample.visited : Gateway ScriptedBackend :=
  Step.takeAll Sample.setting (Gateway.opened [Sample.menuService] [] Sample.backend) Sample.visits

theorem active_session_waits_after_first_visit :
    let answer := Sample.visit 1002 (some "x") "237" "*1#" "1"
    Sample.setting.InOrder ∧
    Catalogue.Resumable ([Sample.menuService].foldl Catalogue.add []) ∧
    (∃ session, Table.get? Sample.visited.sessions "x" = some session ∧
      session.isActive = true ∧
      ∃ definition state,
        ((loadDefinition Sample.setting session.serviceCode).on Sample.visited).1 = .ok definition ∧
        definition.state? session.stateId = some state ∧ state.type.isInteractive = true) ∧
    answer.handling Sample.setting Sample.visited ≠ .inform ∧
    ((answer.serve Sample.setting Sample.visited).1.continues = true ↔
      ∃ session, Table.get? (answer.serve Sample.setting Sample.visited).2.sessions
        (answer.sessionId Sample.visited) = some session ∧ session.isActive = true) := by
  intro answer
  have resumable : Catalogue.Resumable ([Sample.menuService].foldl Catalogue.add []) :=
    Catalogue.resumable_of_listed (by decide +kernel)
  have waits := active_sessions_wait_for_answers Sample.inOrder [Sample.menuService] []
    Sample.backend Sample.visits
  rw [← Sample.visited] at waits
  have evaluated : (Table.get? Sample.visited.sessions "x").map Session.isActive = some true ∧
      (answer.handling Sample.setting Sample.visited).service? = some "menu" := by decide +kernel
  rcases evaluated with ⟨stored, service⟩
  rcases Option.map_eq_some_iff.mp stored with ⟨session, found, active⟩
  have turns : answer.handling Sample.setting Sample.visited ≠ .inform := by
    intro informs
    rw [informs] at service
    cases service
  exact ⟨Sample.inOrder, resumable, ⟨session, found, active, waits.1 resumable "x" session found
    active⟩, turns, waits.2 answer turns⟩

/-- Where an earlier state takes the id of the state in which sessions start, a session is active
although its id stands for the last screen of its service. -/
theorem active_session_may_be_shadowed :
    let gateway := Step.take Sample.setting
      (Gateway.opened [Sample.shadowedService] [] Sample.backend)
      (.request (Sample.visit 1000 (some "x") "237" "*2#" ""))
    ∃ session, Table.get? gateway.sessions "x" = some session ∧ session.isActive = true ∧
      (((loadDefinition Sample.setting session.serviceCode).on gateway).1.toOption.bind
        (·.state? session.stateId)).map State.type = some .final := by
  intro gateway
  have reached : (Table.get? gateway.sessions "x").map (fun session =>
      (session.isActive,
        (((loadDefinition Sample.setting session.serviceCode).on gateway).1.toOption.bind
          (·.state? session.stateId)).map State.type)) = some (true, some .final) := by
    decide +kernel
  rcases Option.map_eq_some_iff.mp reached with ⟨session, found, parts⟩
  exact ⟨session, found, (Prod.mk.inj parts).1, (Prod.mk.inj parts).2⟩

end Ussd
