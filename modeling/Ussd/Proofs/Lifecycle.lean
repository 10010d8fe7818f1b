import Ussd.Proofs.Forgetting

/-! # The life of a session

The turns that have been run tell which sessions are live: a session waits from the last turn of its
id, if the carrier was told to go on, until the time of its service is up. `Tracked` ties the stored
sessions to the turns; every request keeps it. A request for any other id is handled as if nothing
were stored under it. -/

namespace Ussd

variable {β : Type} {setting : Setting}

/-! ## Turns that have been run -/

structure PastTurn where
  now : Instant
  sessionId : String
  serviceCode : String
  /-- Whether the carrier was told to go on. -/
  continues : Bool

/-- For how many seconds a session of the service waits. -/
def Catalogue.timeout (setting : Setting) (catalogue : Catalogue) (serviceCode : String) : Nat :=
  timeoutOf setting (match catalogue.definition? serviceCode with
    | .ok definition => definition.sessionLimits.effectiveTimeout?
    | .error _ => none)

def PastTurn.deadline (setting : Setting) (catalogue : Catalogue) (turn : PastTurn) : Instant :=
  turn.now.plusSeconds (catalogue.timeout setting turn.serviceCode)

def lastTurn? (turns : List PastTurn) (id : String) : Option PastTurn :=
  (turns.filter fun turn => turn.sessionId == id).getLast?

theorem lastTurn?_append (turns later : List PastTurn) (id : String) :
    lastTurn? (turns ++ later) id = (lastTurn? later id).or (lastTurn? turns id) := by
  rw [lastTurn?, List.filter_append, List.getLast?_append]
  rfl

theorem lastTurn?_append_same (turns : List PastTurn) (turn : PastTurn) :
    lastTurn? (turns ++ [turn]) turn.sessionId = some turn := by
  rw [lastTurn?_append]
  simp [lastTurn?]

theorem lastTurn?_append_other (turns : List PastTurn) {turn : PastTurn} {id : String}
    (different : id ≠ turn.sessionId) : lastTurn? (turns ++ [turn]) id = lastTurn? turns id := by
  rw [lastTurn?_append]
  simp [lastTurn?, Ne.symm different]

section Conversations

variable [Backend β]

/-- The turn that a request leads to, if any. -/
def Occasion.turn? (setting : Setting) (occasion : Occasion) (gateway : Gateway β) :
    Option PastTurn :=
  (occasion.handling setting gateway).service?.map fun serviceCode =>
    { now := occasion.now
      sessionId := occasion.sessionId gateway
      serviceCode := serviceCode
      continues := (occasion.serve setting gateway).1.continues }

def turns (setting : Setting) (occasions : List Occasion) (gateway : Gateway β) : List PastTurn :=
  (encounters setting occasions gateway).filterMap fun encounter =>
    encounter.1.turn? setting encounter.2

theorem turns_cons (setting : Setting) (occasion : Occasion) (rest : List Occasion)
    (gateway : Gateway β) :
    turns setting (occasion :: rest) gateway =
      (occasion.turn? setting gateway).toList ++
        turns setting rest (occasion.serve setting gateway).2 := by
  unfold turns
  rw [encounters, List.filterMap_cons]
  cases occasion.turn? setting gateway <;> rfl

end Conversations

/-! ## What is stored after the turns -/

/-- What is stored under an id whose last turn is known. -/
inductive Follows (setting : Setting) (catalogue : Catalogue) :
    Option PastTurn → Option Session → Prop
  | absent : Follows setting catalogue none none
  | waits (turn : PastTurn) (session : Session) (continues : turn.continues = true)
      (isActive : session.isActive = true)
      (expires : session.expiresAt = turn.deadline setting catalogue) :
      Follows setting catalogue (some turn) (some session)
  | ended (turn : PastTurn) (stored : Option Session) (ends : turn.continues = false)
      (inactive : ∀ session, stored = some session → session.isActive = false) :
      Follows setting catalogue (some turn) stored

theorem Follows.live_iff {catalogue : Catalogue} {last : Option PastTurn}
    {stored : Option Session} (follows : Follows setting catalogue last stored) (now : Instant) :
    (∃ session, stored = some session ∧ session.isLive now = true) ↔
      ∃ turn, last = some turn ∧ turn.continues = true ∧
        now.lt (turn.deadline setting catalogue) = true := by
  cases follows with
  | absent => simp
  | waits turn session continues isActive expires =>
      simp [Session.isLive, continues, isActive, expires]
  | ended turn stored ends inactive =>
      constructor
      · rintro ⟨session, found, live⟩
        rw [Session.isLive, inactive session found] at live
        cases live
      · rintro ⟨other, isLast, continues, -⟩
        cases isLast
        rw [ends] at continues
        cases continues

/-- The stored sessions are those that the turns have left. -/
structure Tracked (setting : Setting) (catalogue : Catalogue) (turns : List PastTurn)
    (gateway : Gateway β) : Prop where
  sound : gateway.Sound
  services : gateway.catalogue = catalogue
  follows : ∀ id, Follows setting catalogue (lastTurn? turns id) (Table.get? gateway.sessions id)

section Conversations

variable [Backend β] {catalogue : Catalogue}

theorem Occasion.follows (inOrder : setting.InOrder) (occasion : Occasion) {gateway : Gateway β}
    (sound : gateway.Sound) {serviceCode : String}
    (turns : (occasion.handling setting gateway).service? = some serviceCode) :
    Follows setting gateway.catalogue
      (some { now := occasion.now
              sessionId := occasion.sessionId gateway
              serviceCode := serviceCode
              continues := (occasion.serve setting gateway).1.continues })
      (Table.get? (occasion.serve setting gateway).2.sessions (occasion.sessionId gateway)) := by
  have settled := occasion.serve_settled inOrder sound turns
  cases continues : (occasion.serve setting gateway).1.continues with
  | true =>
      rcases settled.waits continues with ⟨definition, session, defined, found, waits⟩
      rw [found]
      refine .waits _ session rfl waits.isActive (waits.expires.trans ?_)
      rw [PastTurn.deadline, Catalogue.timeout, defined]
      rfl
  | false => exact .ended _ _ rfl (settled.ended continues)

/-- One request adds at most one turn. -/
theorem tracked_serve (inOrder : setting.InOrder) (occasion : Occasion) {past : List PastTurn}
    {gateway : Gateway β} (tracked : Tracked setting catalogue past gateway) :
    Tracked setting catalogue (past ++ (occasion.turn? setting gateway).toList)
      (occasion.serve setting gateway).2 := by
  have frame := occasion.serve_frame inOrder tracked.sound
  refine ⟨frame.sound, frame.catalogue.trans tracked.services, fun id => ?_⟩
  cases handled : (occasion.handling setting gateway).service? with
  | none =>
      rcases Occasion.serve_inform inOrder (Handling.eq_inform_of_service? handled) with
        ⟨events, served⟩
      rw [served, Occasion.turn?, handled, Option.map_none, Option.toList_none, List.append_nil]
      exact tracked.follows id
  | some serviceCode =>
      have follows := occasion.follows inOrder tracked.sound handled
      rw [Occasion.turn?, handled, Option.map_some, Option.toList_some]
      -- The request's own id gets a session and a last turn; any other id keeps both.
      rcases Decidable.em (id = occasion.sessionId gateway) with rfl | other
      · rw [tracked.services] at follows
        rw [lastTurn?_append_same past { sessionId := occasion.sessionId gateway, .. }]
        exact follows
      · rw [lastTurn?_append_other past other, frame.others id other]
        exact tracked.follows id

theorem tracked_converse (inOrder : setting.InOrder) (occasions : List Occasion)
    {past : List PastTurn} {gateway : Gateway β}
    (tracked : Tracked setting catalogue past gateway) :
    Tracked setting catalogue (past ++ turns setting occasions gateway)
      (converse setting occasions gateway).2 := by
  induction occasions generalizing past gateway with
  | nil => simpa [turns, encounters, converse] using tracked
  | cons occasion rest induction =>
      rw [turns_cons, ← List.append_assoc]
      exact induction (tracked_serve inOrder occasion tracked)

omit [Backend β] in
theorem tracked_opened (setting : Setting) (services : List ServiceRecord) (records : RecordStore)
    (backend : β) :
    Tracked setting (services.foldl Catalogue.add []) []
      (Gateway.opened services records backend) where
  sound := .opened services records backend
  services := rfl
  follows _ := .absent

/-! ## Continuing and starting anew -/

/-- A conversation goes as if nothing had been stored under the id. -/
structure Forgets (setting : Setting) (id : String) (occasions : List Occasion)
    (gateway : Gateway β) : Prop where
  answers : (converse setting occasions gateway).1 =
    (converse setting occasions (gateway.forget id)).1
  others : ∀ other, other ≠ id →
    Table.get? (converse setting occasions gateway).2.sessions other =
      Table.get? (converse setting occasions (gateway.forget id)).2.sessions other
  records : (converse setting occasions gateway).2.records =
    (converse setting occasions (gateway.forget id)).2.records
  backend : (converse setting occasions gateway).2.backend =
    (converse setting occasions (gateway.forget id)).2.backend
  restarted : (∃ encounter ∈ encounters setting occasions gateway,
      encounter.1.Begins setting id encounter.2) →
    (converse setting occasions gateway).2.sessions =
      (converse setting occasions (gateway.forget id)).2.sessions

omit [Backend β] in
theorem without_forget {gateway : Gateway β} (sound : gateway.Sound) {id : String} {now : Instant}
    (stale : gateway.live? id now = none) : Without (some id) now gateway (gateway.forget id) where
  sound := sound
  stale other isId := by
    cases isId
    exact stale
  sessions := rfl
  records := rfl
  catalogue := rfl
  cache := rfl
  backend := rfl

theorem forgets_of_stale (inOrder : setting.InOrder) {gateway : Gateway β}
    (sound : gateway.Sound) {id : String} {now : Instant} (stale : gateway.live? id now = none)
    {occasions : List Occasion} (notBefore : ∀ occasion ∈ occasions, occasion.now.lt now = false)
    (nothingHidden : NothingHidden setting id occasions gateway) :
    Forgets setting id occasions gateway := by
  rcases (without_forget sound stale).converse inOrder occasions notBefore nothingHidden with
    ⟨answers, begun, notBegun⟩
  rcases Classical.em (∃ encounter ∈ encounters setting occasions gateway,
      encounter.1.Begins setting id encounter.2) with begins | never
  · have same := begun begins
    refine ⟨answers, fun other different => ?_, same.records.symm, same.backend.symm, fun _ => ?_⟩
    · exact same.session nofun
    · exact same.sessions.symm
  · have hidden := notBegun never
    refine ⟨answers, fun other different => ?_, hidden.records.symm, hidden.backend.symm,
      fun begins => absurd begins never⟩
    exact hidden.session fun equal => different (Option.some.inj equal).symm

/-- A request continues the stored session exactly if the last turn of the session's id told the
carrier to go on and the time of its service is not yet up. Otherwise the conversation goes on as if
nothing were stored under the id, unless some request that names no session is given no session
because of the one that has expired, when it would otherwise continue a live one. -/
theorem session_is_continued_until_its_deadline (inOrder : setting.InOrder)
    (services : List ServiceRecord) (records : RecordStore) (backend : β) (past : List Occasion)
    (next : Occasion) (future : List Occasion)
    (notBefore : ∀ later ∈ future, later.now.lt next.now = false) :
    let start := Gateway.opened services records backend
    let gateway := (converse setting past start).2
    let id := next.sessionId gateway
    let continued := ∃ session, Table.get? gateway.sessions id = some session ∧
      next.handling setting gateway = .resume session
    (continued ↔ ∃ turn, lastTurn? (turns setting past start) id = some turn ∧
      turn.continues = true ∧ next.now.lt (turn.deadline setting start.catalogue) = true) ∧
    (¬continued →
      (NothingHidden setting id (next :: future) gateway →
        Forgets setting id (next :: future) gateway) ∧
      (¬NothingHidden setting id (next :: future) gateway →
        ∃ earlier occasion later session, next :: future = earlier ++ occasion :: later ∧
          occasion.handling setting (converse setting earlier (gateway.forget id)).2 =
            .resume session ∧
          session.phoneNumber = occasion.request.phoneNumber ∧
          occasion.sessionId (converse setting earlier gateway).2 ≠ session.id)) := by
  intro start gateway id continued
  have tracked : Tracked setting start.catalogue (turns setting past start) gateway :=
    tracked_converse inOrder past (tracked_opened setting services records backend)
  have live : continued ↔
      ∃ session, Table.get? gateway.sessions id = some session ∧
        session.isLive next.now = true := by
    refine exists_congr fun session => and_congr_right fun found => ?_
    rw [Occasion.handling_eq_resume, Gateway.live?_eq_some]
    exact and_iff_right found
  refine ⟨live.trans ((tracked.follows id).live_iff next.now), fun notContinued => ?_⟩
  have stale : gateway.live? id next.now = none := by
    rw [Option.eq_none_iff_forall_ne_some]
    intro session isLive
    exact notContinued (live.mpr ⟨session, Gateway.live?_eq_some.mp isLive⟩)
  have notBeforeAll (occasion : Occasion) (member : occasion ∈ next :: future) :
      occasion.now.lt next.now = false := by
    rcases List.mem_cons.mp member with rfl | later
    · exact Instant.lt_irrefl _
    · exact notBefore occasion later
  constructor
  · exact forgets_of_stale inOrder tracked.sound stale notBeforeAll
  · exact (without_forget tracked.sound stale).resumes_of_hidden inOrder (next :: future)
      notBeforeAll

end Conversations

namespace Sample

def patientService : ServiceRecord :=
  service "patient" "*1#" ("\"sessionConfig\":\x7b\"timeoutSeconds\":1000\x7d," ++
    "\"states\":[\x7b\"id\":\"a\",\"type\":\"MENU\"," ++
    "\"transitions\":[\x7b\"input\":\"1\",\"nextState\":\"b\"\x7d]\x7d," ++
    "\x7b\"id\":\"b\",\"type\":\"FINAL\"\x7d]")

def hastyService : ServiceRecord :=
  service "hasty" "*2#" ("\"sessionConfig\":\x7b\"timeoutSeconds\":10\x7d," ++
    "\"states\":[\x7b\"id\":\"a\",\"type\":\"MENU\"\x7d]")

/-- A patient session and then a hasty one of the same subscriber. -/
def crowded : Gateway ScriptedBackend :=
  (converse Sample.setting
    [visit 1000 (some "y") "237" "*1#" "", visit 1001 (some "x") "237" "*2#" ""]
    (Gateway.opened [patientService, hastyService] [] backend)).2

end Sample

/-- A session that has expired is opened anew, as if it had not been there. -/
theorem expired_session_is_opened_anew :
    let past := [Sample.visit 1000 (some "x") "237" "*1#" ""]
    let next := Sample.visit 2000 (some "x") "237" "*1#" ""
    let future := [Sample.visit 2001 (some "x") "237" "*1#" "1"]
    let gateway := (converse Sample.setting past
      (Gateway.opened [Sample.menuService] [] Sample.backend)).2
    Sample.setting.InOrder ∧ (∀ later ∈ future, later.now.lt next.now = false) ∧
      (¬∃ session, Table.get? gateway.sessions "x" = some session ∧
        next.handling Sample.setting gateway = .resume session) ∧
      NothingHidden Sample.setting "x" (next :: future) gateway ∧
      Forgets Sample.setting "x" (next :: future) gateway := by
  intro past next future gateway
  have notBefore : ∀ later ∈ future, later.now.lt next.now = false := by decide +kernel
  have named : ∀ occasion ∈ next :: future, occasion.request.namedId? = some "x" := by
    decide +kernel
  let start := Gateway.opened [Sample.menuService] [] Sample.backend
  have expired : ∀ turn ∈ lastTurn? (turns Sample.setting past start) "x",
      next.now.lt (turn.deadline Sample.setting start.catalogue) = false := by decide +kernel
  have isOwn : next.sessionId gateway = "x" :=
    Occasion.sessionId_of_named (named next List.mem_cons_self) gateway
  have notHiding (occasion : Occasion) (member : occasion ∈ next :: future)
      (found : Gateway ScriptedBackend) : ¬Hides "x" occasion found := by
    intro hides
    have unnamed := hides.unnamed
    rw [named occasion member] at unnamed
    cases unnamed
  have nothingHidden : NothingHidden Sample.setting "x" (next :: future) gateway :=
    ⟨notHiding next (by simp) _, .inr ⟨notHiding _ (by simp [future]) _, .inr trivial⟩⟩
  rcases session_is_continued_until_its_deadline Sample.inOrder [Sample.menuService] []
    Sample.backend past next future notBefore with ⟨continued, otherwise⟩
  have notContinued : ¬∃ session, Table.get? gateway.sessions (next.sessionId gateway) =
      some session ∧ next.handling Sample.setting gateway = .resume session := by
    intro continues
    rcases continued.mp continues with ⟨turn, isLast, -, before⟩
    rw [expired turn (isOwn ▸ isLast)] at before
    cases before
  have forgets := (otherwise notContinued).1
  rw [isOwn] at notContinued forgets
  exact ⟨Sample.inOrder, notBefore, notContinued, nothingHidden, forgets nothingHidden⟩

/-- An expired session keeps its subscriber from a live one. -/
theorem expired_session_may_hide_live_one :
    let next := Sample.visit 1020 (some "x") "237" "*9#" ""
    let occasions := [next, Sample.visit 1030 none "237" "*9#" "1"]
    next.handling Sample.setting Sample.crowded = .inform ∧
      (converse Sample.setting occasions Sample.crowded).1 ≠
        (converse Sample.setting occasions (Sample.crowded.forget "x")).1 := by
  intro next occasions
  have evaluated : (next.handling Sample.setting Sample.crowded).service? = none ∧
      (converse Sample.setting occasions Sample.crowded).1 ≠
        (converse Sample.setting occasions (Sample.crowded.forget "x")).1 := by decide +kernel
  exact ⟨Handling.eq_inform_of_service? evaluated.1, evaluated.2⟩

end Ussd
