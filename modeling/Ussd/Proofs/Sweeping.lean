import Ussd.Proofs.Instants
import Ussd.Proofs.Lifecycle
import Ussd.Proofs.Resting

/-! # Sweeping

A sweep ends sessions that have expired and removes sessions that have ended. It leaves the live ones
alone, and all others might as well not be stored: with them forgotten, a gateway is the same whether
or not it has been swept. So no request that names its session can tell whether there was a sweep. -/

namespace Ussd

/-! ## One sweep -/

namespace SessionStore

/-- What becomes of a session in a sweep. -/
def remains? (now : Instant) (days : Int) (session : Session) : Option Session :=
  (some (if isOverdue now session then session.deactivate now else session)).filter
    fun session => !isStale (now.minusDays days) session

theorem get?_swept {store : SessionStore} (ordered : Table.Ordered store) (now : Instant)
    (days : Int) (id : String) :
    Table.get? (store.swept now days) id =
      (Table.get? store id).bind (remains? now days) := by
  rw [swept, get?_purge (ordered_expire ordered now), get?_expire]
  cases Table.get? store id with
  | none => rfl
  | some session => rfl

theorem remains?_of_isLive {now : Instant} {session : Session}
    (isLive : session.isLive now = true) (days : Int) :
    remains? now days session = some session := by
  rcases Bool.and_eq_true_iff.mp isLive with ⟨isActive, before⟩
  have notOverdue : isOverdue now session = false := by
    rw [isOverdue, isActive, Instant.not_lt_of_lt before]
    rfl
  simp [remains?, notOverdue, isStale, isActive]

/-- What remains of a session is the session itself, or else it has expired and is ended. -/
theorem eq_of_remains? {now : Instant} {days : Int} {session left : Session}
    (remains : remains? now days session = some left) :
    left = session ∨ isOverdue now session = true ∧ left = session.deactivate now := by
  unfold remains? at remains
  cases overdue : isOverdue now session with
  | true =>
      simp only [overdue, if_true, Option.filter_eq_some_iff, Option.some.injEq] at remains
      exact .inr ⟨rfl, remains.1.symm⟩
  | false =>
      simp only [overdue, Bool.false_eq_true, if_false, Option.filter_eq_some_iff,
        Option.some.injEq] at remains
      exact .inl remains.1.symm

/-- A sweep ends the active sessions that are not active afterwards. -/
theorem isOverdue_eq (now : Instant) (days : Int) (session : Session) :
    isOverdue now session =
      (session.isActive && !(remains? now days session).any Session.isActive) := by
  cases isActive : session.isActive with
  | false => simp [isOverdue, isActive]
  | true =>
      cases overdue : isOverdue now session with
      | true =>
          have ended : (remains? now days session).any Session.isActive = false := by
            simp [remains?, overdue, Option.filter_some, Session.deactivate]
            split <;> rfl
          rw [ended]
          rfl
      | false => simp [remains?, overdue, isStale, isActive]

theorem isStale_eq (now : Instant) (days : Int) (session : Session) :
    isStale (now.minusDays days)
        (if isOverdue now session then session.deactivate now else session) =
      (remains? now days session).isNone := by
  unfold remains?
  rw [Option.filter_some]
  cases isStale (now.minusDays days)
    (if isOverdue now session then session.deactivate now else session) <;> rfl

/-- Within a sweep that keeps ended sessions for some days none is ended and removed at once. -/
theorem stale_of_not_remains {now : Instant} {days : Int} (notNegative : 0 ≤ days)
    {session : Session} (removed : remains? now days session = none) :
    isStale (now.minusDays days) session = true := by
  have stale : isStale (now.minusDays days)
      (if isOverdue now session then session.deactivate now else session) = true := by
    rw [isStale_eq, removed]
    rfl
  cases overdue : isOverdue now session with
  | true =>
      rw [overdue, if_pos rfl, isStale, Session.deactivate, now.not_lt_minusDays notNegative] at stale
      cases stale
  | false => rwa [overdue, if_neg Bool.false_ne_true] at stale

end SessionStore

/-- What a sweep does to the sessions of a gateway, and what it reports. -/
structure Swept {β : Type} (now : Instant) (days : Int) (report : SweepReport)
    (before after : Gateway β) : Prop where
  live : ∀ id session, before.live? id now = some session →
    Table.get? after.sessions id = some session
  removed : 0 ≤ days → ∀ id session, Table.get? before.sessions id = some session →
    Table.get? after.sessions id = none →
      session.isActive = false ∧ session.lastActivity.lt (now.minusDays days) = true
  left : ∀ id session, Table.get? after.sessions id = some session →
    ∃ stored, Table.get? before.sessions id = some stored ∧ (session = stored ∨
      SessionStore.isOverdue now stored = true ∧ session = stored.deactivate now)
  expired : report.expired = before.sessions.countP fun entry =>
    entry.2.isActive && !(Table.get? after.sessions entry.1).any Session.isActive
  purged : report.purged = before.sessions.countP fun entry =>
    (Table.get? after.sessions entry.1).isNone

variable {β : Type} {setting : Setting}

theorem swept_of_ordered {gateway after : Gateway β} (ordered : Table.Ordered gateway.sessions)
    {now : Instant} {days : Int} (isAfter : after.sessions = gateway.sessions.swept now days) :
    Swept now days
      { expired := (gateway.sessions.expire now).2
        purged := ((gateway.sessions.expire now).1.purge (now.minusDays days)).2 }
      gateway after := by
  have found (id : String) : Table.get? after.sessions id =
      (Table.get? gateway.sessions id).bind (SessionStore.remains? now days) := by
    rw [isAfter, SessionStore.get?_swept ordered]
  have foundEntry (entry : String × Session) (member : entry ∈ gateway.sessions) :
      Table.get? after.sessions entry.1 = SessionStore.remains? now days entry.2 := by
    rw [found, (ordered.get?_eq_some_iff entry.1 entry.2).mpr member]
    rfl
  constructor
  case live =>
    intro id session isLive
    rcases Gateway.live?_eq_some.mp isLive with ⟨stored, isLive⟩
    rw [found, stored]
    exact SessionStore.remains?_of_isLive isLive days
  case removed =>
    intro notNegative id session stored gone
    rw [found, stored] at gone
    have stale := SessionStore.stale_of_not_remains notNegative gone
    simpa [SessionStore.isStale] using stale
  case left =>
    intro id session remains
    rw [found, Option.bind_eq_some_iff] at remains
    rcases remains with ⟨stored, isStored, remains⟩
    exact ⟨stored, isStored, SessionStore.eq_of_remains? remains⟩
  case expired =>
    apply List.countP_congr
    intro entry member
    rw [foundEntry entry member, ← SessionStore.isOverdue_eq]
  case purged =>
    change List.countP _ (List.map _ _) = _
    rw [List.countP_map]
    apply List.countP_congr
    intro entry member
    rw [foundEntry entry member, ← SessionStore.isStale_eq]
    simp only [Function.comp_apply]
    split <;> rfl

/-- A session that is live after a sweep was so before. -/
theorem Swept.live_before {now : Instant} {days : Int} {report : SweepReport}
    {before after : Gateway β} (swept : Swept now days report before after) {id : String}
    {session : Session} (isLive : after.live? id now = some session) :
    before.live? id now = some session := by
  rcases Gateway.live?_eq_some.mp isLive with ⟨found, live⟩
  rcases swept.left id session found with ⟨stored, isStored, rfl | ⟨-, rfl⟩⟩
  · exact Gateway.live?_eq_some.mpr ⟨isStored, live⟩
  · cases live

/-! ## Forgetting what is not live -/

/-- The ids whose sessions are not live. -/
def Gateway.staleIds (gateway : Gateway β) (now : Instant) : List String :=
  gateway.sessions.keys.filter fun id => (gateway.live? id now).isNone

theorem Gateway.live?_of_mem_staleIds {gateway : Gateway β} {now : Instant} {id : String}
    (member : id ∈ gateway.staleIds now) : gateway.live? id now = none :=
  Option.isNone_iff_eq_none.mp (List.mem_filter.mp member).2

theorem Gateway.mem_staleIds {gateway : Gateway β} {now : Instant} {id : String}
    {session : Session} (stored : Table.get? gateway.sessions id = some session)
    (notLive : gateway.live? id now = none) : id ∈ gateway.staleIds now :=
  List.mem_filter.mpr ⟨List.mem_map_of_mem (Table.mem_of_get? stored),
    Option.isNone_iff_eq_none.mpr notLive⟩

theorem Gateway.live?_forget_of_none {gateway : Gateway β} (sound : gateway.Sound)
    {id : String} {now : Instant} (stale : gateway.live? id now = none) (other : String) :
    (gateway.forget other).live? id now = none := by
  unfold Gateway.live? Gateway.forget at *
  rcases Decidable.em (id = other) with rfl | different
  · rw [sound.ordered.get?_erase_same]
    rfl
  · rw [Table.get?_erase_other _ different]
    exact stale

/-- The gateway with nothing stored under some ids. -/
def Gateway.forgetAll (gateway : Gateway β) (ids : List String) : Gateway β :=
  ids.foldl Gateway.forget gateway

theorem Gateway.Sound.forgetAll {gateway : Gateway β} (sound : gateway.Sound)
    (ids : List String) : (gateway.forgetAll ids).Sound := by
  induction ids generalizing gateway with
  | nil => exact sound
  | cons id rest induction => exact induction (sound.forget id)

theorem Gateway.get?_forgetAll {gateway : Gateway β} (sound : gateway.Sound) (ids : List String)
    (id : String) : Table.get? (gateway.forgetAll ids).sessions id =
      if id ∈ ids then none else Table.get? gateway.sessions id := by
  induction ids generalizing gateway with
  | nil => rfl
  | cons first rest induction =>
      have later : Table.get? (gateway.forgetAll (first :: rest)).sessions id =
          if id ∈ rest then none else Table.get? (gateway.forget first).sessions id :=
        induction (sound.forget first)
      rw [later, Gateway.forget]
      rcases Decidable.em (id = first) with rfl | different
      · simp [sound.ordered.get?_erase_same]
      · simp [Table.get?_erase_other _ different, different]

theorem Gateway.forgetAll_eq (gateway : Gateway β) (ids : List String) :
    gateway.forgetAll ids = { gateway with sessions := (gateway.forgetAll ids).sessions } := by
  induction ids generalizing gateway with
  | nil => rfl
  | cons id rest induction => exact induction (gateway.forget id)

/-- With everything forgotten that is not live, a sweep makes no difference. -/
theorem Swept.forgetAll {now : Instant} {days : Int} {report : SweepReport}
    {gateway after : Gateway β} (swept : Swept now days report gateway after)
    (sound : gateway.Sound) (soundAfter : after.Sound) (ids : List String)
    (listed : ∀ id session, Table.get? gateway.sessions id = some session →
      gateway.live? id now = none → id ∈ ids) :
    (after.forgetAll ids).sessions = (gateway.forgetAll ids).sessions := by
  apply (soundAfter.forgetAll ids).ordered.ext (sound.forgetAll ids).ordered
  intro id
  rw [Gateway.get?_forgetAll soundAfter, Gateway.get?_forgetAll sound]
  split
  · rfl
  · rename_i notListed
    cases stored : Table.get? gateway.sessions id with
    | none =>
        rw [Option.eq_none_iff_forall_ne_some]
        intro session remains
        rcases swept.left id session remains with ⟨other, isOther, -⟩
        rw [stored] at isOther
        cases isOther
    | some session =>
        cases isLive : gateway.live? id now with
        | none => exact absurd (listed id session stored isLive) notListed
        | some live =>
            rw [swept.live id live isLive, ← stored]
            exact (Gateway.live?_eq_some.mp isLive).1.symm

section Conversations

variable [Backend β]

/-- What carriers, backends and stored records tell of a conversation. -/
structure Indistinguishable (left right : List CarrierAnswer × Gateway β) : Prop where
  answers : left.1 = right.1
  backend : left.2.backend = right.2.backend
  records : left.2.records = right.2.records

omit [Backend β] in
theorem Indistinguishable.symm {left right : List CarrierAnswer × Gateway β}
    (same : Indistinguishable left right) : Indistinguishable right left :=
  ⟨same.answers.symm, same.backend.symm, same.records.symm⟩

omit [Backend β] in
theorem Indistinguishable.trans {left middle right : List CarrierAnswer × Gateway β}
    (first : Indistinguishable left middle) (second : Indistinguishable middle right) :
    Indistinguishable left right :=
  ⟨first.answers.trans second.answers, first.backend.trans second.backend,
    first.records.trans second.records⟩

def Occasion.IsNamed (occasion : Occasion) : Prop := occasion.request.namedId?.isSome = true

instance (occasion : Occasion) : Decidable occasion.IsNamed :=
  inferInstanceAs (Decidable (_ = true))

theorem nothingHidden_of_named (id : String) (occasions : List Occasion) (gateway : Gateway β)
    (named : ∀ occasion ∈ occasions, occasion.IsNamed) :
    NothingHidden setting id occasions gateway := by
  induction occasions generalizing gateway with
  | nil => trivial
  | cons occasion rest induction =>
      have first : ¬Hides id occasion gateway := by
        intro hides
        have isNamed := named occasion List.mem_cons_self
        rw [Occasion.IsNamed, hides.unnamed] at isNamed
        cases isNamed
      exact ⟨first, .inr (induction _ fun other member =>
        named other (List.mem_cons_of_mem _ member))⟩

theorem indistinguishable_forgetAll (inOrder : setting.InOrder) {gateway : Gateway β}
    (sound : gateway.Sound) {now : Instant} (ids : List String)
    (stale : ∀ id ∈ ids, gateway.live? id now = none) {occasions : List Occasion}
    (named : ∀ occasion ∈ occasions, occasion.IsNamed)
    (notBefore : ∀ occasion ∈ occasions, occasion.now.lt now = false) :
    Indistinguishable (converse setting occasions gateway)
      (converse setting occasions (gateway.forgetAll ids)) := by
  induction ids generalizing gateway with
  | nil => exact ⟨rfl, rfl, rfl⟩
  | cons id rest induction =>
      have forgets : Forgets setting id occasions gateway :=
        forgets_of_stale inOrder sound (stale id List.mem_cons_self) notBefore
          (nothingHidden_of_named id occasions gateway named)
      have restStale (other : String) (member : other ∈ rest) :
          (gateway.forget id).live? other now = none :=
        Gateway.live?_forget_of_none sound (stale other (List.mem_cons_of_mem _ member)) id
      have restForgets := induction (sound.forget id) restStale
      exact .trans ⟨forgets.answers, forgets.backend, forgets.records⟩ restForgets

/-- Requests that name their sessions cannot tell whether there has been a sweep. -/
theorem indistinguishable_sweep (inOrder : setting.InOrder) {gateway : Gateway β}
    (sound : gateway.Sound) (now : Instant) (days : Int) {occasions : List Occasion}
    (named : ∀ occasion ∈ occasions, occasion.IsNamed)
    (notBefore : ∀ occasion ∈ occasions, occasion.now.lt now = false) :
    Indistinguishable
      (converse setting occasions (Step.take setting gateway (.sweep now days)))
      (converse setting occasions gateway) := by
  have inOrder' : Setting.InOrder { setting with now := now } := inOrder
  rcases on_sweep inOrder' days gateway with ⟨events, sweeps⟩
  let after : Gateway β := Step.take setting gateway (.sweep now days)
  have isAfter : after = { gateway with
      sessions := gateway.sessions.swept now days
      log := gateway.log ++ events } := congrArg Prod.snd sweeps
  have soundAfter : after.Sound := sound.sweep inOrder' days
  have swept : Swept now days _ gateway after :=
    swept_of_ordered sound.ordered (congrArg Gateway.sessions isAfter)
  let ids := gateway.staleIds now
  have stale (id : String) (member : id ∈ ids) : gateway.live? id now = none :=
    Gateway.live?_of_mem_staleIds member
  have staleAfter (id : String) (member : id ∈ ids) : after.live? id now = none := by
    rw [Option.eq_none_iff_forall_ne_some]
    intro session isLive
    have liveBefore := swept.live_before isLive
    rw [stale id member] at liveBefore
    cases liveBefore
  have same : Without none now (gateway.forgetAll ids) (after.forgetAll ids) := by
    have sessions := swept.forgetAll sound soundAfter ids fun _ _ => Gateway.mem_staleIds
    rw [after.forgetAll_eq, gateway.forgetAll_eq, isAfter]
    refine ⟨gateway.forgetAll_eq ids ▸ sound.forgetAll ids, nofun, ?_, rfl, rfl, rfl, rfl⟩
    rw [← isAfter]
    exact sessions
  rcases same.converse_of_none inOrder occasions with ⟨answers, final⟩
  have meets : Indistinguishable (converse setting occasions (gateway.forgetAll ids))
      (converse setting occasions (after.forgetAll ids)) :=
    ⟨answers, final.backend.symm, final.records.symm⟩
  have before := indistinguishable_forgetAll inOrder sound ids stale named notBefore
  have afterwards := indistinguishable_forgetAll inOrder soundAfter ids staleAfter named notBefore
  exact (before.trans (meets.trans afterwards.symm)).symm

end Conversations

/-! ## Requests and sweeps -/

namespace Step

def now : Step → Instant
  | .request occasion => occasion.now
  | .sweep now _ => now

def occasion? : Step → Option Occasion
  | .request occasion => some occasion
  | .sweep _ _ => none

def requests (steps : List Step) : List Occasion := steps.filterMap occasion?

/-- The answers to the requests among some steps, and the gateway after all of them. -/
def run [Backend β] (setting : Setting) : List Step → Gateway β → List CarrierAnswer × Gateway β
  | [], gateway => ([], gateway)
  | .request occasion :: rest, gateway =>
    let served := occasion.serve setting gateway
    let later := run setting rest served.2
    (served.1 :: later.1, later.2)
  | .sweep now days :: rest, gateway =>
    run setting rest (take setting gateway (.sweep now days))

end Step

variable [Backend β]

/-- Sweeps between requests that name their sessions change no answer, nothing that a backend is
told and no record. A sweep changes no live session, removes only sessions that have been ended for
as long as they are kept, and reports how many it has ended and removed. -/
theorem sweeps_are_invisible (inOrder : setting.InOrder) {gateway : Gateway β}
    (sound : gateway.Sound) (steps : List Step)
    (named : ∀ occasion ∈ Step.requests steps, occasion.IsNamed)
    (inTime : steps.Pairwise fun earlier later => later.now.lt earlier.now = false) :
    Indistinguishable (Step.run setting steps gateway)
        (converse setting (Step.requests steps) gateway) ∧
      ∀ earlier now days later, steps = earlier ++ .sweep now days :: later →
        let before := Step.takeAll setting gateway earlier
        ∃ report after, (sweep { setting with now := now } days).on before = (.ok report, after) ∧
          after = Step.take setting before (.sweep now days) ∧
          Swept now days report before after := by
  constructor
  · induction steps generalizing gateway with
    | nil => exact ⟨rfl, rfl, rfl⟩
    | cons step rest induction =>
        rcases List.pairwise_cons.mp inTime with ⟨notBefore, inTimeRest⟩
        have soundNext := step.sound_take inOrder sound
        cases step with
        | request occasion =>
            have namedRest (other : Occasion) (member : other ∈ Step.requests rest) :
                other.IsNamed := named other (List.mem_cons_of_mem _ member)
            have later := induction soundNext namedRest inTimeRest
            exact ⟨congrArg (_ :: ·) later.answers, later.backend, later.records⟩
        | sweep now days =>
            -- What follows the sweep goes as in the swept gateway alone, and so as in the other.
            have later := induction soundNext named inTimeRest
            refine later.trans (indistinguishable_sweep inOrder sound now days named ?_)
            intro occasion member
            rcases List.mem_filterMap.mp member with ⟨other, isLater, isRequest⟩
            cases other with
            | request found =>
                cases isRequest
                exact notBefore _ isLater
            | sweep otherNow otherDays => cases isRequest
  · intro earlier now days later split before
    have inOrder' : Setting.InOrder { setting with now := now } := inOrder
    have soundBefore : before.Sound := sound_run inOrder earlier sound
    rcases on_sweep inOrder' days before with ⟨events, sweeps⟩
    refine ⟨_, _, sweeps, ?_, swept_of_ordered soundBefore.ordered rfl⟩
    exact (congrArg Prod.snd sweeps).symm

/-- Two subscribers, one of whom comes back after a session has expired and has been removed. -/
def Sample.sweptVisits : List Step :=
  [.request (visit 1000 (some "x") "237" "*2#" ""),
    .request (visit 1001 (some "y") "238" "*1#" ""),
    .sweep { seconds := 1500, nanoseconds := 0 } 0,
    .sweep { seconds := 1600, nanoseconds := 0 } 0,
    .request (visit 1700 (some "y") "238" "*1#" "1"),
    .request (visit 1701 (some "x") "237" "*2#" "")]

theorem sweeps_are_invisible_to_two_subscribers :
    let gateway := Gateway.opened [Sample.patientService, Sample.hastyService] [] Sample.backend
    let before := Step.takeAll Sample.setting gateway (Sample.sweptVisits.take 3)
    let now : Instant := { seconds := 1600, nanoseconds := 0 }
    Sample.setting.InOrder ∧ gateway.Sound ∧
      (∀ occasion ∈ Step.requests Sample.sweptVisits, occasion.IsNamed) ∧
      (Sample.sweptVisits.Pairwise fun earlier later => later.now.lt earlier.now = false) ∧
      Indistinguishable (Step.run Sample.setting Sample.sweptVisits gateway)
        (converse Sample.setting (Step.requests Sample.sweptVisits) gateway) ∧
      ∃ report after, Swept now 0 report before after ∧ report.purged = 1 := by
  intro gateway before now
  have sound : gateway.Sound := .opened _ _ _
  have named : ∀ occasion ∈ Step.requests Sample.sweptVisits, occasion.IsNamed := by
    decide +kernel
  have inTime : Sample.sweptVisits.Pairwise fun earlier later =>
      later.now.lt earlier.now = false := by decide +kernel
  rcases sweeps_are_invisible Sample.inOrder sound Sample.sweptVisits named inTime with
    ⟨same, sweeps⟩
  rcases sweeps (Sample.sweptVisits.take 3) now 0 (Sample.sweptVisits.drop 4) rfl with
    ⟨report, after, reports, -, swept⟩
  have evaluated : ((sweep { Sample.setting with now := now } 0).on before).1.toOption.map
      SweepReport.purged = some 1 := by decide +kernel
  have purged : some report.purged = some 1 := by
    rw [← evaluated, reports]
    rfl
  exact ⟨Sample.inOrder, sound, named, inTime, same, report, after, swept,
    Option.some.inj purged⟩

end Ussd
