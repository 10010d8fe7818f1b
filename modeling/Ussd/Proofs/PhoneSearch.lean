import Ussd.Proofs.Lifecycle

/-! # The search for a phone number

A session that has expired stays in the store as an active one until it is swept or opened anew. The
search picks the latest active session first and drops it afterwards if it has expired, so that such
a session keeps every earlier one of its subscriber from being found. -/

namespace Ussd

variable {β : Type} {setting : Setting}

namespace Session

structure LiveOf (phoneNumber : String) (now : Instant) (session : Session) : Prop where
  phoneNumber : session.phoneNumber = phoneNumber
  isLive : session.isLive now = true

/-- A session of the phone number that has expired but has not been ended. -/
structure LingersOf (phoneNumber : String) (now : Instant) (session : Session) : Prop where
  phoneNumber : session.phoneNumber = phoneNumber
  isActive : session.isActive = true
  expired : now.lt session.expiresAt = false

theorem LiveOf.isActive {phoneNumber : String} {now : Instant} {session : Session}
    (live : session.LiveOf phoneNumber now) : session.isActive = true :=
  (Bool.and_eq_true_iff.mp live.isLive).1

theorem liveOf_or_lingersOf {session : Session} (isActive : session.isActive = true)
    (now : Instant) :
    session.LiveOf session.phoneNumber now ∨ session.LingersOf session.phoneNumber now := by
  cases before : now.lt session.expiresAt with
  | true => exact .inl ⟨rfl, by rw [isLive, isActive, before]; rfl⟩
  | false => exact .inr ⟨rfl, isActive, before⟩

theorem LingersOf.not_isLive {phoneNumber : String} {now : Instant} {session : Session}
    (lingers : session.LingersOf phoneNumber now) : session.isLive now = false := by
  rw [isLive, lingers.expired, Bool.and_false]

end Session

namespace SessionStore

theorem mem_active {store : SessionStore} {phoneNumber : String} {session : Session} :
    session ∈ store.values.filter
        (fun session => session.isActive && session.phoneNumber == phoneNumber) ↔
      session ∈ store.values ∧ session.isActive = true ∧ session.phoneNumber = phoneNumber := by
  simp

structure Search (store : SessionStore) (phoneNumber : String) (now : Instant)
    (found : Option Session) : Prop where
  live : ∀ session, found = some session →
    session ∈ store.values ∧ session.LiveOf phoneNumber now
  latest : ∀ session, found = some session →
    ∀ other ∈ store.values, other.LiveOf phoneNumber now ∨ other.LingersOf phoneNumber now →
      session.lastActivity.lt other.lastActivity = false
  /-- Nothing but an expired session that is at least as late hides a live one. -/
  excused : found = none → ∀ session ∈ store.values, session.LiveOf phoneNumber now →
    ∃ expired ∈ store.values, expired.LingersOf phoneNumber now ∧
      expired.lastActivity.lt session.lastActivity = false
  /-- An expired session hides every earlier one. -/
  hides : ∀ expired ∈ store.values, expired.LingersOf phoneNumber now →
    (∀ session ∈ store.values, session.LiveOf phoneNumber now →
      session.lastActivity.lt expired.lastActivity = true) → found = none

theorem search_of_latest {store : SessionStore} {phoneNumber : String} {latest : Session}
    (isLatest : latestActive? store phoneNumber = some latest) (now : Instant) :
    Search store phoneNumber now ((some latest).filter (·.isLive now)) := by
  rcases mem_of_latest isLatest with impossible | listed
  · cases impossible
  · rcases mem_active.mp listed with ⟨stored, isActive, rfl⟩
    have notEarlier : ∀ other ∈ store.values,
        other.LiveOf latest.phoneNumber now ∨ other.LingersOf latest.phoneNumber now →
          latest.lastActivity.lt other.lastActivity = false := by
      intro other member own
      apply (latest_not_earlier isLatest).2
      rcases own with live | lingers
      · exact mem_active.mpr ⟨member, live.isActive, live.phoneNumber⟩
      · exact mem_active.mpr ⟨member, lingers.isActive, lingers.phoneNumber⟩
    rcases Session.liveOf_or_lingersOf isActive now with live | lingers
    · rw [Option.filter_some, if_pos live.isLive]
      refine ⟨?_, ?_, nofun, fun expired member lingers allEarlier => ?_⟩
      · rintro session ⟨⟩
        exact ⟨stored, live⟩
      · rintro session ⟨⟩
        exact notEarlier
      · have notBefore := notEarlier expired member (.inr lingers)
        rw [allEarlier latest stored live] at notBefore
        cases notBefore
    · rw [Option.filter_some, lingers.not_isLive, if_neg Bool.false_ne_true]
      exact ⟨nofun, nofun,
        fun _ session member live => ⟨latest, stored, lingers, notEarlier session member (.inl live)⟩,
        fun _ _ _ _ => rfl⟩

/-- The latest active session decides the search, even if it has expired. -/
theorem search_latestActive? (store : SessionStore) (phoneNumber : String) (now : Instant) :
    Search store phoneNumber now ((latestActive? store phoneNumber).filter (·.isLive now)) := by
  cases isLatest : latestActive? store phoneNumber with
  | some latest => exact search_of_latest isLatest now
  | none =>
      have nobody := latest_eq_none.mp isLatest
      have inactive (session : Session) (member : session ∈ store.values)
          (live : session.LiveOf phoneNumber now) : False := by
        have listed := mem_active.mpr ⟨member, live.isActive, live.phoneNumber⟩
        rw [nobody] at listed
        cases listed
      exact ⟨nofun, nofun, fun _ session member live => (inactive session member live).elim,
        fun _ _ _ _ => rfl⟩

end SessionStore

section Requests

variable [Backend β]

/-- The search finds a live session of the phone number, and then the latest one, unless an expired
session that has not been ended is as late as every live one. A request that names no session
continues the session that is found. -/
theorem phone_search_heeds_expired_sessions (inOrder : setting.InOrder) (gateway : Gateway β)
    (phoneNumber : String) :
    ∃ found, (liveSessionOf? setting phoneNumber).on gateway = (.ok found, gateway) ∧
      gateway.sessions.Search phoneNumber setting.now found ∧
      ∀ request : CarrierRequest, request.namedId? = none → request.phoneNumber = phoneNumber →
        (sessionIdFor setting request).on gateway =
            (.ok ((found.map Session.id).getD setting.freshId), gateway) ∧
          (Table.Ordered gateway.sessions → gateway.sessions.Keyed →
            ∀ session, found = some session →
              (dispatch setting session.id request).on gateway =
                (continueSession setting session request.text).on gateway) := by
  refine ⟨_, on_liveSessionOf? inOrder phoneNumber gateway,
    SessionStore.search_latestActive? gateway.sessions phoneNumber setting.now,
    fun request unnamed isPhone => ⟨?_, fun ordered keyed session found => ?_⟩⟩
  · cases isPhone
    let occasion : Occasion := { now := setting.now, freshId := setting.freshId, request := request }
    have finds : (sessionIdFor setting request).on gateway =
        (.ok (occasion.sessionId gateway), gateway) := on_sessionIdFor inOrder occasion gateway
    have isId : occasion.sessionId gateway =
        (((gateway.sessions.latestActive? request.phoneNumber).filter
          (·.isLive setting.now)).map Session.id).getD setting.freshId := by
      unfold Occasion.sessionId
      rw [unnamed]
      cases (gateway.sessions.latestActive? request.phoneNumber).filter (·.isLive setting.now) <;>
        rfl
    rw [finds, isId]
  · rcases Option.filter_eq_some_iff.mp found with ⟨isLatest, isLive⟩
    have stored := SessionStore.get?_of_latestActive? ordered keyed isLatest
    rw [on_dispatch inOrder, Gateway.live?_eq_some.mpr ⟨stored, isLive⟩]

end Requests

namespace Sample

def settingAt (seconds : Int) : Setting :=
  { Sample.setting with now := { seconds := seconds, nanoseconds := 0 } }

end Sample

theorem phone_search_finds_latest_session :
    (Sample.settingAt 1005).InOrder ∧
      ∃ found, (liveSessionOf? (Sample.settingAt 1005) "237").on Sample.crowded =
          (.ok found, Sample.crowded) ∧ found.map Session.id = some "x" ∧
        Sample.crowded.sessions.Search "237" (Sample.settingAt 1005).now found := by
  have inOrder : (Sample.settingAt 1005).InOrder := Sample.inOrder
  rcases phone_search_heeds_expired_sessions inOrder Sample.crowded "237" with
    ⟨found, finds, search, -⟩
  have isFirst : ((Sample.crowded.sessions.latestActive? "237").filter
      (·.isLive (Sample.settingAt 1005).now)).map Session.id = some "x" := by decide +kernel
  have isFound := finds.symm.trans (on_liveSessionOf? inOrder "237" Sample.crowded)
  rw [← Except.ok.inj (Prod.mk.inj isFound).1] at isFirst
  exact ⟨inOrder, found, finds, isFirst, search⟩

/-- Once the later session has expired the earlier one, still live, is not found. -/
theorem phone_search_may_overlook_live_session :
    (∃ session ∈ Sample.crowded.sessions.values,
        session.LiveOf "237" (Sample.settingAt 1020).now) ∧
      (liveSessionOf? (Sample.settingAt 1020) "237").on Sample.crowded =
        (.ok none, Sample.crowded) := by
  have inOrder : (Sample.settingAt 1020).InOrder := Sample.inOrder
  have evaluated : (∃ session ∈ Sample.crowded.sessions.values,
      session.phoneNumber = "237" ∧ session.isLive (Sample.settingAt 1020).now = true) ∧
      ((Sample.crowded.sessions.latestActive? "237").filter
        (·.isLive (Sample.settingAt 1020).now)).isNone = true := by decide +kernel
  rcases evaluated with ⟨⟨session, member, isPhone, isLive⟩, isNone⟩
  refine ⟨⟨session, member, isPhone, isLive⟩, ?_⟩
  rw [on_liveSessionOf? inOrder, Option.isNone_iff_eq_none.mp isNone]

end Ussd
