import Ussd.Gateway.Sessions
import Ussd.Proofs.Run

/-! # Work on stored sessions

What the session operations do to a gateway, as equations. -/

namespace Ussd

variable {β : Type} {setting : Setting}

/-- A look-up changes nothing; it fails only when the store is out of order. -/
theorem on_storedSession? (setting : Setting) (id : String) (gateway : Gateway β) :
    (storedSession? setting id).on gateway =
      match setting.outage .findSession with
      | some reason => (.error (.of .databaseError reason), gateway)
      | none => (.ok (Table.get? gateway.sessions id), gateway) := by
  unfold storedSession?
  rw [Run.on_bind]
  cases outage : setting.outage .findSession with
  | some reason => rw [on_requireOrder_of_some outage]; rfl
  | none => rw [on_requireOrder_of_none outage]; rfl

/-- The data of a session are read as they are stored, with its phone number. -/
theorem on_sessionData (setting : Setting) (id : String) (gateway : Gateway β) :
    (sessionData setting id).on gateway =
      match setting.outage .findSession, Table.get? gateway.sessions id with
      | some reason, _ => (.error (.of .databaseError reason), gateway)
      | none, none => (.error (.of .sessionNotFound ("Session not found: " ++ id)), gateway)
      | none, some stored => (.ok stored.visibleData, gateway) := by
  unfold sessionData requireSession
  rw [Run.on_bind, Run.on_bind, on_storedSession?]
  cases setting.outage .findSession with
  | some reason => rfl
  | none => cases Table.get? gateway.sessions id <;> rfl

theorem on_storeSession (setting : Setting) (session : Session) (gateway : Gateway β) :
    (storeSession setting session).on gateway =
      match setting.outage .saveSession with
      | some reason => (.error (.of .databaseError reason), gateway)
      | none => (.ok (), { gateway with sessions := gateway.sessions.save session }) := by
  unfold storeSession
  rw [Run.on_bind]
  cases outage : setting.outage .saveSession with
  | some reason => rw [on_requireOrder_of_some outage]; rfl
  | none => rw [on_requireOrder_of_none outage]; rfl

/-- A change of a session either takes place as a whole or leaves the gateway as it was. -/
theorem on_changeSession (setting : Setting) (id : String) (change : Session → Session)
    (gateway : Gateway β) :
    (changeSession setting id change).on gateway =
      match setting.outage .findSession, Table.get? gateway.sessions id,
        setting.outage .saveSession with
      | some reason, _, _ => (.error (.of .databaseError reason), gateway)
      | none, none, _ => (.error (.of .sessionNotFound ("Session not found: " ++ id)), gateway)
      | none, some _, some reason => (.error (.of .databaseError reason), gateway)
      | none, some stored, none =>
        (.ok (change stored), { gateway with sessions := gateway.sessions.save (change stored) }) := by
  unfold changeSession requireSession
  rw [Run.on_bind, Run.on_bind, on_storedSession?]
  cases setting.outage .findSession with
  | some reason => rfl
  | none =>
      cases Table.get? gateway.sessions id with
      | none => rfl
      | some stored =>
          simp only [Run.on_pure]
          rw [Run.on_bind, on_storeSession]
          cases setting.outage .saveSession with
          | some reason => rfl
          | none => rfl

/-- Where a change succeeds, the session was stored and its changed form now is. -/
theorem on_changeSession_eq_ok {id : String} {change : Session → Session}
    {gateway after : Gateway β} {changed : Session}
    (succeeds : (changeSession setting id change).on gateway = (.ok changed, after)) :
    ∃ stored, Table.get? gateway.sessions id = some stored ∧ changed = change stored ∧
      after = { gateway with sessions := gateway.sessions.save (change stored) } := by
  rw [on_changeSession] at succeeds
  split at succeeds
  case h_4 stored _ found _ =>
    cases succeeds
    exact ⟨stored, found, rfl, rfl⟩
  all_goals cases succeeds

theorem on_touchSession (inOrder : setting.InOrder) {id : String} {gateway : Gateway β}
    {stored : Session} (found : Table.get? gateway.sessions id = some stored)
    (timeout : Option Nat) :
    (touchSession setting id timeout).on gateway =
      (.ok (stored.touch (timeoutOf setting timeout) setting.now),
        { gateway with
          sessions := gateway.sessions.save (stored.touch (timeoutOf setting timeout) setting.now) })
    := by
  rw [touchSession, on_changeSession, found, inOrder .findSession (by decide),
    inOrder .saveSession (by decide)]

theorem on_endSession (inOrder : setting.InOrder) (id : String) (gateway : Gateway β) :
    (endSession setting id).on gateway =
      (.ok (), { gateway with
        sessions := gateway.sessions.update id (·.deactivate setting.now)
        log := gateway.log ++ [.sessionEnded id] }) := by
  simp [endSession, Run.on_bind, on_requireOrder_of_none (inOrder .endSession (by decide))]

/-! ## Live sessions -/

/-- The stored session of an id, if it is live. -/
def Gateway.live? (gateway : Gateway β) (id : String) (now : Instant) : Option Session :=
  (Table.get? gateway.sessions id).filter (·.isLive now)

theorem Gateway.live?_eq_some {gateway : Gateway β} {id : String} {now : Instant}
    {session : Session} : gateway.live? id now = some session ↔
      Table.get? gateway.sessions id = some session ∧ session.isLive now = true := by
  simp [live?, Option.filter_eq_some_iff]

theorem on_liveSession? (inOrder : setting.InOrder) (id : String) (gateway : Gateway β) :
    (liveSession? setting id).on gateway = (.ok (gateway.live? id setting.now), gateway) := by
  unfold liveSession?
  rw [Run.on_bind, on_storedSession?, inOrder .findSession (by decide)]
  rfl

theorem on_liveSessionOf? (inOrder : setting.InOrder) (phoneNumber : String)
    (gateway : Gateway β) :
    (liveSessionOf? setting phoneNumber).on gateway =
      (.ok ((gateway.sessions.latestActive? phoneNumber).filter (·.isLive setting.now)), gateway) := by
  unfold liveSessionOf?
  rw [Run.on_bind, on_requireOrder_of_none (inOrder .findByPhone (by decide))]
  rfl

theorem of_liveSessionOf?_eq_ok {phoneNumber : String} {gateway after : Gateway β}
    {found : Option Session}
    (finds : (liveSessionOf? setting phoneNumber).on gateway = (.ok found, after)) :
    found = (gateway.sessions.latestActive? phoneNumber).filter (·.isLive setting.now) ∧
      after = gateway := by
  rcases Run.on_bind_eq_ok.mp finds with ⟨_, between, passes, reads⟩
  cases of_requireOrder_eq_ok passes
  cases reads
  exact ⟨rfl, rfl⟩

theorem of_liveSession?_eq_ok {id : String} {gateway after : Gateway β} {found : Option Session}
    (finds : (liveSession? setting id).on gateway = (.ok found, after)) :
    found = gateway.live? id setting.now ∧ after = gateway := by
  rcases Run.on_bind_eq_ok.mp finds with ⟨stored, between, reads, filters⟩
  rcases Run.on_bind_eq_ok.mp reads with ⟨_, passed, passes, looks⟩
  cases of_requireOrder_eq_ok passes
  cases looks
  cases filters
  exact ⟨rfl, rfl⟩

/-- The session that a service is opened with: the live one, prolonged, or else a new one. -/
def openedSession (setting : Setting) (gateway : Gateway β)
    (id phoneNumber serviceCode stateId : String) (timeout : Nat) : Session :=
  match gateway.live? id setting.now with
  | some existing => existing.touch timeout setting.now
  | none => .begin id phoneNumber serviceCode stateId timeout setting.now

def openingEvents (setting : Setting) (gateway : Gateway β) (id serviceCode stateId : String) :
    List Event :=
  match Table.get? gateway.sessions id with
  | some existing =>
    if existing.isLive setting.now then []
    else [.staleReplaced id, .sessionCreated id serviceCode stateId]
  | none => [.sessionCreated id serviceCode stateId]

theorem on_openSession (inOrder : setting.InOrder)
    (id phoneNumber serviceCode stateId : String) (timeout : Option Nat) (gateway : Gateway β) :
    (openSession setting id phoneNumber serviceCode stateId timeout).on gateway =
      (.ok (openedSession setting gateway id phoneNumber serviceCode stateId
          (timeoutOf setting timeout)),
        { gateway with
          sessions := gateway.sessions.save (openedSession setting gateway id phoneNumber
            serviceCode stateId (timeoutOf setting timeout))
          log := gateway.log ++ openingEvents setting gateway id serviceCode stateId }) := by
  unfold openSession openedSession openingEvents Gateway.live?
  rw [Run.on_bind, on_storedSession?, inOrder .findSession (by decide)]
  cases Table.get? gateway.sessions id with
  | none =>
      simp only [Run.on_bind, Run.on_note, Run.on_pure, on_storeSession,
        inOrder .saveSession (by decide), Option.filter_none]
  | some existing =>
      cases live : existing.isLive setting.now with
      | true =>
          simp only [Option.filter_some, live, if_true, Run.on_bind, Run.on_pure, on_storeSession,
            inOrder .saveSession (by decide), List.append_nil]
      | false =>
          simp only [Option.filter_some, live, Bool.false_eq_true, if_false, Run.on_bind,
            Run.on_note, Run.on_pure, on_storeSession, inOrder .saveSession (by decide),
            List.append_assoc, List.cons_append, List.nil_append]

end Ussd
