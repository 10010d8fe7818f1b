import Ussd.Proofs.Instants
import Ussd.Proofs.Stores

/-! # The latest session of a phone number

The search for a phone number takes the latest of its sessions that have not been ended, whether or
not that one has expired. A stored session therefore bears on the result only if it is the result,
and then it may hide an earlier one that is live. -/

namespace Ussd

namespace SessionStore

/-- The latest of some sessions and one that is known already. -/
def latest (best : Option Session) (sessions : List Session) : Option Session :=
  sessions.foldl
    (fun best session => some (match best with
      | none => session
      | some best => later best session)) best

theorem latestActive?_eq (store : SessionStore) (phoneNumber : String) :
    latestActive? store phoneNumber =
      latest none (store.values.filter fun session =>
        session.isActive && session.phoneNumber == phoneNumber) := rfl

theorem latest_append (best : Option Session) (first second : List Session) :
    latest best (first ++ second) = latest (latest best first) second :=
  List.foldl_append ..

theorem later_eq_or (left right : Session) : later left right = left ∨ later left right = right := by
  unfold later
  split
  · exact .inl rfl
  · exact .inr rfl

theorem mem_of_latest {best : Option Session} {sessions : List Session} {session : Session}
    (found : latest best sessions = some session) : best = some session ∨ session ∈ sessions := by
  induction sessions generalizing best with
  | nil => exact .inl found
  | cons head rest induction =>
      rcases induction found with first | isRest
      · cases best with
        | none =>
            cases first
            exact .inr List.mem_cons_self
        | some best =>
            rcases later_eq_or best head with isBest | isHead
            · exact .inl (by simpa [isBest] using first)
            · simp only [isHead, Option.some.injEq] at first
              exact .inr (first ▸ List.mem_cons_self)
      · exact .inr (List.mem_cons_of_mem _ isRest)

theorem later_not_earlier (left right : Session) :
    (later left right).lastActivity.lt left.lastActivity = false ∧
      (later left right).lastActivity.lt right.lastActivity = false := by
  cases earlier : right.lastActivity.lt left.lastActivity with
  | true => simp [later, earlier, Instant.lt_irrefl, Instant.not_lt_of_lt earlier]
  | false => simp [later, earlier, Instant.lt_irrefl]

/-- No session is later than the latest one. -/
theorem latest_not_earlier {best : Option Session} {sessions : List Session} {found : Session}
    (isLatest : latest best sessions = some found) :
    (∀ known, best = some known → found.lastActivity.lt known.lastActivity = false) ∧
      ∀ other ∈ sessions, found.lastActivity.lt other.lastActivity = false := by
  induction sessions generalizing best with
  | nil =>
      refine ⟨fun known isKnown => ?_, nofun⟩
      cases isKnown.symm.trans isLatest
      exact Instant.lt_irrefl _
  | cons head rest induction =>
      rcases induction isLatest with ⟨notBeforeBest, notBeforeRest⟩
      cases best with
      | none =>
          exact ⟨nofun, List.forall_mem_cons.mpr ⟨notBeforeBest head rfl, notBeforeRest⟩⟩
      | some known =>
          have notBefore := notBeforeBest _ rfl
          have laterOfBoth := later_not_earlier known head
          constructor
          · intro other isKnown
            cases isKnown
            exact Instant.not_lt_trans notBefore laterOfBoth.1
          · exact List.forall_mem_cons.mpr
              ⟨Instant.not_lt_trans notBefore laterOfBoth.2, notBeforeRest⟩

theorem exists_latest (best : Session) (sessions : List Session) :
    ∃ found, latest (some best) sessions = some found := by
  induction sessions generalizing best with
  | nil => exact ⟨best, rfl⟩
  | cons head rest induction => exact induction (later best head)

theorem latest_eq_none {sessions : List Session} :
    latest none sessions = none ↔ sessions = [] := by
  cases sessions with
  | nil => exact ⟨fun _ => rfl, fun _ => rfl⟩
  | cons head rest =>
      rcases exists_latest head rest with ⟨found, isLatest⟩
      have isSome : latest none (head :: rest) = some found := isLatest
      simp [isSome]

/-- A session that is at least as late as those before it matters only if it is the latest. -/
theorem latest_some {best : Option Session} {session : Session}
    (notEarlier : ∀ other, best = some other →
      session.lastActivity.lt other.lastActivity = false) (sessions : List Session) :
    latest (some session) sessions = latest best sessions ∨
      latest (some session) sessions = some session := by
  induction sessions generalizing best with
  | nil => exact .inr rfl
  | cons head rest induction =>
      -- As long as the session stays the latest, what follows is compared with the other best one
      -- as well; the first session that takes its place also takes that of the other.
      cases earlier : head.lastActivity.lt session.lastActivity with
      | true =>
          have stays : latest (some session) (head :: rest) = latest (some session) rest := by
            simp [latest, later, earlier]
          rw [stays]
          apply induction
          intro other known
          cases best with
          | none =>
              cases known
              exact Instant.not_lt_of_lt earlier
          | some best =>
              cases known
              change session.lastActivity.lt (later best head).lastActivity = false
              rcases later_eq_or best head with isBest | isHead
              · rw [isBest]
                exact notEarlier best rfl
              · rw [isHead]
                exact Instant.not_lt_of_lt earlier
      | false =>
          left
          have moves (best : Session) (notLater : head.lastActivity.lt best.lastActivity = false) :
              latest (some best) (head :: rest) = latest (some head) rest := by
            simp [latest, later, notLater]
          rw [moves session earlier]
          cases best with
          | none => rfl
          | some best => rw [moves best (Instant.not_lt_trans earlier (notEarlier best rfl))]

theorem latest_skip (before after : List Session) (session : Session) :
    latest none (before ++ session :: after) = latest none (before ++ after) ∨
      latest none (before ++ session :: after) = some session := by
  rw [latest_append, latest_append]
  generalize latest none before = best
  cases best with
  | none => exact @latest_some none session nofun after
  | some best =>
      cases earlier : session.lastActivity.lt best.lastActivity with
      | true => exact .inl (by simp [latest, later, earlier])
      | false =>
          have moves : latest (some best) (session :: after) = latest (some session) after := by
            simp [latest, later, earlier]
          rw [moves]
          refine latest_some (fun other known => ?_) after
          cases known
          exact earlier

/-- A stored session bears on the search only if it is the one that is found. -/
theorem latestActive?_erase (store : SessionStore) (id phoneNumber : String) :
    latestActive? store phoneNumber = latestActive? (Table.erase store id) phoneNumber ∨
      ∃ stored, Table.get? store id = some stored ∧
        latestActive? store phoneNumber = some stored := by
  rcases Table.erase_split store id with same | ⟨before, stored, after, split, found, erased⟩
  · rw [same]
    exact .inl rfl
  · rw [found, erased, latestActive?_eq, latestActive?_eq, split]
    simp only [Table.values, List.map_append, List.map_cons, List.filter_append, List.filter_cons]
    split
    · rcases latest_skip _ _ stored with skipped | isStored
      · exact .inl skipped
      · exact .inr ⟨stored, rfl, isStored⟩
    · exact .inl rfl

theorem get?_of_latestActive? {store : SessionStore} (ordered : Table.Ordered store)
    (keyed : store.Keyed) {phoneNumber : String} {session : Session}
    (found : latestActive? store phoneNumber = some session) :
    Table.get? store session.id = some session := by
  rcases mem_of_latest found with impossible | listed
  · cases impossible
  · rcases List.mem_map.mp (List.mem_filter.mp listed).1 with ⟨⟨id, stored⟩, member, rfl⟩
    have isStored := (ordered.get?_eq_some_iff id stored).mpr member
    rwa [keyed id stored isStored]

theorem phoneNumber_of_latestActive? {store : SessionStore} {phoneNumber : String}
    {session : Session} (found : latestActive? store phoneNumber = some session) :
    session.phoneNumber = phoneNumber := by
  rcases mem_of_latest found with impossible | listed
  · cases impossible
  · have kept := (List.mem_filter.mp listed).2
    simp only [Bool.and_eq_true, beq_iff_eq] at kept
    exact kept.2

end SessionStore

end Ussd
