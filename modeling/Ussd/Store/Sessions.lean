import Ussd.Session.Basic
/-!
# The session store

Sessions by id. A session stays in the store when it has ended, until it is purged.
-/

namespace Ussd

abbrev SessionStore := Table Session

namespace SessionStore

def save (store : SessionStore) (session : Session) : SessionStore :=
  Table.insert store session.id session

/-- The later of two sessions by last activity, the second one if they are equally late. -/
def later (left right : Session) : Session :=
  if right.lastActivity.lt left.lastActivity then left else right

/-- The session of a phone number with the latest activity among those that have not ended. -/
def latestActive? (store : SessionStore) (phoneNumber : String) : Option Session :=
  (store.values.filter fun session => session.isActive && session.phoneNumber == phoneNumber).foldl
    (fun best session => some (match best with
      | none => session
      | some best => later best session)) none

def update (store : SessionStore) (id : String) (change : Session → Session) : SessionStore :=
  store.map fun entry => if entry.1 = id then (entry.1, change entry.2) else entry

def isOverdue (now : Instant) (session : Session) : Bool :=
  session.isActive && session.expiresAt.lt now

def expire (store : SessionStore) (now : Instant) : SessionStore × Nat :=
  (store.map fun entry =>
      if isOverdue now entry.2 then (entry.1, entry.2.deactivate now) else entry,
    store.countP fun entry => isOverdue now entry.2)

def isStale (threshold : Instant) (session : Session) : Bool :=
  !session.isActive && session.lastActivity.lt threshold

/-- Removes the ended sessions without activity since a threshold; says how many. -/
def purge (store : SessionStore) (threshold : Instant) : SessionStore × Nat :=
  (store.filter fun entry => !isStale threshold entry.2,
    store.countP fun entry => isStale threshold entry.2)

end SessionStore

end Ussd
