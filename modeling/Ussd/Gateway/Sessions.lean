import Ussd.Gateway.Basic
/-!
# Sessions of a gateway

Every change reads the stored session, changes it and stores it again, so that no action works with
an outdated one.
-/

namespace Ussd

variable {β ε : Type}

def storedSession? (setting : Setting) (id : String) : Run β Fault (Option Session) := do
  requireOrder setting .findSession
  return Table.get? (← get).sessions id

def storeSession (setting : Setting) (session : Session) : Run β Fault Unit := do
  requireOrder setting .saveSession
  modify fun gateway => { gateway with sessions := gateway.sessions.save session }

def liveSession? (setting : Setting) (id : String) : Run β Fault (Option Session) := do
  return (← storedSession? setting id).filter (·.isLive setting.now)

/-- The latest session of a phone number that has not ended, if it is live. -/
def liveSessionOf? (setting : Setting) (phoneNumber : String) : Run β Fault (Option Session) := do
  requireOrder setting .findByPhone
  return ((← get).sessions.latestActive? phoneNumber).filter (·.isLive setting.now)

/-- The timeout of a session: that of its service or else the general one. -/
def timeoutOf (setting : Setting) (timeout : Option Nat) : Nat :=
  timeout.getD setting.sessionTimeout

/-- The live session of an id, prolonged, or else a new one without data. -/
def openSession (setting : Setting) (id phoneNumber serviceCode stateId : String)
    (timeout : Option Nat) : Run β Fault Session := do
  let timeout := timeoutOf setting timeout
  let begun := Session.begin id phoneNumber serviceCode stateId timeout setting.now
  let session ← match ← storedSession? setting id with
    | some existing =>
      if existing.isLive setting.now then pure (existing.touch timeout setting.now)
      else do
        note (.staleReplaced id)
        note (.sessionCreated id serviceCode stateId)
        pure begun
    | none => do
      note (.sessionCreated id serviceCode stateId)
      pure begun
  storeSession setting session
  return session

def requireSession (setting : Setting) (id : String) : Run β Fault Session := do
  match ← storedSession? setting id with
  | some session => pure session
  | none => throw (.of .sessionNotFound ("Session not found: " ++ id))

def changeSession (setting : Setting) (id : String) (change : Session → Session) :
    Run β Fault Session := do
  let session := change (← requireSession setting id)
  storeSession setting session
  return session

def touchSession (setting : Setting) (id : String) (timeout : Option Nat) : Run β Fault Session :=
  changeSession setting id (·.touch (timeoutOf setting timeout) setting.now)

def moveSession (setting : Setting) (id stateId : String) : Run β Fault Session :=
  changeSession setting id (·.moveTo stateId setting.now)

def keepEntry (setting : Setting) (id name : String) (value : Json) : Run β Fault Unit := do
  note (.entryKept id name)
  let _ ← changeSession setting id (·.merge [(name, value)] setting.now)

def keepEntries (setting : Setting) (id : String) (entries : Fields) : Run β Fault Unit := do
  if entries.isEmpty then return
  note (.entriesKept id entries.length)
  let _ ← changeSession setting id (·.merge entries setting.now)

def sessionData (setting : Setting) (id : String) : Run β Fault Json := do
  return (← requireSession setting id).visibleData

/-- Ends a session; an unknown id is no fault. -/
def endSession (setting : Setting) (id : String) : Run β Fault Unit := do
  note (.sessionEnded id)
  requireOrder setting .endSession
  modify fun gateway =>
    { gateway with sessions := gateway.sessions.update id (·.deactivate setting.now) }

def expireSessions (setting : Setting) : Run β Fault Nat := do
  requireOrder setting .expireSessions
  let outcome := (← get).sessions.expire setting.now
  modify fun gateway => { gateway with sessions := outcome.1 }
  return outcome.2

/-- Removes the ended sessions without activity for a number of days; says how many. -/
def purgeSessions (setting : Setting) (days : Int) : Run β Fault Nat := do
  requireOrder setting .purgeSessions
  let outcome := (← get).sessions.purge (setting.now.minusDays days)
  modify fun gateway => { gateway with sessions := outcome.1 }
  return outcome.2

end Ussd
