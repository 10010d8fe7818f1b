import Ussd.Calendar.Instant
/-!
# Sessions

A session is one subscriber's way through one service: the state that has been reached and the data
collected so far. It is live while it is active and has not expired. Every operation is told the
instant at which it happens. The end of a session is an instant also where the calendar has none;
`Instant.isInCalendar` tells whether it has.
-/

namespace Ussd

structure Session where
  id : String
  phoneNumber : String
  serviceCode : String
  stateId : String
  data : Fields
  isActive : Bool
  createdAt : Instant
  lastActivity : Instant
  expiresAt : Instant
  deriving Inhabited, BEq

namespace Session

def phoneKey : String := "phoneNumber"

def begin (id phoneNumber serviceCode stateId : String) (timeout : Nat) (now : Instant) :
    Session where
  id := id
  phoneNumber := phoneNumber
  serviceCode := serviceCode
  stateId := stateId
  data := []
  isActive := true
  createdAt := now
  lastActivity := now
  expiresAt := now.plusSeconds timeout

def isLive (session : Session) (now : Instant) : Bool :=
  session.isActive && now.lt session.expiresAt

/-- The data as templates and conditions see them, with the phone number. -/
def visibleFields (session : Session) : Fields :=
  Table.insert session.data phoneKey (.text session.phoneNumber)

def visibleData (session : Session) : Json := .object session.visibleFields

def touch (session : Session) (timeout : Nat) (now : Instant) : Session :=
  { session with lastActivity := now, expiresAt := now.plusSeconds timeout }

def moveTo (session : Session) (stateId : String) (now : Instant) : Session :=
  { session with stateId := stateId, lastActivity := now }

def merge (session : Session) (entries : List (String × Json)) (now : Instant) : Session :=
  { session with data := Table.merge session.data entries, lastActivity := now }

def deactivate (session : Session) (now : Instant) : Session :=
  { session with isActive := false, lastActivity := now }

/-! ## Written form -/

def fieldNames : List String :=
  ["id", "phone_number", "service_code", "current_state_id", "data", "is_active", "created_at",
    "last_activity", "expires_at"]

def decode : Decoder Session := fun node => do
  let record ← Record.ofNode fieldNames node
  return {
    id := ← record.required "id" Decoder.text
    phoneNumber := ← record.required "phone_number" Decoder.text
    serviceCode := ← record.required "service_code" Decoder.text
    stateId := ← record.required "current_state_id" Decoder.text
    data := ← record.required "data" (Decoder.table Decoder.json)
    isActive := ← record.required "is_active" Decoder.bool
    createdAt := ← record.required "created_at" Instant.decode
    lastActivity := ← record.required "last_activity" Instant.decode
    expiresAt := ← record.required "expires_at" Instant.decode }

def toJson (session : Session) : Json :=
  .ofFields [("id", .text session.id), ("phone_number", .text session.phoneNumber),
    ("service_code", .text session.serviceCode), ("current_state_id", .text session.stateId),
    ("data", .object session.data), ("is_active", .bool session.isActive),
    ("created_at", session.createdAt.toJson), ("last_activity", session.lastActivity.toJson),
    ("expires_at", session.expiresAt.toJson)]

end Session

end Ussd
