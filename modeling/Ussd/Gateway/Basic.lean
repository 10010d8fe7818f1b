import Ussd.Gateway.Event
import Ussd.Settings.Engine
import Ussd.Store.Catalogue
import Ussd.Store.Records
import Ussd.Store.Sessions
/-!
# The gateway and its computations

A gateway holds the stores, the definitions that it has already read, the backend that its services
call, and a log. Its computations may fail, and what one has changed before it fails stays changed.
The circumstances of a computation, above all the instant, are given to it and do not change while
it runs.
-/

namespace Ussd

inductive StoreOperation where
  | findSession
  | findByPhone
  | saveSession
  | endSession
  | expireSessions
  | purgeSessions
  | loadRecord
  | saveRecord
  | appendRecord
  | deleteRecord
  | getService
  | findShortCode
  | listServices
  deriving DecidableEq, Repr, Inhabited

def StoreOperation.faultCode : StoreOperation → FaultCode
  | .loadRecord => .storageError
  | .saveRecord => .storageError
  | .appendRecord => .storageError
  | .deleteRecord => .storageError
  | _ => .databaseError

structure Setting where
  engine : EngineSettings
  /-- How long sessions stay live where the service does not say it, in seconds. -/
  sessionTimeout : Nat
  timing : CallTiming
  now : Instant
  freshId : String
  /-- The operations that are out of order, each with the reason. -/
  outage : StoreOperation → Option String
  /-- What the reader of definitions says about a text that it refuses. -/
  readerDetail : String → String := fun _ => ""

structure Gateway (β : Type) where
  sessions : SessionStore
  records : RecordStore
  catalogue : Catalogue
  cache : Table Definition
  backend : β
  log : List Event

variable {β ε : Type}

def Gateway.empty (backend : β) : Gateway β where
  sessions := []
  records := []
  catalogue := []
  cache := []
  backend := backend
  log := []

abbrev Run (β ε α : Type) := ExceptT ε (StateM (Gateway β)) α

def note (event : Event) : Run β ε Unit :=
  modify fun gateway => { gateway with log := gateway.log ++ [event] }

def noteAll (events : List Event) : Run β ε Unit :=
  modify fun gateway => { gateway with log := gateway.log ++ events }

def requireOrder (setting : Setting) (operation : StoreOperation) : Run β Fault Unit :=
  match setting.outage operation with
  | some reason => throw (.of operation.faultCode reason)
  | none => pure ()

def attemptRun {ε' α : Type} (run : Run β ε α) : Run β ε' (Except ε α) :=
  ExceptT.mk (Except.ok <$> run.run)

end Ussd
