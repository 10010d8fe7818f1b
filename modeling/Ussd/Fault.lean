import Ussd.Table
/-!
# Faults of stores and services

What can go wrong while sessions, records and definitions are looked up or kept.
-/

namespace Ussd

inductive FaultCode where
  | sessionNotFound
  | serviceNotFound
  | stateNotFound
  | invalidDefinition
  | inactiveService
  | databaseError
  | storageError
  | serializationError
  | internalError
  deriving DecidableEq, Repr, Inhabited

namespace FaultCode

def label : FaultCode → String
  | .sessionNotFound => "SESSION_NOT_FOUND"
  | .serviceNotFound => "SERVICE_NOT_FOUND"
  | .stateNotFound => "STATE_NOT_FOUND"
  | .invalidDefinition => "INVALID_DEFINITION"
  | .inactiveService => "INACTIVE_SERVICE"
  | .databaseError => "DATABASE_ERROR"
  | .storageError => "STORAGE_ERROR"
  | .serializationError => "SERIALIZATION_ERROR"
  | .internalError => "INTERNAL_ERROR"

def all : List FaultCode :=
  [.sessionNotFound, .serviceNotFound, .stateNotFound, .invalidDefinition, .inactiveService,
    .databaseError, .storageError, .serializationError, .internalError]

def labelled? (label : String) : Option FaultCode := all.find? (·.label == label)

def isNotFound : FaultCode → Bool
  | .sessionNotFound => true
  | .serviceNotFound => true
  | .stateNotFound => true
  | _ => false

end FaultCode

structure Fault where
  code : FaultCode
  message : String
  details : Table String
  deriving DecidableEq, Repr, Inhabited

namespace Fault

def of (code : FaultCode) (message : String) : Fault :=
  { code := code, message := message, details := [] }

def database (message : String) : Fault := of .databaseError message

def withDetail (fault : Fault) (name value : String) : Fault :=
  { fault with details := Table.insert fault.details name value }

def isNotFound (fault : Fault) : Bool := fault.code.isNotFound

def display (fault : Fault) : String := "[" ++ fault.code.label ++ "] " ++ fault.message

end Fault

end Ussd
