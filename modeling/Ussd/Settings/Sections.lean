import Ussd.Json.Decode
import Ussd.Settings.Address
import Ussd.Settings.Issue
/-!
# Sections of the settings

The listener, the database, the sessions, calls of backends and the place of the definitions.
-/

namespace Ussd

/-! ## Listener -/

inductive Stage where
  | development
  | staging
  | production
  deriving DecidableEq, Repr, Inhabited

namespace Stage

def label : Stage → String
  | .development => "development"
  | .staging => "staging"
  | .production => "production"

def all : List Stage := [.development, .staging, .production]

def labelled? (label : String) : Option Stage := all.find? (·.label == label)

end Stage

structure ServerSettings where
  host : String
  port : Nat
  stage : Stage
  logLevel : String
  /-- Upper bound on one request of a carrier, in seconds. -/
  requestTimeout : Nat
  deriving DecidableEq, Repr

namespace ServerSettings

def standard : ServerSettings where
  host := "0.0.0.0"
  port := 8080
  stage := .development
  logLevel := "info,ussd_gateway=debug,sqlx=warn"
  requestTimeout := 60

def fieldNames : List String := ["host", "port", "environment", "log_level", "request_timeout_secs"]

def decode : Decoder ServerSettings := fun node => do
  let record ← Record.ofNode fieldNames node
  return {
    host := ← record.defaulted "host" standard.host Decoder.text
    port := ← record.defaulted "port" standard.port (Decoder.natural 0xFFFF)
    stage := ← record.defaulted "environment" standard.stage (Decoder.choice Stage.labelled?)
    logLevel := ← record.defaulted "log_level" standard.logLevel Decoder.text
    requestTimeout :=
      ← record.defaulted "request_timeout_secs" standard.requestTimeout Decoder.word }

def address (settings : ServerSettings) : Except SettingsIssue SocketAddress :=
  let raw := settings.host ++ ":" ++ toString settings.port
  match SocketAddress.parse raw.toList with
  | some address => .ok address
  | none => .error (.invalidSocketAddress raw)

def isProduction (settings : ServerSettings) : Bool := settings.stage == .production

def validate (settings : ServerSettings) : Except SettingsIssue Unit := do
  demand (settings.port != 0) .invalidPort
  demand (decide (1 ≤ settings.requestTimeout ∧ settings.requestTimeout ≤ 300)) .invalidTimeout
  let _ ← settings.address

end ServerSettings

/-! ## Database -/

structure DatabaseSettings where
  url : String
  minConnections : Nat
  maxConnections : Nat
  acquireTimeout : Nat
  idleTimeout : Nat
  runMigrations : Bool
  deriving DecidableEq, Repr

namespace DatabaseSettings

def standard : DatabaseSettings where
  url := ""
  minConnections := 2
  maxConnections := 20
  acquireTimeout := 5
  idleTimeout := 600
  runMigrations := false

def fieldNames : List String :=
  ["url", "min_connections", "max_connections", "acquire_timeout_secs", "idle_timeout_secs",
    "run_migrations"]

def decode : Decoder DatabaseSettings := fun node => do
  let record ← Record.ofNode fieldNames node
  let count : Decoder Nat := Decoder.natural 0xFFFFFFFF
  return {
    url := ← record.required "url" Decoder.text
    minConnections := ← record.defaulted "min_connections" standard.minConnections count
    maxConnections := ← record.defaulted "max_connections" standard.maxConnections count
    acquireTimeout :=
      ← record.defaulted "acquire_timeout_secs" standard.acquireTimeout Decoder.word
    idleTimeout := ← record.defaulted "idle_timeout_secs" standard.idleTimeout Decoder.word
    runMigrations := ← record.defaulted "run_migrations" standard.runMigrations Decoder.bool }

def hasKnownScheme (url : List Char) : Bool :=
  Text.startsWith "postgres://".toList url || Text.startsWith "postgresql://".toList url

def validate (settings : DatabaseSettings) : Except SettingsIssue Unit := do
  demand (!settings.url.isEmpty) (.missingRequired "DATABASE_URL")
  demand (hasKnownScheme settings.url.toList) .invalidDatabaseUrl
  demand (decide (settings.minConnections ≤ settings.maxConnections)) .invalidPoolSize
  demand (decide (settings.maxConnections ≤ 100)) .poolSizeTooLarge

end DatabaseSettings

/-! ## Sessions -/

structure SessionSettings where
  /-- How long a session stays live after its last activity, in seconds. -/
  timeout : Nat
  /-- The time between two sweeps, in seconds. -/
  sweepInterval : Nat
  retentionDays : Int
  sweepEnabled : Bool
  deriving DecidableEq, Repr

namespace SessionSettings

def standard : SessionSettings where
  timeout := 300
  sweepInterval := 60
  retentionDays := 7
  sweepEnabled := true

def fieldNames : List String :=
  ["timeout_secs", "sweep_interval_secs", "retention_days", "sweep_enabled"]

def decode : Decoder SessionSettings := fun node => do
  let record ← Record.ofNode fieldNames node
  return {
    timeout := ← record.defaulted "timeout_secs" standard.timeout Decoder.word
    sweepInterval := ← record.defaulted "sweep_interval_secs" standard.sweepInterval Decoder.word
    retentionDays := ← record.defaulted "retention_days" standard.retentionDays
      (Decoder.whole (-Text.signedLimit) (Text.signedLimit - 1))
    sweepEnabled := ← record.defaulted "sweep_enabled" standard.sweepEnabled Decoder.bool }

def validate (settings : SessionSettings) : Except SettingsIssue Unit := do
  demand (settings.timeout != 0) .invalidSessionTimeout
  demand (settings.sweepInterval != 0) .invalidSweepInterval

end SessionSettings

/-! ## Calls of backends -/

structure ClientSettings where
  timeout : Nat
  /-- The wait after the first failed attempt, in milliseconds. -/
  retryBackoff : Nat
  userAgent : String
  deriving DecidableEq, Repr

namespace ClientSettings

def standard : ClientSettings where
  timeout := 30
  retryBackoff := 200
  userAgent := "ussd-gateway/0.1.0"

def fieldNames : List String := ["default_timeout_secs", "retry_backoff_ms", "user_agent"]

def decode : Decoder ClientSettings := fun node => do
  let record ← Record.ofNode fieldNames node
  return {
    timeout := ← record.defaulted "default_timeout_secs" standard.timeout Decoder.word
    retryBackoff := ← record.defaulted "retry_backoff_ms" standard.retryBackoff Decoder.word
    userAgent := ← record.defaulted "user_agent" standard.userAgent Decoder.text }

def validate (settings : ClientSettings) : Except SettingsIssue Unit :=
  demand (decide (1 ≤ settings.timeout ∧ settings.timeout ≤ 300)) .invalidHttpTimeout

end ClientSettings

/-! ## Definitions -/

structure RegistrySettings where
  definitionsDirectory : Option String
  deriving DecidableEq, Repr

namespace RegistrySettings

def standard : RegistrySettings where
  definitionsDirectory := none

def decode : Decoder RegistrySettings := fun node => do
  let record ← Record.ofNode ["definitions_dir"] node
  return { definitionsDirectory := ← record.optional "definitions_dir" Decoder.text }

end RegistrySettings

end Ussd
