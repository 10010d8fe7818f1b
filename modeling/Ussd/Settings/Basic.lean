import Ussd.Settings.Engine
import Ussd.Settings.Sections
/-!
# Settings

All settings of a gateway. Every section has defaults; without a database the gateway keeps its data
in memory.
-/

namespace Ussd

structure Settings where
  server : ServerSettings
  database : Option DatabaseSettings
  session : SessionSettings
  engine : EngineSettings
  client : ClientSettings
  registry : RegistrySettings
  deriving DecidableEq, Repr

namespace Settings

def standard : Settings where
  server := .standard
  database := none
  session := .standard
  engine := .standard
  client := .standard
  registry := .standard

def fieldNames : List String :=
  ["server", "database", "session", "engine", "http_client", "registry"]

def decode : Decoder Settings := fun node => do
  let record ← Record.ofNode fieldNames node
  return {
    server := ← record.defaulted "server" standard.server ServerSettings.decode
    database := ← record.voluntary "database" DatabaseSettings.decode
    session := ← record.defaulted "session" standard.session SessionSettings.decode
    engine := ← record.defaulted "engine" standard.engine EngineSettings.decode
    client := ← record.defaulted "http_client" standard.client ClientSettings.decode
    registry := ← record.defaulted "registry" standard.registry RegistrySettings.decode }

def validate (settings : Settings) : Except SettingsIssue Unit := do
  settings.server.validate
  match settings.database with
  | some database => database.validate
  | none => pure ()
  settings.session.validate
  settings.engine.validate
  settings.client.validate

end Settings

end Ussd
