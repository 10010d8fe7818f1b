import Ussd.Service.Check
import Ussd.Settings.Issue
import Ussd.Text.Pieces
/-!
# Engine settings

How conversations are run, and the screens that the gateway itself shows.
-/

namespace Ussd

structure EngineSettings where
  mainMenuCode : String
  mainMenuTitle : String
  serializeTurns : Bool
  /-- How many processing states one turn may go through. -/
  maxProcessingChain : Nat
  maxMessageLength : Nat
  invalidOptionMessage : String
  invalidInputMessage : String
  technicalErrorMessage : String
  apiFailureMessage : String
  unknownApplicationMessage : String
  goodbyeMessage : String
  deriving DecidableEq, Repr

namespace EngineSettings

def standard : EngineSettings where
  mainMenuCode := "*500#"
  mainMenuTitle := "🌐 USSD Gateway"
  serializeTurns := true
  maxProcessingChain := 16
  maxMessageLength := defaultScreenSize
  invalidOptionMessage := "❌ Option invalide. Réessayez."
  invalidInputMessage := "❌ Entrée invalide. Réessayez:"
  technicalErrorMessage := "❌ Erreur système. Veuillez réessayer plus tard."
  apiFailureMessage := "❌ Service indisponible. Veuillez réessayer plus tard."
  unknownApplicationMessage := "UNKNOWN APPLICATION"
  goodbyeMessage := "Au revoir! 👋"

instance : Inhabited EngineSettings := ⟨standard⟩

def fieldNames : List String :=
  ["main_menu_code", "main_menu_title", "serialize_turns", "max_processing_chain",
    "max_message_length", "invalid_option_message", "invalid_input_message",
    "technical_error_message", "api_failure_message", "unknown_application_message",
    "goodbye_message"]

def decode : Decoder EngineSettings := fun node => do
  let record ← Record.ofNode fieldNames node
  let text (name : String) (default : String) : Except Refusal String :=
    record.defaulted name default Decoder.text
  return {
    mainMenuCode := ← text "main_menu_code" standard.mainMenuCode
    mainMenuTitle := ← text "main_menu_title" standard.mainMenuTitle
    serializeTurns := ← record.defaulted "serialize_turns" standard.serializeTurns Decoder.bool
    maxProcessingChain :=
      ← record.defaulted "max_processing_chain" standard.maxProcessingChain Decoder.word
    maxMessageLength :=
      ← record.defaulted "max_message_length" standard.maxMessageLength Decoder.word
    invalidOptionMessage := ← text "invalid_option_message" standard.invalidOptionMessage
    invalidInputMessage := ← text "invalid_input_message" standard.invalidInputMessage
    technicalErrorMessage := ← text "technical_error_message" standard.technicalErrorMessage
    apiFailureMessage := ← text "api_failure_message" standard.apiFailureMessage
    unknownApplicationMessage :=
      ← text "unknown_application_message" standard.unknownApplicationMessage
    goodbyeMessage := ← text "goodbye_message" standard.goodbyeMessage }

/-- A main menu code begins with a star and ends with a hash, blanks around it apart. -/
def isMenuCode (code : List Char) : Bool :=
  Text.startsWith ['*'] (Text.trim code) && Text.endsWith ['#'] (Text.trim code)

def validate (settings : EngineSettings) : Except SettingsIssue Unit := do
  demand (isMenuCode settings.mainMenuCode.toList) .invalidMainMenuCode
  demand (decide (1 ≤ settings.maxProcessingChain ∧ settings.maxProcessingChain ≤ 100))
    .invalidProcessingChain

end EngineSettings

end Ussd
