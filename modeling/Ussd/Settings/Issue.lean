/-!
# Issues of settings

Why the settings of a gateway cannot be used.
-/

namespace Ussd

inductive SettingsIssue where
  | missingRequired (name : String)
  | invalidPort
  | invalidTimeout
  | invalidSocketAddress (address : String)
  | invalidDatabaseUrl
  | invalidPoolSize
  | poolSizeTooLarge
  | invalidSessionTimeout
  | invalidSweepInterval
  | invalidMainMenuCode
  | invalidProcessingChain
  | invalidHttpTimeout
  deriving DecidableEq, Repr

def SettingsIssue.message : SettingsIssue → String
  | .missingRequired name => "Required configuration missing: " ++ name
  | .invalidPort => "Invalid port number"
  | .invalidTimeout => "Invalid request timeout"
  | .invalidSocketAddress address => "Invalid socket address: " ++ address
  | .invalidDatabaseUrl => "Invalid database URL format"
  | .invalidPoolSize => "Pool min_connections exceeds max_connections"
  | .poolSizeTooLarge => "Pool size exceeds maximum allowed (100)"
  | .invalidSessionTimeout => "Session timeout must be positive"
  | .invalidSweepInterval => "Sweep interval must be positive"
  | .invalidMainMenuCode => "Main menu code must look like a USSD code (e.g. *500#)"
  | .invalidProcessingChain => "Processing chain limit must be between 1 and 100"
  | .invalidHttpTimeout => "Outbound HTTP timeout must be between 1 and 300 seconds"

def demand (condition : Bool) (issue : SettingsIssue) : Except SettingsIssue Unit :=
  if condition then .ok () else .error issue

end Ussd
