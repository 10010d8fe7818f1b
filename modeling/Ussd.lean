import Ussd.Decimal.Shortest
import Ussd.Decimal.Fixed
import Ussd.Text.Blank
import Ussd.Text.Pieces
import Ussd.Text.Case
import Ussd.Text.Word
import Ussd.Text.Numeral
import Ussd.Json.Writer
import Ussd.Json.Reader
import Ussd.Json.Decode
import Ussd.Template.Placeholder
import Ussd.Message.Render
import Ussd.Condition
import Ussd.Pattern.Reader
import Ussd.Validation.Check
import Ussd.Service.Check
import Ussd.Calendar.Instant
import Ussd.Fault
import Ussd.Session.Basic
import Ussd.Text.Base64
import Ussd.Backend.Call
import Ussd.Service.Choice
import Ussd.Settings.Environment
import Ussd.Gateway.Sessions
import Ussd.Gateway.Records
import Ussd.Gateway.Services
import Ussd.Gateway.Texts
import Ussd.Gateway.Request
import Ussd.Gateway.Sweep
import Ussd.Carrier.Endpoint
import Ussd.Yaml.Unquoted
import Ussd.Yaml.Scalar
import Ussd.Yaml.BlockText
import Ussd.Yaml.Reader
import Ussd.Store.Folder
import Ussd.Web.UrlReader
import Ussd.Web.Client
import Ussd.Proofs.Run
import Ussd.Proofs.Stores
import Ussd.Proofs.Instants
import Ussd.Proofs.LatestSession
import Ussd.Proofs.Services
import Ussd.Proofs.Sessions
import Ussd.Proofs.Scope
import Ussd.Proofs.RequestScope
import Ussd.Proofs.TurnOutcome
import Ussd.Proofs.Conversation
import Ussd.Proofs.Resting
import Ussd.Proofs.Subscribers
import Ussd.Proofs.Forgetting
import Ussd.Proofs.Lifecycle
import Ussd.Proofs.PhoneSearch
import Ussd.Proofs.Trail
import Ussd.Proofs.TurnFailure
import Ussd.Proofs.CheckedDefinition
import Ussd.Proofs.Route
import Ussd.Proofs.Course
import Ussd.Proofs.ActionOrder
import Ussd.Proofs.ChainLimit
import Ussd.Proofs.SessionLaw
import Ussd.Proofs.CollectedData
import Ussd.Proofs.Sweeping
import Ussd.Proofs.EvaluatedData
import Ussd.Proofs.OwnScope
import Ussd.Proofs.JsonDocument
import Ussd.Proofs.RoundTrip
import Ussd.Proofs.NormalForm
import Ussd.Proofs.JsonText
import Ussd.Proofs.Registration
import Ussd.Proofs.BlockNesting
import Ussd.Proofs.TemplatePrinting
import Ussd.Proofs.JoinedTemplates
import Ussd.Proofs.Pipelines
import Ussd.Proofs.PlainPlaceholders
import Ussd.Proofs.FilterForms
import Ussd.Proofs.KeptEntries
import Ussd.Proofs.RecordHistory
import Ussd.Proofs.Retries
import Ussd.Proofs.Comparisons
import Ussd.Proofs.NumberedOptions
import Ussd.Proofs.StateGraph
import Ussd.Proofs.CallEffect
import Ussd.Proofs.VisitedStates
import Ussd.Proofs.Expiry
import Ussd.Proofs.BodyShape
import Ussd.Proofs.TypedRendering
import Ussd.Proofs.ServiceStart
import Ussd.Proofs.MenuCodes
import Ussd.Proofs.MainMenu
import Ussd.Proofs.ShortCodes
import Ussd.Proofs.RefusedInput
import Ussd.Proofs.DoubleValues
import Ussd.Proofs.NumericLimits
import Ussd.Proofs.HeaderNames
import Ussd.Proofs.RelativeCalls
import Ussd.Proofs.KeptDefinitions
import Ussd.Proofs.DocumentPaths
import Ussd.Proofs.Reloading
import Ussd.Proofs.Numerals
import Ussd.Proofs.GroupedNumbers
