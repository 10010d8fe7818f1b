import Ussd.Settings.Basic
import Ussd.Text.Case
/-!
# Settings from the environment

A variable such as `USSD_GATEWAY__SERVER__PORT` sets one field of one section. Names count without
regard to case. Values are texts; where a number or a truth value is expected, some words stand for
it, and a number too large for its field loses its high bits. A name that is no path of fields sets
nothing.
-/

namespace Ussd.Settings

inductive FieldKind where
  | text
  | truth
  | unsigned (bits : Nat)
  | signed
  | stage

def sections : List (String × List (String × FieldKind)) :=
  [("server", [("host", .text), ("port", .unsigned 16), ("environment", .stage),
      ("log_level", .text), ("request_timeout_secs", .unsigned 64)]),
    ("database", [("url", .text), ("min_connections", .unsigned 32),
      ("max_connections", .unsigned 32), ("acquire_timeout_secs", .unsigned 64),
      ("idle_timeout_secs", .unsigned 64), ("run_migrations", .truth)]),
    ("session", [("timeout_secs", .unsigned 64), ("sweep_interval_secs", .unsigned 64),
      ("retention_days", .signed), ("sweep_enabled", .truth)]),
    ("engine", [("main_menu_code", .text), ("main_menu_title", .text),
      ("serialize_turns", .truth), ("max_processing_chain", .unsigned 64),
      ("max_message_length", .unsigned 64), ("invalid_option_message", .text),
      ("invalid_input_message", .text), ("technical_error_message", .text),
      ("api_failure_message", .text), ("unknown_application_message", .text),
      ("goodbye_message", .text)]),
    ("http_client", [("default_timeout_secs", .unsigned 64), ("retry_backoff_ms", .unsigned 64),
      ("user_agent", .text)]),
    ("registry", [("definitions_dir", .text)])]

/-! ## The tree of variables -/

def namespaceMark : List Char := "ussd_gateway__".toList

/-- The pieces of a text between the occurrences of two underscores; `fuel` bounds their number. -/
def splitUnderscores (fuel : Nat) (text : List Char) : List (List Char) :=
  match fuel with
  | 0 => [text]
  | fuel + 1 =>
    match Text.cutFragment? ['_', '_'] text with
    | none => [text]
    | some (piece, rest) => piece :: splitUnderscores fuel rest

def isFieldChar (c : Char) : Bool := c.isAlphanum || c == '_' || c == '-'

def pathOf? (name : String) : Option (List String) :=
  (Text.afterStart? namespaceMark (Text.lower name.toList)).bind fun rest =>
    let parts := (splitUnderscores rest.length rest).flatMap (Text.splitOn '.')
    if parts.all fun part => !part.isEmpty && part.all isFieldChar then
      some (parts.map String.ofList)
    else none

/-- Sets the value at a path; what stands in the way is replaced. -/
def setPath (tree : Json) (path : List String) (value : String) : Json :=
  match path with
  | [] => .text value
  | name :: rest =>
    let fields := tree.fields?.getD []
    .object (Table.insert fields name (setPath ((Table.get? fields name).getD .null) rest value))

def treeOf (entries : List (String × String)) : Json :=
  entries.foldl (fun tree entry =>
    match pathOf? entry.1 with
    | some path => setPath tree path entry.2
    | none => tree) (.object [])

/-! ## From texts to values -/

def truthOf? (value : List Char) : Option Bool :=
  let word := String.ofList (Text.lower value)
  if ["1", "true", "on", "yes"].contains word then some true
  else if ["0", "false", "off", "no"].contains word then some false
  else none

def wordNumber? (value : List Char) : Option Nat :=
  let word := String.ofList (Text.lower value)
  if ["true", "on", "yes"].contains word then some 1
  else if ["false", "off", "no"].contains word then some 0
  else none

def stageOf? (name : String) : Option Stage :=
  Stage.labelled? (String.ofList (Text.lower name.toList))

def fieldValue? (kind : FieldKind) (value : Json) : Option Json :=
  match kind, value with
  | .text, .text text => some (.text text)
  | .truth, .text text => (truthOf? text.toList).map Json.bool
  | .unsigned bits, .text text =>
    ((wordNumber? text.toList).or (Text.unsigned? text.toList)).map fun number =>
      .natural (number % Nat.pow 2 bits)
  | .signed, .text text =>
    (((wordNumber? text.toList).map Int.ofNat).or (Text.signed? text.toList)).map fun number =>
      .number (.whole number)
  | .stage, .text text => (stageOf? text).map fun stage => .text stage.label
  | .stage, .object [(name, _)] => (stageOf? name).map fun stage => .text stage.label
  | _, _ => none

/-- The known fields of one section; a field without a usable value refuses the whole. -/
def sectionFields? (group : Json) : List (String × FieldKind) → Option (List (String × Json))
  | [] => some []
  | (name, kind) :: rest =>
    match group.field? name with
    | none => sectionFields? group rest
    | some value =>
      (fieldValue? kind value).bind fun value =>
        (sectionFields? group rest).map ((name, value) :: ·)

def sectionsOf? (tree : Json) :
    List (String × List (String × FieldKind)) → Option (List (String × Json))
  | [] => some []
  | (name, kinds) :: rest =>
    match tree.field? name with
    | none => sectionsOf? tree rest
    | some (.object fields) =>
      (sectionFields? (.object fields) kinds).bind fun known =>
        (sectionsOf? tree rest).map ((name, .ofFields known) :: ·)
    | some _ => none

def ofEnvironment? (entries : List (String × String)) : Option Settings :=
  (sectionsOf? (treeOf entries) sections).bind fun known =>
    (decode (Node.ofJson (.ofFields known))).toOption

end Ussd.Settings
