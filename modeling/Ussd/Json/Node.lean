import Ussd.Json.Basic
/-!
# Documents before they are given a type

A document that has been read but not yet interpreted. It keeps what a reader of structures has to
see and a plain value does not show: repeated names, parts that may be skipped but not used, and the
place where the text stops being well formed. Scalars written without quotes in a markup language
keep their source beside the value they stand for.
-/

namespace Ussd

inductive Refusal where
  | malformed
  | unfit
  deriving DecidableEq, Repr

structure Unquoted where
  source : String
  value : Option Json
  /-- What it stands for where a double is expected. -/
  double : Option Binary64
  deriving Inhabited

inductive Node where
  | null
  | bool (value : Bool)
  | number (value : Number)
  | text (value : String)
  | plain (scalar : Unquoted)
  | list (items : List Node)
  /-- The entries in their order; a name is missing where it could not be read. -/
  | map (entries : List (Option String × Node))
  /-- A part of the text that can be skipped but denotes no value. -/
  | unread
  | malformed
  deriving Inhabited

namespace Node

mutual

def ofJson : Json → Node
  | .null => .null
  | .bool value => .bool value
  | .number value => .number value
  | .text value => .text value
  | .list items => .list (ofItems items)
  | .object fields => .map (ofFields fields)

def ofItems : List Json → List Node
  | [] => []
  | item :: rest => ofJson item :: ofItems rest

def ofFields : List (String × Json) → List (Option String × Node)
  | [] => []
  | (name, value) :: rest => (some name, ofJson value) :: ofFields rest

end

mutual

/-- The value that a document denotes; of two entries with one name the last one counts. -/
def toJson : Node → Except Refusal Json
  | .null => .ok .null
  | .bool value => .ok (.bool value)
  | .number value => .ok (.number value)
  | .text value => .ok (.text value)
  | .plain scalar =>
    match scalar.value with
    | some value => .ok value
    | none => .error .malformed
  | .list items => (itemsToJson items).map .list
  | .map entries => (entriesToJson entries).map Json.ofFields
  | .unread => .error .malformed
  | .malformed => .error .malformed

def itemsToJson : List Node → Except Refusal (List Json)
  | [] => .ok []
  | item :: rest =>
    match toJson item with
    | .error refusal => .error refusal
    | .ok value => (itemsToJson rest).map (value :: ·)

def entriesToJson : List (Option String × Node) → Except Refusal (List (String × Json))
  | [] => .ok []
  | (none, _) :: _ => .error .malformed
  | (some name, item) :: rest =>
    match toJson item with
    | .error refusal => .error refusal
    | .ok value => (entriesToJson rest).map ((name, value) :: ·)

end

def ofUnquoted (scalar : Unquoted) : Node :=
  match scalar.value with
  | some value => ofJson value
  | none => .unread

mutual

def settle : Node → Node
  | .plain scalar => ofUnquoted scalar
  | .list items => .list (settleItems items)
  | .map entries => .map (settleEntries entries)
  | node => node

def settleItems : List Node → List Node
  | [] => []
  | item :: rest => settle item :: settleItems rest

def settleEntries : List (Option String × Node) → List (Option String × Node)
  | [] => []
  | (name, item) :: rest => (name, settle item) :: settleEntries rest

end

end Node

end Ussd
