import Ussd.Json.Basic
import Ussd.Text.Blank
import Ussd.Text.Pieces
import Ussd.Text.Numeral
/-!
# Paths into documents

`lookup` walks nested objects along a dotted path. `extract` also enters lists, by a numeral as a
segment of its own or by indexes in brackets behind a key, and knows two names for the whole
document.
-/

namespace Ussd.Json

def walk (data : Json) : List (List Char) → Option Json
  | [] => some data
  | key :: rest => (data.field? (String.ofList key)).bind fun value => walk value rest

/-- The value at a dotted path of object keys; blanks around the path do not count. -/
def lookup (data : Json) (path : List Char) : Option Json :=
  let path := Text.trim path
  if path.isEmpty then none else walk data (Text.splitOn '.' path)

/-- The indexes of a text such as `[0][1]`. The number of characters bounds the number of indexes. -/
def readIndexes (fuel : Nat) (text : List Char) : Option (List Nat) :=
  match fuel, text with
  | _, [] => some []
  | 0, _ => none
  | fuel + 1, '[' :: rest =>
    match Text.splitOnce ']' rest with
    | none => none
    | some (index, rest) =>
      match Text.unsigned? (Text.trim index) with
      | none => none
      | some index => (readIndexes fuel rest).map (index :: ·)
  | _, _ => none

def splitIndexes (segment : List Char) : Option (List Char × List Nat) :=
  let key := segment.takeWhile (· != '[')
  let indexes := segment.dropWhile (· != '[')
  (readIndexes indexes.length indexes).map fun indexes => (key, indexes)

/-- Enters an object by a key, or a list by a numeral. -/
def enterKey (data : Json) (key : List Char) : Option Json :=
  match data with
  | .object fields => Table.get? fields (String.ofList key)
  | .list items => (Text.unsigned? key).bind fun index => items[index]?
  | _ => none

def enterIndexes (data : Json) : List Nat → Option Json
  | [] => some data
  | index :: rest =>
    match data with
    | .list items => items[index]?.bind fun item => enterIndexes item rest
    | _ => none

def enterSegment (data : Json) (segment : List Char) : Option Json :=
  match splitIndexes segment with
  | none => none
  | some (key, indexes) =>
    let entered := if key.isEmpty then some data else enterKey data key
    entered.bind fun value => enterIndexes value indexes

def enterSegments (data : Json) : List (List Char) → Option Json
  | [] => some data
  | segment :: rest => (enterSegment data segment).bind fun value => enterSegments value rest

def extract (data : Json) (path : List Char) : Option Json :=
  let path := Text.trim path
  if path = ['.'] ∨ path = ['$'] then some data
  else
    let path := (Text.afterStart? ['$', '.'] path).getD path
    if path.isEmpty then none else enterSegments data (Text.splitOn '.' path)

example : extract (.object [("items", .list [.bool true])]) "items[0]".toList = some (.bool true) ∧
    extract (.object [("items", .list [.bool true])]) "$.items.0".toList = some (.bool true) := by
  constructor <;> cbv

end Ussd.Json
