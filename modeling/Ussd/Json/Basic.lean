import Ussd.Decimal.Shortest
import Ussd.Table
/-!
# JSON values

Numbers are exact whole numbers or doubles. An object is a list of fields whose names increase (in
the order of their code points), so that one object has one representation: a table.
-/

namespace Ussd

inductive Number where
  | whole (value : Int)
  | double (value : Binary64)
  deriving DecidableEq, Repr, Inhabited

inductive Json where
  | null
  | bool (value : Bool)
  | number (value : Number)
  | text (value : String)
  | list (items : List Json)
  | object (fields : List (String × Json))
  deriving Inhabited, BEq

abbrev Fields := Table Json

namespace Json

/-- The object with the given fields; of two with one name the last one stays. -/
def ofFields (entries : List (String × Json)) : Json := .object (Table.ofList entries)

def natural (value : Nat) : Json := .number (.whole value)

def isNull : Json → Bool
  | .null => true
  | _ => false

def fields? : Json → Option Fields
  | .object fields => some fields
  | _ => none

def items? : Json → Option (List Json)
  | .list items => some items
  | _ => none

def text? : Json → Option String
  | .text value => some value
  | _ => none

def field? (value : Json) (name : String) : Option Json :=
  value.fields?.bind fun fields => Table.get? fields name

end Json

namespace Number

def toDouble : Number → Binary64
  | .whole value => .ofInt value
  | .double value => value

end Number

end Ussd
