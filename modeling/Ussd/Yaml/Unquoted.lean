import Ussd.Json.Node
import Ussd.Text.Numeral
import Ussd.Text.Pieces
/-!
# Unquoted scalars

What a scalar without quotes stands for: nothing, a truth value, a number, or else its own text.
Whole numbers may be written in four radices; a decimal with a superfluous leading zero is no number.
-/

namespace Ussd.Yaml

def nullWords : List String := ["", "~", "null", "Null", "NULL"]

def truth? : String → Option Bool
  | "true" => some true
  | "True" => some true
  | "TRUE" => some true
  | "false" => some false
  | "False" => some false
  | "FALSE" => some false
  | _ => none

def digits? (radix : Nat) (text : List Char) : Option Nat :=
  if text.isEmpty then none else Text.digitsIn? radix text

/-- Whether the text is a run of digits, after a sign, with a superfluous leading zero. -/
def hasIdleZero (text : List Char) : Bool :=
  match (Text.takeSign text).2 with
  | '0' :: rest => !rest.isEmpty && rest.all Char.isDigit
  | _ => false

def natural? : List Char → Option Nat
  | '0' :: 'x' :: rest => digits? 16 rest
  | '0' :: 'o' :: rest => digits? 8 rest
  | '0' :: 'b' :: rest => digits? 2 rest
  | text => digits? 10 text

def whole? (text : List Char) : Option Int :=
  if hasIdleZero text then none
  else
    let parts := Text.takeSign text
    (natural? parts.2).map fun value => if parts.1 then -(value : Int) else value

/-- The greatest and the least whole number that are numbers at all; those beyond are texts or
doubles. -/
def isWithinReach (value : Int) : Bool :=
  decide (-0x80000000000000000000000000000000 ≤ value
    ∧ value ≤ 0xFFFFFFFFFFFFFFFFFFFFFFFFFFFFFFFF)

/-- Whether a whole number can be a value; the others within reach are refused. -/
def isUsable (value : Int) : Bool :=
  decide (-Text.signedLimit ≤ value ∧ value ≤ Text.greatestWord)

def double? (text : List Char) : Option Binary64 :=
  let magnitude := match text with
    | '+' :: rest => rest
    | _ => text
  if [".inf", ".Inf", ".INF"].contains (String.ofList magnitude) then some (.infinite false)
  else if ["-.inf", "-.Inf", "-.INF"].contains (String.ofList text) then some (.infinite true)
  else if [".nan", ".NaN", ".NAN"].contains (String.ofList text) then some .nan
  else if magnitude.head? == some '+' || (text.head? == some '+' && magnitude.head? == some '-') then
    none
  else (Text.double? magnitude).filter Binary64.isFinite

/-- A double as a value; those without digits have none but null. -/
def doubleValue (value : Binary64) : Json :=
  if value.isFinite then .number (.double value) else .null

def value? (source : String) : Option Json :=
  let text := source.toList
  if nullWords.contains source then some .null
  else
    match truth? source with
    | some value => some (.bool value)
    | none =>
      match (whole? text).filter isWithinReach with
      | some value => if isUsable value then some (.number (.whole value)) else none
      | none =>
        if hasIdleZero text then some (.text source)
        else some (((double? text).map doubleValue).getD (.text source))

def unquoted (source : String) : Unquoted where
  source := source
  value := value? source
  double := double? source.toList

def nothing : Node := .plain (unquoted "")

def declaredValue? (kind source : String) : Option Json :=
  match kind with
  | "bool" => (truth? source).map .bool
  | "int" => ((whole? source.toList).filter isUsable).map fun value => .number (.whole value)
  | "float" => (double? source.toList).map doubleValue
  | "null" => if nullWords.contains source && !source.isEmpty then some .null else none
  | _ => some (.text source)

example : (value? "0x1F", value? "-5", value? "007") =
    (some (.number (.whole 31)), some (.number (.whole (-5))), some (.text "007")) := by
  cbv

end Ussd.Yaml
