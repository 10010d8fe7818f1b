import Ussd.Calendar.Date
import Ussd.Decimal.Fixed
import Ussd.Json.Writer
import Ussd.Text.Blank
import Ussd.Text.Case
import Ussd.Text.Numeral
import Ussd.Text.Pieces
/-!
# Display filters

A filter turns a value into the text that a subscriber sees. Numbers follow the conventions of
francophone Central Africa: blanks group thousands, a comma separates decimals, and amounts are in
CFA francs.
-/

namespace Ussd

inductive Filter where
  | currency
  | boolean
  | default
  | uppercase
  | lowercase
  | capitalize
  | number
  | date
  | truncate
  deriving DecidableEq, Repr

namespace Filter

def name : Filter → String
  | .currency => "currency"
  | .boolean => "boolean"
  | .default => "default"
  | .uppercase => "uppercase"
  | .lowercase => "lowercase"
  | .capitalize => "capitalize"
  | .number => "number"
  | .date => "date"
  | .truncate => "truncate"

def all : List Filter :=
  [.currency, .boolean, .default, .uppercase, .lowercase, .capitalize, .number, .date, .truncate]

def named? (name : String) : Option Filter := all.find? (·.name == name)

/-- The number in a JSON number or in a numeric text, where a comma may stand for the point. -/
def asNumber? : Json → Option Binary64
  | .number value => some value.toDouble
  | .text value =>
    Text.double? ((Text.trim value.toList).map fun c => if c = ',' then '.' else c)
  | _ => none

def groupDigits : List Char → List Char
  | [] => []
  | c :: rest =>
    if rest.length % 3 = 0 ∧ rest.length ≠ 0 then c :: ' ' :: groupDigits rest
    else c :: groupDigits rest

/-- Drops trailing zeros as long as more than `least` digits remain; works on the digits from the
right. -/
def dropZeros (least : Nat) : List Char → List Char
  | [] => []
  | c :: rest => if least ≤ rest.length ∧ c = '0' then dropZeros least rest else c :: rest

/-- A number with grouped whole digits and between `least` and `most` decimals. The sign is shown
only if some digit shown is not zero. -/
def formatGrouped (value : Binary64) (least most : Nat) : List Char :=
  let parts := value.fixedMagnitude most
  let fraction := (dropZeros least parts.2.reverse).reverse
  let isZero := parts.1.all (· == '0') && fraction.all (· == '0')
  let sign := if value.lt (.zero false) && !isZero then ['-'] else []
  let tail := if fraction.isEmpty then [] else ',' :: fraction
  sign ++ groupDigits parts.1 ++ tail

example : formatGrouped (.ofDecimal false 12345675 (-1)) 2 2 = "1 234 567,50".toList := by
  decide +kernel

example : formatGrouped (.ofDecimal true 4 (-3)) 0 2 = ['0'] := by decide +kernel

def currencyText (value : Json) : List Char :=
  let amount := match value with
    | .null => formatGrouped (.zero false) 2 2
    | value =>
      match asNumber? value with
      | some amount => formatGrouped amount 2 2
      | none => value.display.toList
  amount ++ " FCFA".toList

def booleanText : Json → List Char
  | .null => "Non".toList
  | .bool true => "Oui".toList
  | .bool false => "Non".toList
  | value =>
    let word := Text.lower (Text.trim value.display.toList)
    if ["1", "true", "yes", "oui"].contains (String.ofList word) then "Oui".toList
    else if ["0", "false", "no", "non"].contains (String.ofList word) then "Non".toList
    else word

def capitalizeText (text : List Char) : List Char :=
  Text.join [' '] ((Text.words text).map fun word =>
    match word with
    | [] => []
    | first :: rest => Text.upperChar first ++ rest.flatMap Text.lowerChar)

example : capitalizeText "jean   DUPONT".toList = "Jean Dupont".toList := by decide +kernel

def numberText (value : Json) (precision : Option Nat) : List Char :=
  match value with
  | .null => ['0']
  | value =>
    match asNumber? value, precision with
    | some amount, some places => formatGrouped amount places places
    | some amount, none => formatGrouped amount 0 2
    | none, _ => value.display.toList

/-- A date at the start of a text, written day first; any other text stays as it is. -/
def dateText (text : List Char) : List Char :=
  match Date.parse (text.take 10) with
  | some day =>
    Date.padded 2 day.day ++ '/' :: Date.padded 2 day.month ++ '/' :: Date.yearText day.year
  | none => text

example : dateText "2024-03-09T10:00:00Z".toList = "09/03/2024".toList := by decide +kernel

def defaultLength : Nat := 50

/-- Cuts a text to a length, of which an ellipsis takes three characters. -/
def truncateText (text : List Char) (length : Nat) : List Char :=
  if text.length ≤ length then text else text.take (length - 3) ++ ['.', '.', '.']

example : truncateText "Abonnement mensuel".toList 10 = "Abonnem...".toList := by decide +kernel

def sizeOf? (argument : Option (List Char)) : Option Nat :=
  argument.bind fun text => Text.unsigned? (Text.trim text)

def apply (filter : Filter) (argument : Option (List Char)) (value : Json) : Json :=
  let shown := value.display.toList
  let text (characters : List Char) : Json := .text (String.ofList characters)
  match filter with
  | .currency => text (currencyText value)
  | .boolean => text (booleanText value)
  | .default => if shown.isEmpty then text (argument.getD []) else value
  | .uppercase => text (Text.upper shown)
  | .lowercase => text (Text.lower shown)
  | .capitalize => text (capitalizeText shown)
  | .number => text (numberText value (sizeOf? argument))
  | .date => text (dateText shown)
  | .truncate => text (truncateText shown ((sizeOf? argument).getD defaultLength))

end Filter

/-- Applies the filter of a given name; a name that no filter has leaves the value as it is. -/
def applyFilter (name : List Char) (argument : Option (List Char)) (value : Json) : Json :=
  match Filter.named? (String.ofList (Text.trim name)) with
  | some filter => filter.apply argument value
  | none => value

end Ussd
