import Ussd.Text.Blank
import Ussd.Text.Numeral
/-!
# Calendar dates

Dates of the proleptic Gregorian calendar for the years -262143 to 262142. Day numbers count from
1 January 1970.
-/

namespace Ussd

structure Date where
  year : Int
  month : Nat
  day : Nat
  deriving DecidableEq, Repr, Inhabited

namespace Date

def leastYear : Int := -262143

def greatestYear : Int := 262142

def isLeapYear (year : Int) : Bool :=
  (year % 4 == 0 && year % 100 != 0) || year % 400 == 0

def daysInMonth (year : Int) (month : Nat) : Nat :=
  if month = 2 then (if isLeapYear year then 29 else 28)
  else if month = 4 ∨ month = 6 ∨ month = 9 ∨ month = 11 then 30
  else 31

def isValid (date : Date) : Bool :=
  decide (leastYear ≤ date.year) && decide (date.year ≤ greatestYear) &&
    decide (1 ≤ date.month) && decide (date.month ≤ 12) &&
    decide (1 ≤ date.day) && decide (date.day ≤ daysInMonth date.year date.month)

/-- The day number of a date. The year is taken to begin in March, so that the leap day comes
last. -/
def toDays (date : Date) : Int :=
  let year := if date.month ≤ 2 then date.year - 1 else date.year
  let era := year / 400
  let yearOfEra := year - era * 400
  let monthFromMarch : Int := if 2 < date.month then date.month - 3 else date.month + 9
  let dayOfYear := (153 * monthFromMarch + 2) / 5 + date.day - 1
  let dayOfEra := yearOfEra * 365 + yearOfEra / 4 - yearOfEra / 100 + dayOfYear
  era * 146097 + dayOfEra - 719468

def ofDays (days : Int) : Date :=
  let shifted := days + 719468
  let era := shifted / 146097
  let dayOfEra := shifted - era * 146097
  let yearOfEra := (dayOfEra - dayOfEra / 1460 + dayOfEra / 36524 - dayOfEra / 146096) / 365
  let dayOfYear := dayOfEra - (365 * yearOfEra + yearOfEra / 4 - yearOfEra / 100)
  let monthFromMarch := (5 * dayOfYear + 2) / 153
  let day := dayOfYear - (153 * monthFromMarch + 2) / 5 + 1
  let month := if monthFromMarch < 10 then monthFromMarch + 3 else monthFromMarch - 9
  let year := yearOfEra + era * 400
  { year := if month ≤ 2 then year + 1 else year, month := month.toNat, day := day.toNat }

def padded (width value : Nat) : List Char :=
  let digits := Nat.toDigits 10 value
  List.replicate (width - digits.length) '0' ++ digits

/-- Years of four digits are written plainly, all others with a sign. -/
def yearText (year : Int) : List Char :=
  if 0 ≤ year ∧ year ≤ 9999 then padded 4 year.toNat
  else (if year < 0 then '-' else '+') :: padded 4 year.natAbs

def takeDigits (most : Nat) (text : List Char) : Option (Nat × List Char) :=
  let digits := (text.take most).takeWhile Char.isDigit
  if digits.isEmpty then none
  else some (Text.digitsValue digits, text.drop digits.length)

/-- A year: up to four digits, or a sign and any number of them. -/
def takeYear (text : List Char) : Option (Int × List Char) :=
  match text with
  | '-' :: rest => (takeDigits rest.length rest).map fun parts => (-(parts.1 : Int), parts.2)
  | '+' :: rest => (takeDigits rest.length rest).map fun parts => ((parts.1 : Int), parts.2)
  | text => (takeDigits 4 text).map fun parts => ((parts.1 : Int), parts.2)

def takeHyphen : List Char → Option (List Char)
  | '-' :: rest => some rest
  | _ => none

/-- Reads year, month and day with hyphens between them; blanks may stand before each number. -/
def parse (text : List Char) : Option Date := do
  let (year, rest) ← takeYear (Text.trimStart text)
  let rest ← takeHyphen rest
  let (month, rest) ← takeDigits 2 (Text.trimStart rest)
  let rest ← takeHyphen rest
  let (day, rest) ← takeDigits 2 (Text.trimStart rest)
  let date : Date := { year := year, month := month, day := day }
  if rest.isEmpty && date.isValid then some date else none

example : (parse "2024-02-29".toList).isSome = true ∧ parse "2023-02-29".toList = none := by
  decide +kernel

end Date

end Ussd
