import Ussd.Calendar.Date
import Ussd.Json.Decode
import Ussd.Text.Pieces
/-!
# Instants

A point in time is a number of seconds since the beginning of 1970 (universal time) and a fraction of
a second. The fraction passes one second only within a leap second, which prolongs the second before
it. Written instants are in universal time; any offset is accepted when they are read.
-/

namespace Ussd

structure Instant where
  seconds : Int
  nanoseconds : Nat
  deriving DecidableEq, Repr, Inhabited

namespace Instant

def secondsPerDay : Int := 86400

def nanosecondsPerSecond : Nat := 1000000000

def lt (left right : Instant) : Bool :=
  decide (left.seconds < right.seconds) ||
    (left.seconds == right.seconds && decide (left.nanoseconds < right.nanoseconds))

/-- The instant a number of seconds later; a leap second is left in the direction of the shift. -/
def shift (instant : Instant) (seconds : Int) : Instant :=
  if instant.nanoseconds < nanosecondsPerSecond ∨ seconds = 0 then
    { instant with seconds := instant.seconds + seconds }
  else
    { seconds := instant.seconds + seconds + (if seconds < 0 then 1 else 0)
      nanoseconds := instant.nanoseconds - nanosecondsPerSecond }

def signedWord (value : Nat) : Int :=
  if value < Text.signedLimit then (value : Int) else (value : Int) - 2 * Text.signedLimit

/-- The instant an unsigned number of seconds later. The number is taken as a signed word, so that
one of 2⁶³ or more goes back in time. Whether there is such an instant is for the calendar to say. -/
def plusSeconds (instant : Instant) (seconds : Nat) : Instant := instant.shift (signedWord seconds)

def minusSeconds (instant : Instant) (seconds : Nat) : Instant :=
  instant.shift (-signedWord seconds)

def minusDays (instant : Instant) (days : Int) : Instant := instant.shift (-days * secondsPerDay)

/-! ## The calendar -/

def leastSecond : Int :=
  ({ year := Date.leastYear, month := 1, day := 1 } : Date).toDays * secondsPerDay

def endSecond : Int :=
  ({ year := Date.greatestYear + 1, month := 1, day := 1 } : Date).toDays * secondsPerDay

def isInCalendar (instant : Instant) : Bool :=
  decide (leastSecond ≤ instant.seconds) && decide (instant.seconds < endSecond)

def inCalendar? (instant : Instant) : Option Instant :=
  if instant.isInCalendar then some instant else none

/-! ## Milliseconds -/

def ofMilliseconds? (milliseconds : Int) : Option Instant :=
  let instant : Instant :=
    { seconds := milliseconds / 1000, nanoseconds := (milliseconds % 1000).toNat * 1000000 }
  if instant.isInCalendar then some instant else none

def toMilliseconds (instant : Instant) : Int :=
  instant.seconds * 1000 + (instant.nanoseconds / 1000000 : Nat)

/-! ## Writing -/

/-- A fraction of a second with no digits or with 3, 6 or 9, the fewest that are exact. -/
def fractionText (nanoseconds : Nat) : List Char :=
  if nanoseconds = 0 then []
  else if nanoseconds % 1000000 = 0 then '.' :: Date.padded 3 (nanoseconds / 1000000)
  else if nanoseconds % 1000 = 0 then '.' :: Date.padded 6 (nanoseconds / 1000)
  else '.' :: Date.padded 9 nanoseconds

def text (instant : Instant) : List Char :=
  let day := Date.ofDays (instant.seconds / secondsPerDay)
  let time := (instant.seconds % secondsPerDay).toNat
  let second := time % 60 + instant.nanoseconds / nanosecondsPerSecond
  Date.yearText day.year ++ '-' :: Date.padded 2 day.month ++ '-' :: Date.padded 2 day.day
    ++ 'T' :: Date.padded 2 (time / 3600) ++ ':' :: Date.padded 2 (time / 60 % 60)
    ++ ':' :: Date.padded 2 second
    ++ fractionText (instant.nanoseconds % nanosecondsPerSecond) ++ ['Z']

def toText (instant : Instant) : String := String.ofList instant.text

def toJson (instant : Instant) : Json := .text instant.toText

/-! ## Reading -/

def takeMark (mark : Char) (text : List Char) : Option (List Char) :=
  match Text.trimStart text with
  | c :: rest => if c = mark then some rest else none
  | [] => none

def takeNumber (most : Nat) (text : List Char) : Option (Nat × List Char) :=
  (Date.takeDigits 2 (Text.trimStart text)).filter fun parts => parts.1 ≤ most

/-- A fraction of a second in nanoseconds; digits after the ninth do not count. -/
def takeFraction (text : List Char) : Option (Nat × List Char) :=
  match text with
  | '.' :: rest =>
    (Date.takeDigits 9 rest).map fun parts =>
      let count := rest.length - parts.2.length
      (parts.1 * Nat.pow 10 (9 - count), parts.2.dropWhile Char.isDigit)
  | _ => some (0, text)

def afterZone? (text : List Char) : Option (List Char) :=
  match text with
  | c :: rest =>
    if (text.take 3).map Char.toLower = "utc".toList then some (rest.drop 2)
    else if c = 'Z' ∨ c = 'z' then some rest
    else none
  | [] => none

def takeOffsetSign : List Char → Option (Bool × List Char)
  | '+' :: rest => some (false, rest)
  | '-' :: rest => some (true, rest)
  | '−' :: rest => some (true, rest)
  | _ => none

def takePair : List Char → Option (Nat × List Char)
  | a :: b :: rest =>
    if a.isDigit && b.isDigit then some (Text.digitsValue [a, b], rest) else none
  | _ => none

/-- An offset in seconds: hours, and minutes unless the text ends there, with colons or blanks
between them. -/
def takeOffset (text : List Char) : Option (Int × List Char) :=
  match afterZone? text with
  | some rest => some (0, rest)
  | none => do
    let (negative, rest) ← takeOffsetSign text
    let (hours, rest) ← takePair rest
    let rest := rest.dropWhile fun c => c == ':' || Text.isBlank c
    let (minutes, rest) ← if rest.isEmpty then some (0, []) else takePair rest
    let seconds : Int := hours * 3600 + minutes * 60
    if minutes < 60 ∧ seconds < secondsPerDay then
      some (if negative then -seconds else seconds, rest)
    else none

/-- Reads a date, a time of day and an offset. A time with the second 60 lies in a leap second. -/
def parse (text : List Char) : Option Instant := do
  let (year, rest) ← Date.takeYear (Text.trimStart text)
  let rest ← takeMark '-' rest
  let (month, rest) ← takeNumber 12 rest
  let rest ← takeMark '-' rest
  let (day, rest) ← takeNumber 31 rest
  let date : Date := { year := year, month := month, day := day }
  let rest ← match rest with
    | c :: rest => if c = 'T' ∨ c = 't' ∨ c = ' ' then some rest else none
    | [] => none
  let (hour, rest) ← takeNumber 23 rest
  let rest ← takeMark ':' rest
  let (minute, rest) ← takeNumber 59 rest
  let rest ← takeMark ':' rest
  let (second, rest) ← takeNumber 60 rest
  let (fraction, rest) ← takeFraction rest
  let (offset, rest) ← takeOffset (Text.trimStart rest)
  let time : Int := hour * 3600 + minute * 60 + (if second = 60 then 59 else second : Nat)
  let instant : Instant :=
    { seconds := date.toDays * secondsPerDay + time - offset
      nanoseconds := if second = 60 then fraction + nanosecondsPerSecond else fraction }
  if date.isValid && (Text.trimStart rest).isEmpty && instant.isInCalendar then some instant
  else none

example : (parse "2024-01-01 01:00:00.5+01:00".toList).map toText =
    some "2024-01-01T00:00:00.500Z" := by
  decide +kernel

def decode : Decoder Instant := fun node =>
  match Decoder.text node with
  | .error refusal => .error refusal
  | .ok value =>
    match parse value.toList with
    | some instant => .ok instant
    | none => .error .unfit

end Instant

end Ussd
