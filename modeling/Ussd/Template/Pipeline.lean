import Ussd.Template.Filter
/-!
# Filter pipelines

The inside of a placeholder is a path and filters, separated by bars: `path | name:argument | name`.
Bars inside quotes do not separate, and quotes around an argument are taken off.
-/

namespace Ussd.Pipeline

def isQuote (c : Char) : Bool := c == '"' || c == '\''

/-- The parts between the bars outside quotes; `quote` is the mark that closes the current quote. -/
def splitFrom (quote : Option Char) : List Char → List (List Char)
  | [] => [[]]
  | c :: rest =>
    let separates := quote.isNone && c == '|'
    if separates then [] :: splitFrom none rest
    else
      let next :=
        match quote with
        | some mark => if c = mark then none else quote
        | none => if isQuote c then some c else none
      match splitFrom next rest with
      | [] => [[c]]
      | part :: parts => (c :: part) :: parts

def split (expression : List Char) : List (List Char) := splitFrom none expression

/-- A text between two equal quotation marks without them; any other text as it is. -/
def unquote (raw : List Char) : List Char :=
  match raw with
  | [] => []
  | first :: rest =>
    match rest.getLast? with
    | none => raw
    | some last => if isQuote first && last == first then rest.dropLast else raw

theorem unquote_quoted {quote : Char} (isMark : isQuote quote) (text : List Char) :
    unquote (quote :: (text ++ [quote])) = text := by
  simp [unquote, isMark]

example : split "email | default:'a | b'".toList =
    ["email ".toList, " default:'a | b'".toList] := by
  decide +kernel

/-- A filter's name and its argument, the text after the first colon. -/
def parseFilter (segment : List Char) : List Char × Option (List Char) :=
  match Text.splitOnce ':' segment with
  | some (name, argument) => (Text.trim name, some (unquote (Text.trim argument)))
  | none => (Text.trim segment, none)

def applySegment (value : Json) (segment : List Char) : Json :=
  let parts := parseFilter segment
  applyFilter parts.1 parts.2 value

def applySegments (value : Json) (segments : List (List Char)) : Json :=
  segments.foldl applySegment value

def unknownFilters (segments : List (List Char)) : List String :=
  segments.filterMap fun segment =>
    let name := String.ofList (parseFilter segment).1
    if (Filter.named? name).isNone then some name else none

end Ussd.Pipeline
