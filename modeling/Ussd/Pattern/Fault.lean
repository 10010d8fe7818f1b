import Ussd.Text.Pieces
/-!
# Illegal patterns

Why a text is no pattern, and where. A place is told by the number of characters that are left there,
so that readers, which hold what is left of the text, need not count what they have passed. A fault
is shown below the line in which it lies, with marks under the characters that it is about.
-/

namespace Ussd.Pattern

def nestingLimit : Nat := 250

def sizeLimit : Nat := 10 * 1024 * 1024

inductive Cause where
  | classEscapeInvalid
  | classRangeInvalid
  | classRangeLiteral
  | classUnclosed
  | decimalInvalid
  | hexEmpty
  | hexInvalid
  | hexDigitInvalid
  | escapeAtEnd
  | escapeUnrecognized
  | flagDangling
  | flagDuplicate
  | flagNegatedAgain
  | flagAtEnd
  | flagUnrecognized
  | groupNameDuplicate
  | groupNameEmpty
  | groupNameInvalid
  | groupNameAtEnd
  | groupUnclosed
  | groupUnopened
  | nestingTooDeep
  | countInvalid
  | countEmpty
  | countUnclosed
  | repetitionMissing
  | boundaryUnclosed
  | boundaryUnrecognized
  | boundaryAtEnd
  | propertyInvalid
  | backreference
  | lookAround
  -- faults of patterns that are well formed
  | unicodeNotAllowed
  | notUtf8
  | propertyNotFound
  | propertyValueNotFound
  deriving DecidableEq, Repr

def Cause.message : Cause → String
  | .classEscapeInvalid => "invalid escape sequence found in character class"
  | .classRangeInvalid => "invalid character class range, the start must be <= the end"
  | .classRangeLiteral => "invalid range boundary, must be a literal"
  | .classUnclosed => "unclosed character class"
  | .decimalInvalid => "decimal literal invalid"
  | .hexEmpty => "hexadecimal literal empty"
  | .hexInvalid => "hexadecimal literal is not a Unicode scalar value"
  | .hexDigitInvalid => "invalid hexadecimal digit"
  | .escapeAtEnd => "incomplete escape sequence, reached end of pattern prematurely"
  | .escapeUnrecognized => "unrecognized escape sequence"
  | .flagDangling => "dangling flag negation operator"
  | .flagDuplicate => "duplicate flag"
  | .flagNegatedAgain => "flag negation operator repeated"
  | .flagAtEnd => "expected flag but got end of regex"
  | .flagUnrecognized => "unrecognized flag"
  | .groupNameDuplicate => "duplicate capture group name"
  | .groupNameEmpty => "empty capture group name"
  | .groupNameInvalid => "invalid capture group character"
  | .groupNameAtEnd => "unclosed capture group name"
  | .groupUnclosed => "unclosed group"
  | .groupUnopened => "unopened group"
  | .nestingTooDeep =>
    "exceed the maximum number of nested parentheses/brackets (" ++ toString nestingLimit ++ ")"
  | .countInvalid => "invalid repetition count range, the start must be <= the end"
  | .countEmpty => "repetition quantifier expects a valid decimal"
  | .countUnclosed => "unclosed counted repetition"
  | .repetitionMissing => "repetition operator missing expression"
  | .boundaryUnclosed =>
    "special word boundary assertion is either unclosed or contains an invalid character"
  | .boundaryUnrecognized =>
    "unrecognized special word boundary assertion, " ++
      "valid choices are: start, end, start-half or end-half"
  | .boundaryAtEnd =>
    "found either the beginning of a special word boundary or a bounded repetition " ++
      "on a \\b with an opening brace, but no closing brace"
  | .propertyInvalid => "invalid Unicode character class"
  | .backreference => "backreferences are not supported"
  | .lookAround => "look-around, including look-ahead and look-behind, is not supported"
  | .unicodeNotAllowed => "Unicode not allowed here"
  | .notUtf8 => "pattern can match invalid UTF-8"
  | .propertyNotFound => "Unicode property not found"
  | .propertyValueNotFound => "Unicode property value not found"

/-- A stretch of a text: the numbers of characters that are left where it starts and where it
stops. -/
structure Span where
  start : Nat
  stop : Nat
  deriving DecidableEq, Repr

def Span.between (start stop : List Char) : Span := { start := start.length, stop := stop.length }

def Span.first (text : List Char) : Span := between text text.tail

inductive Fault where
  | misread (cause : Cause) (span : Span) (earlier : Option Span)
  | tooLarge
  deriving DecidableEq, Repr

def Fault.at (cause : Cause) (text : List Char) : Fault := .misread cause (.first text) none

def Fault.between (cause : Cause) (start stop : List Char) : Fault :=
  .misread cause (.between start stop) none

/-! ## Showing where a fault lies -/

def linesOf (text : List Char) : List (List Char) :=
  let lines := Text.splitOn '\n' text
  let ended := lines.dropLast.map fun line => (Text.beforeEnd? ['\r'] line).getD line
  match lines.getLast? with
  | none => ended
  | some [] => ended
  | some last => ended ++ [last]

/-- The line and the column, both from zero, at which `left` characters of a text are left. -/
def placeOf (text : List Char) (left : Nat) : Nat × Nat :=
  let lines := Text.splitOn '\n' (text.take (text.length - left))
  (lines.length - 1, (lines.getLast?.getD []).length)

def marks (column : Nat) : List (Nat × Nat) → List Char
  | [] => []
  | (first, last) :: rest =>
    let width := max 1 (last - first)
    List.replicate (first - column) ' ' ++ List.replicate width '^'
      ++ marks (max column first + width) rest

/-- Puts a number before every line if the text has several lines, and blanks if it has one. -/
def lineHead (count number : Nat) : List Char :=
  if count ≤ 1 then List.replicate 4 ' '
  else
    let digits := Nat.toDigits 10 number
    List.replicate ((Nat.toDigits 10 count).length - digits.length) ' ' ++ digits ++ [':', ' ']

def notated (text : List Char) (spans : List Span) : List Char :=
  let count := (Text.splitOn '\n' text).length
  (linesOf text).zipIdx.flatMap fun (line, index) =>
    let inLine := spans.filterMap fun span =>
      let first := placeOf text span.start
      let last := placeOf text span.stop
      if first.1 = index ∧ last.1 = index then some (first.2, last.2) else none
    let below := if inLine.isEmpty then []
      else List.replicate (lineHead count 1).length ' ' ++ marks 0 inLine ++ ['\n']
    lineHead count (index + 1) ++ line ++ '\n' :: below

def acrossLines? (text : List Char) (span : Span) : Option (List Char) :=
  let first := placeOf text span.start
  let last := placeOf text span.stop
  if first.1 = last.1 then none
  else
    some (("on line " ++ toString (first.1 + 1) ++ " (column " ++ toString (first.2 + 1)
      ++ ") through line " ++ toString (last.1 + 1) ++ " (column " ++ toString last.2
      ++ ")").toList)

def Fault.display (text : List Char) : Fault → String
  | .tooLarge => "Compiled regex exceeds size limit of " ++ toString sizeLimit ++ " bytes."
  | .misread cause span earlier =>
    let spans := earlier.toList ++ [span]
    let rule := if text.contains '\n' then List.replicate 79 '~' ++ ['\n'] else []
    let across := spans.filterMap (acrossLines? text)
    let notes := if across.isEmpty then [] else Text.join ['\n'] across ++ ['\n']
    String.ofList ("regex parse error:\n".toList ++ rule ++ notated text spans ++ rule ++ notes
      ++ ("error: " ++ cause.message).toList)

example : (Fault.at .classUnclosed ['[']).display ['['] =
    "regex parse error:\n    [\n    ^\nerror: unclosed character class" := by decide +kernel

end Ussd.Pattern
