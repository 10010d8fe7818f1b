import Ussd.Json.Path
import Ussd.Json.Writer
import Ussd.Message.Expression
import Ussd.Text.Word
/-!
# Conditions on session data

A condition stands between double braces: a path alone asks whether a value is present, and a path
compared with a literal by `==` or `!=` asks whether the value's text equals the literal's. A
condition without braces holds always, and one that cannot be evaluated never does.
-/

namespace Ussd.Condition

inductive Fault where
  | missingOperand (place : String)
  | invalidVariable (name : String)
  deriving DecidableEq, Repr

def Fault.message : Fault → String
  | .missingOperand place => "operand missing in '" ++ place ++ "'"
  | .invalidVariable name => "'" ++ name ++ "' is not a variable path"

/-! ## The expression between the braces -/

/-- The shortest non-empty text on one line that is followed by blanks and closing braces. -/
def shortestBody? (collected : List Char) (text : List Char) : Option (List Char) :=
  match text with
  | [] => none
  | c :: rest =>
    if c = '\n' then none
    else if Text.startsWith ['\x7d', '\x7d'] (Text.trimStart rest) then
      some (collected ++ [c])
    else shortestBody? (collected ++ [c]) rest

def bodyAfterBlanks? (blanks text : List Char) : Option (List Char) :=
  match shortestBody? [] text with
  | some body => some body
  | none =>
    match blanks with
    | [] => none
    | blank :: fewer => bodyAfterBlanks? fewer (blank :: text)

/-- The text between the first opening braces that are closed, without the blanks around it. -/
def expressionIn? : List Char → Option (List Char)
  | [] => none
  | c :: rest =>
    let here :=
      match Text.afterStart? ['\x7b', '\x7b'] (c :: rest) with
      | some inside =>
        bodyAfterBlanks? (inside.takeWhile Text.isBlank).reverse (inside.dropWhile Text.isBlank)
      | none => none
    match here with
    | some body => some (Text.trim body)
    | none => expressionIn? rest

/-! ## Operands -/

def isNameStart (c : Char) : Bool := (c.toNat < 128 && c.isAlpha) || c == '_' || c == '$'

def isNameChar (c : Char) : Bool := Text.isWordChar c || c == '$'

/-- Whether a text is a dotted path of identifiers, the first of which begins with a letter, an
underscore or a dollar sign. -/
def isVariablePath (text : List Char) : Bool :=
  text.head?.any isNameStart &&
    (Text.splitOn '.' text).all fun segment => !segment.isEmpty && segment.all isNameChar

def variablePath (raw : List Char) : Except Fault (List Char) :=
  let name := Text.trim raw
  if name.isEmpty then .error (.missingOperand (String.ofList raw))
  else if isVariablePath name then .ok name
  else .error (.invalidVariable (String.ofList name))

def sameWord (word : String) (text : List Char) : Bool :=
  text.map Char.toLower == word.toList

def literal (raw : List Char) : Json :=
  let word : Json :=
    if sameWord "true" raw then .bool true
    else if sameWord "false" raw then .bool false
    else .text (String.ofList raw)
  let unquoted := Pipeline.unquote raw
  if unquoted ≠ raw then .text (String.ofList unquoted)
  else if raw.contains '.' then
    match Text.double? raw with
    | some value => Message.ofDouble value
    | none => word
  else
    match Text.signed? raw with
    | some value => .number (.whole value)
    | none => word

/-! ## Evaluation -/

def present? (data : Json) (path : List Char) : Option Json :=
  (data.lookup path).filter fun value => !value.isNull

/-- Whether the value of a variable equals a literal; the literal `null` equals absence. -/
def compare (left right : List Char) (data : Json) : Except Fault Bool :=
  match variablePath left with
  | .error fault => .error fault
  | .ok name =>
    let right := Text.trim right
    if right.isEmpty then .error (.missingOperand (String.ofList name ++ " =="))
    else
      let actual := present? data name
      if right = "null".toList then .ok actual.isNone
      else .ok (actual.any fun value => value.display == (literal right).display)

def evaluateExpression (expression : List Char) (data : Json) : Except Fault Bool :=
  match Text.cutFragment? ['!', '='] expression with
  | some (left, right) => (compare left right data).map (!·)
  | none =>
    match Text.cutFragment? ['=', '='] expression with
    | some (left, right) => compare left right data
    | none =>
      match variablePath expression with
      | .error fault => .error fault
      | .ok name => .ok (present? data name).isSome

inductive Verdict where
  | blank
  | unbraced
  | judged (holds : Bool)
  | faulty (fault : Fault)
  deriving DecidableEq, Repr

def Verdict.holds : Verdict → Bool
  | .blank => true
  | .unbraced => true
  | .judged holds => holds
  | .faulty _ => false

def judge (condition : String) (data : Json) : Verdict :=
  if isAllBlank condition then .blank
  else
    match expressionIn? condition.toList with
    | none => .unbraced
    | some expression =>
      match evaluateExpression expression data with
      | .ok holds => .judged holds
      | .error fault => .faulty fault

def holds (condition : String) (data : Json) : Bool := (judge condition data).holds

/-- A literal is compared by its text, and what is not there equals no literal but null. -/
example : holds "\x7b\x7bcount == '3'\x7d\x7d" (.object [("count", .number (.whole 3))]) = true ∧
    holds "\x7b\x7bcount == '3'\x7d\x7d" (.object []) = false ∧
    holds "\x7b\x7bcount == null\x7d\x7d" (.object []) = true := by
  decide +kernel

end Ussd.Condition
