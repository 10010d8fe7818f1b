import Ussd.Json.Path
import Ussd.Template.Pipeline
/-!
# Expressions in message templates

A tag that shows something holds a pipeline, a call of a helper with arguments, a literal or a path.
Paths are resolved in a stack of scopes, innermost first: the data of the session and one scope for
every `each` or `with` around the tag.
-/

namespace Ussd.Message

/-- What `this` is at one level, and the place of the item that an `each` has reached. -/
structure Scope where
  this : Json
  index : Option Nat
  length : Nat
  key : Option String

def Scope.root (data : Json) : Scope := { this := data, index := none, length := 0, key := none }

def ofDouble (value : Binary64) : Json :=
  if value.isFinite then .number (.double value) else .null

def resolvePath? (scopes : List Scope) (path : List Char) : Option Json :=
  match scopes with
  | [] => none
  | scope :: outer =>
    if path = "this".toList ∨ path = ['.'] then some scope.this
    else
      match Text.afterStart? "this.".toList path with
      | some rest => scope.this.lookup rest
      | none =>
        match Text.afterStart? "../".toList path with
        | some rest => resolvePath? outer rest
        | none => (scope :: outer).findSome? fun scope => scope.this.lookup path

/-- The value of a path or of one of the names for the place within an `each`. -/
def resolve (scopes : List Scope) (path : List Char) : Json :=
  match scopes with
  | [] => .null
  | scope :: _ =>
    match String.ofList path with
    | "@index" => (scope.index.map Json.natural).getD .null
    | "@first" => .bool (scope.index == some 0)
    | "@last" => .bool (scope.index.any fun index => index + 1 == scope.length)
    | "@key" => (scope.key.map Json.text).getD .null
    | _ => (resolvePath? scopes path).getD .null

def argument (scopes : List Scope) (raw : List Char) : Json :=
  if raw.head?.any Pipeline.isQuote then .text (String.ofList (Pipeline.unquote raw))
  else
    match Text.signed? raw with
    | some value => .number (.whole value)
    | none =>
      match Text.double? raw with
      | some value => ofDouble value
      | none =>
        match String.ofList raw with
        | "true" => .bool true
        | "false" => .bool false
        | "null" => .null
        | _ => resolve scopes raw

/-- Words separated by blanks outside quotes; `current` is the word being collected, reversed. -/
def splitArgumentsFrom (quote : Option Char) (current : Option (List Char)) :
    List Char → List (List Char)
  | [] => (current.map List.reverse).toList
  | c :: rest =>
    match quote with
    | some mark =>
      splitArgumentsFrom (if c = mark then none else quote) (some (c :: current.getD [])) rest
    | none =>
      if Pipeline.isQuote c then
        splitArgumentsFrom (some c) (some (c :: current.getD [])) rest
      else if Text.isBlank c then
        (current.map List.reverse).toList ++ splitArgumentsFrom none none rest
      else splitArgumentsFrom none (some (c :: current.getD [])) rest

def splitArguments (expression : List Char) : List (List Char) :=
  splitArgumentsFrom none none expression

/-- The sum of the numbers among the arguments: whole if it is integral and fits 64 bits. -/
def sum (values : List Json) : Json :=
  let total := (values.filterMap Filter.asNumber?).foldl Binary64.add (.zero false)
  match total with
  | .finite negative mantissa exponent =>
    let parts := Binary64.fraction mantissa exponent
    let whole := Binary64.signed negative (parts.1 / parts.2)
    if parts.1 % parts.2 = 0 ∧ parts.1 / parts.2 < Text.signedLimit then .number (.whole whole)
    else .number (.double total)
  | _ => .null

def evaluate (scopes : List Scope) (expression : List Char) : Json :=
  match Pipeline.split expression with
  | value :: filter :: filters =>
    Pipeline.applySegments (argument scopes (Text.trim value)) (filter :: filters)
  | _ =>
    match splitArguments expression with
    | helper :: first :: rest =>
      if helper = "add".toList then sum ((first :: rest).map (argument scopes))
      else
        match Filter.named? (String.ofList helper) with
        | some filter =>
          filter.apply (rest.head?.map fun raw => (argument scopes raw).display.toList)
            (argument scopes first)
        | none => argument scopes (Text.trim expression)
    | _ => argument scopes (Text.trim expression)

def isTruthy : Json → Bool
  | .null => false
  | .bool value => value
  | .number value => !value.toDouble.equal (.zero false)
  | .text value => !value.isEmpty
  | .list items => !items.isEmpty
  | .object _ => true

end Ussd.Message
