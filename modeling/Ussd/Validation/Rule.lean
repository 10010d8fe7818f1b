import Ussd.Json.Decode
/-!
# Validation rules

What a service demands of the text that a subscriber enters: its kind, bounds on its length and on
its numeric value, and a pattern.
-/

namespace Ussd

inductive InputKind where
  | name
  | phone
  | email
  | decimal
  | numeric
  | alphanumeric
  | text
  /-- Checked as an email address. -/
  | custom
  deriving DecidableEq, Repr, Inhabited

namespace InputKind

def label : InputKind → String
  | .name => "NAME"
  | .phone => "PHONE"
  | .email => "EMAIL"
  | .decimal => "DECIMAL"
  | .numeric => "NUMERIC"
  | .alphanumeric => "ALPHANUMERIC"
  | .text => "TEXT"
  | .custom => "CUSTOM"

def all : List InputKind :=
  [.name, .phone, .email, .decimal, .numeric, .alphanumeric, .text, .custom]

def labelled? (label : String) : Option InputKind := all.find? (·.label == label)

def decode : Decoder InputKind := Decoder.choice labelled?

end InputKind

structure ValidationRule where
  kind : InputKind
  minLength : Option Nat
  maxLength : Option Nat
  min : Option Binary64
  max : Option Binary64
  pattern : Option String
  optional : Bool
  deriving DecidableEq, Repr

namespace ValidationRule

def fieldNames : List String :=
  ["type", "minLength", "maxLength", "min", "max", "pattern", "optional"]

def decode : Decoder ValidationRule := fun node => do
  let record ← Record.ofNode fieldNames node
  return {
    kind := ← record.defaulted "type" .text InputKind.decode
    minLength := ← record.voluntary "minLength" Decoder.word
    maxLength := ← record.voluntary "maxLength" Decoder.word
    min := ← record.voluntary "min" Decoder.double
    max := ← record.voluntary "max" Decoder.double
    pattern := ← record.voluntary "pattern" Decoder.text
    optional := ← record.defaulted "optional" false Decoder.bool }

def toJson (rule : ValidationRule) : Json :=
  let double (value : Binary64) : Json := .number (.double value)
  .ofFields ([("type", .text rule.kind.label), ("optional", .bool rule.optional)]
    ++ fieldIfSome "minLength" (rule.minLength.map Json.natural)
    ++ fieldIfSome "maxLength" (rule.maxLength.map Json.natural)
    ++ fieldIfSome "min" (rule.min.map double)
    ++ fieldIfSome "max" (rule.max.map double)
    ++ fieldIfSome "pattern" (rule.pattern.map Json.text))

end ValidationRule

end Ussd
