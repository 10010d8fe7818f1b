import Ussd.Pattern.Reader
import Ussd.Text.Blank
import Ussd.Validation.Rule
/-!
# Checking what subscribers enter

Blanks around the text never count, and a text that is blank altogether is refused unless its rule
makes it optional. Then come, in this order, the kind of the text, its length, the pattern and the
bounds on its value; the first check that fails gives the reason.
-/

namespace Ussd.Validation

inductive Refusal where
  | required
  | invalidKind (kind : InputKind)
  | tooShort (least : Nat)
  | tooLong (most : Nat)
  | invalidFormat
  | outOfRange
  deriving DecidableEq, Repr

def kindMessage : InputKind → String
  | .name => "Le nom doit contenir uniquement des lettres"
  | .phone => "Numéro de téléphone invalide (format: +237XXXXXXXXX ou 6XXXXXXXX)"
  | .email => "Format d'email invalide"
  | .decimal => "Veuillez entrer un nombre valide"
  | .numeric => "Veuillez entrer uniquement des chiffres"
  | .alphanumeric => "Seuls les caractères alphanumériques sont autorisés"
  | .text => "Caractères non autorisés détectés"
  | .custom => "Format d'email invalide"

def Refusal.message : Refusal → String
  | .required => "Ce champ est obligatoire"
  | .invalidKind kind => kindMessage kind
  | .tooShort least =>
    "La longueur minimale n'est pas respectée (" ++ toString least ++ " caractères)"
  | .tooLong most => "La longueur maximale est dépassée (" ++ toString most ++ " caractères)"
  | .invalidFormat => "Format invalide"
  | .outOfRange => "La valeur est hors des limites autorisées"

/-! ## Kinds of text -/

def isAsciiLetter (c : Char) : Bool := c.isAlpha

def isNameChar (c : Char) : Bool :=
  c.isAlpha || ('À' ≤ c && c ≤ 'ÿ') || Text.isBlank c || c == '\'' || c == '-'

/-- Two to fifty letters, blanks, apostrophes and hyphens. -/
def isName (text : List Char) : Bool :=
  2 ≤ text.length && text.length ≤ 50 && text.all isNameChar

/-- Nine digits that begin with 2 or 6, with or without the country code. -/
def isPhone (text : List Char) : Bool :=
  match (Text.afterStart? "+237".toList text).getD text with
  | first :: rest => (first == '2' || first == '6') && rest.length == 8 && rest.all Char.isDigit
  | [] => false

def isMailboxChar (c : Char) : Bool :=
  c.isAlphanum || c == '+' || c == '_' || c == '.' || c == '-'

def isDomainChar (c : Char) : Bool := c.isAlphanum || c == '.' || c == '-'

def isEmail (text : List Char) : Bool :=
  match Text.splitOnce '@' text with
  | none => false
  | some (mailbox, host) =>
    let ending := (host.reverse.takeWhile (· != '.')).reverse
    let domain := host.dropLast.take (host.length - ending.length - 1)
    !mailbox.isEmpty && mailbox.all isMailboxChar &&
      host.contains '.' && !domain.isEmpty && domain.all isDomainChar &&
      2 ≤ ending.length && ending.all isAsciiLetter

def isNumeric (text : List Char) : Bool := !text.isEmpty && text.all Char.isDigit

def isDecimal (text : List Char) : Bool :=
  match Text.splitOnce '.' text with
  | none => isNumeric text
  | some (whole, fraction) => isNumeric whole && isNumeric fraction && fraction.length ≤ 2

def isAlphanumeric (text : List Char) : Bool := !text.isEmpty && text.all Char.isAlphanum

def isForbidden (c : Char) : Bool := "<>\"'%;()&+".toList.contains c

def hasKind (text : List Char) : InputKind → Bool
  | .name => isName text
  | .phone => isPhone text
  | .email => isEmail text
  | .custom => isEmail text
  | .decimal => isDecimal text
  | .numeric => isNumeric text
  | .alphanumeric => isAlphanumeric text
  | .text => !text.any isForbidden

/-! ## Checks -/

def checkLength (text : List Char) (minLength maxLength : Option Nat) : Except Refusal Unit :=
  match minLength.filter (text.length < ·), maxLength.filter (· < text.length) with
  | some least, _ => .error (.tooShort least)
  | none, some most => .error (.tooLong most)
  | none, none => .ok ()

def checkTrimmed (text : List Char) (kind : InputKind) (minLength maxLength : Option Nat) :
    Except Refusal Unit :=
  if text.isEmpty then .error .required
  else if hasKind text kind then checkLength text minLength maxLength
  else .error (.invalidKind kind)

def check (input : String) (kind : InputKind) (minLength maxLength : Option Nat) :
    Except Refusal Unit :=
  checkTrimmed (Text.trim input.toList) kind minLength maxLength

/-- An illegal pattern is not applied. -/
def matchesPattern (text : List Char) (pattern : Option String) : Bool :=
  match pattern.map Pattern.read with
  | some (.ok pattern) => pattern.isFoundIn text
  | _ => true

def isInBounds (text : List Char) (min max : Option Binary64) : Bool :=
  match Text.double? text with
  | none => true
  | some value => !(min.any value.lt) && !(max.any fun max => max.lt value)

def checkRule (input : String) (rule : ValidationRule) : Except Refusal Unit :=
  let text := Text.trim input.toList
  if text.isEmpty && rule.optional then .ok ()
  else
    match checkTrimmed text rule.kind rule.minLength rule.maxLength with
    | .error refusal => .error refusal
    | .ok () =>
      if !matchesPattern text rule.pattern then .error .invalidFormat
      else if !isInBounds text rule.min rule.max then .error .outOfRange
      else .ok ()

theorem checkRule_trimmed (input : String) (rule : ValidationRule) :
    checkRule (trimmed input) rule = checkRule input rule := by
  unfold checkRule
  rw [toList_trimmed, Text.trim_idempotent]

/-- The kind of a text counts before its length. -/
example : check " ab " .numeric (some 4) none = .error (.invalidKind .numeric) := by cbv

example : check " 12 " .numeric (some 4) none = .error (.tooShort 4) := by cbv

def ignoredPattern? (input : String) (rule : ValidationRule) :
    Option (String × Pattern.Fault) :=
  let text := Text.trim input.toList
  match checkTrimmed text rule.kind rule.minLength rule.maxLength with
  | .error _ => none
  | .ok () =>
    rule.pattern.bind fun pattern =>
      match Pattern.read pattern with
      | .ok _ => none
      | .error fault => some (pattern, fault)

end Ussd.Validation
