import Ussd.Text.Case
/-!
# Media types

The name of a format as a header gives it, such as `application/json; charset=utf-8`: a type, a
subtype that may end in a suffix after a plus sign, and parameters. Letter case does not matter.
-/

namespace Ussd

structure MediaType where
  type : List Char
  subtype : List Char
  suffix : Option (List Char)
  parameters : List (List Char × List Char)
  deriving DecidableEq, Repr

namespace MediaType

def isTokenChar (c : Char) : Bool := c.isAlphanum || "!#$%&'*+-.^_`|~".toList.contains c

/-! ## Parameters -/

inductive ParameterState where
  | before
  | name
  | valueStart
  | value
  | quoted
  | afterQuoted
  deriving DecidableEq, Repr

/-- Reads parameters; `name` and `value` are what has been read of one, in reverse. -/
def parametersFrom (state : ParameterState) (name value : List Char) :
    List Char → Option (List (List Char × List Char))
  | [] =>
    match state with
    | .before => some []
    | .afterQuoted => some []
    | .valueStart => some [(name.reverse, [])]
    | .value => some [(name.reverse, value.reverse)]
    | _ => none
  | c :: rest =>
    let entry := (name.reverse, value.reverse)
    match state with
    | .before =>
      if c = ' ' || c = ';' then parametersFrom .before [] [] rest
      else if isTokenChar c then parametersFrom .name [c] [] rest
      else none
    | .name =>
      if c = '=' then parametersFrom .valueStart name [] rest
      else if isTokenChar c then parametersFrom .name (c :: name) [] rest
      else none
    | .valueStart =>
      if c = '"' then parametersFrom .quoted name [] rest
      else if isTokenChar c then parametersFrom .value name [c] rest
      else none
    | .value =>
      if c = ';' then (parametersFrom .before [] [] rest).map (entry :: ·)
      else if isTokenChar c then parametersFrom .value name (c :: value) rest
      else none
    | .quoted =>
      if c = '"' && !value.isEmpty then
        (parametersFrom .afterQuoted [] [] rest).map (entry :: ·)
      else if 31 < c.toNat then parametersFrom .quoted name (c :: value) rest
      else none
    | .afterQuoted =>
      if c = ';' then parametersFrom .before [] [] rest
      else if c = ' ' then parametersFrom .afterQuoted [] [] rest
      else none

/-! ## Reading -/

/-- The parts before and after the last plus sign that is not the first character. -/
def splitSuffix (text : List Char) : List Char × Option (List Char) :=
  let suffix := (text.reverse.takeWhile (· != '+')).reverse
  let stem := text.take (text.length - suffix.length - 1)
  if stem.isEmpty then (text, none) else (stem, some suffix)

def readParameters : List Char → Option (List (List Char × List Char))
  | [] => some []
  | c :: rest => if c = ';' || c = ' ' then parametersFrom .before [] [] rest else none

def read? (text : List Char) : Option MediaType :=
  let text := Text.lower text
  let type := text.takeWhile isTokenChar
  match text.dropWhile isTokenChar with
  | '/' :: rest =>
    let name := rest.takeWhile isTokenChar
    let tail := rest.dropWhile isTokenChar
    if type.isEmpty || text.any (fun c => c != '\t' && (c.toNat < 32 || 126 < c.toNat))
        || (name.isEmpty && !tail.isEmpty) then none
    else
      let parts := splitSuffix name
      (readParameters tail).map fun parameters =>
        { type := type, subtype := parts.1, suffix := parts.2, parameters := parameters }
  | _ => none

def parameter? (mediaType : MediaType) (name : List Char) : Option (List Char) :=
  (mediaType.parameters.find? (·.1 == name)).map Prod.snd

def isJson (mediaType : MediaType) : Bool :=
  mediaType.type == "application".toList
    && (mediaType.subtype == "json".toList || mediaType.suffix == some "json".toList)

example : (read? "application/vnd.api+json; charset=utf-8".toList).map isJson = some true := by
  decide +kernel

example : (read? "text/plain".toList).map isJson = some false := by decide +kernel

example : (read? "text/html; Charset=\"UTF-8\"".toList).bind (parameter? · "charset".toList) =
    some "utf-8".toList := by
  decide +kernel

end MediaType

end Ussd
