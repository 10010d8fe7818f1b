/-!
# Cutting text into pieces

Splitting at a character or at the first occurrence of one, looking for a fragment, and taking a
known beginning or end off a text.
-/

namespace Ussd.Text

/-- The pieces between the occurrences of a separator; there is always one piece more than
separators. -/
def splitOn (separator : Char) : List Char → List (List Char)
  | [] => [[]]
  | c :: rest =>
    if c = separator then [] :: splitOn separator rest
    else
      match splitOn separator rest with
      | [] => [[c]]
      | piece :: pieces => (c :: piece) :: pieces

def cutAt? (stop : Char → Bool) : List Char → Option (List Char × List Char)
  | [] => none
  | c :: rest =>
    if stop c then some ([], rest)
    else (cutAt? stop rest).map fun parts => (c :: parts.1, parts.2)

def splitOnce (separator : Char) (text : List Char) : Option (List Char × List Char) :=
  cutAt? (· == separator) text

def afterStart? : List Char → List Char → Option (List Char)
  | [], text => some text
  | _ :: _, [] => none
  | expected :: start, c :: text => if c = expected then afterStart? start text else none

def beforeEnd? (ending text : List Char) : Option (List Char) :=
  (afterStart? ending.reverse text.reverse).map List.reverse

def startsWith (start text : List Char) : Bool := (afterStart? start text).isSome

def endsWith (ending text : List Char) : Bool := (beforeEnd? ending text).isSome

def cutFragment? (fragment : List Char) : List Char → Option (List Char × List Char)
  | [] => if fragment.isEmpty then some ([], []) else none
  | c :: rest =>
    match afterStart? fragment (c :: rest) with
    | some tail => some ([], tail)
    | none => (cutFragment? fragment rest).map fun parts => (c :: parts.1, parts.2)

def containsFragment (fragment text : List Char) : Bool := (cutFragment? fragment text).isSome

def join (separator : List Char) : List (List Char) → List Char
  | [] => []
  | [text] => text
  | text :: rest => text ++ separator ++ join separator rest

end Ussd.Text
