import Ussd.Yaml.Cursor
import Ussd.Text.Numeral
/-!
# Scalars in the flow of a text

Quoted and unquoted scalars may go on over several lines. A line break within one becomes a space,
unless empty lines follow it: these become line breaks.
-/

namespace Ussd.Yaml

/-- What has been passed since the last character of a scalar. -/
inductive Fold where
  | blanks (passed : List Char)
  | broken (more : Nat)
  /-- A line break that a backslash makes vanish, and how many more. -/
  | joined (more : Nat)

namespace Fold

def none : Fold := .blanks []

def isNone : Fold → Bool
  | .blanks [] => true
  | _ => false

def isBroken : Fold → Bool
  | .blanks _ => false
  | _ => true

def blank (fold : Fold) (c : Char) : Fold :=
  match fold with
  | .blanks passed => .blanks (c :: passed)
  | other => other

def newline : Fold → Fold
  | .blanks _ => .broken 0
  | .broken more => .broken (more + 1)
  | .joined more => .joined (more + 1)

def text : Fold → List Char
  | .blanks passed => passed
  | .broken 0 => [' ']
  | .broken (more + 1) => List.replicate (more + 1) '\n'
  | .joined more => List.replicate more '\n'

end Fold

/-! ## Unquoted scalars -/

/-- Whether an unquoted scalar ends before a colon; nothing if the colon is wrong. -/
def endsAtColon (bracketed : Bool) : List Char → Option Bool
  | [] => some true
  | c :: rest =>
    if bracketed && [',', '?', '[', ']', '\x7b', '\x7d'].contains c then none
    else some (atBlank (c :: rest))

/-- Reads an unquoted scalar whose characters so far are `read`, in reverse. Lines that begin left of
`indent` do not belong to it. -/
def unquotedFrom (bracketed : Bool) (indent : Nat) (read : List Char) (fold : Fold)
    (column line : Nat) (text : List Char) : Option (List Char × Cursor) :=
  let stop := some (read.reverse, { rest := text, column := column, line := line })
  match text with
  | [] => stop
  | c :: rest =>
    let take (_ : Unit) :=
      unquotedFrom bracketed indent (c :: (fold.text ++ read)) .none (column + 1) line rest
    if c = ' ' || c = '\t' then
      if fold.isBroken && decide (column < indent) && c == '\t' then none
      else unquotedFrom bracketed indent read (fold.blank c) (column + 1) line rest
    else if c = '\n' then unquotedFrom bracketed indent read fold.newline 0 (line + 1) rest
    else if fold.isBroken && !bracketed && decide (column < indent) then stop
    else if column = 0 && (startsMarker '-' text || startsMarker '.' text) then stop
    else if c = '#' && !fold.isNone then stop
    else if c = ':' then
      match endsAtColon bracketed rest with
      | none => none
      | some true => stop
      | some false => take ()
    else if bracketed && [',', '[', ']', '\x7b', '\x7d'].contains c then stop
    else take ()

def startsUnquoted (bracketed : Bool) : List Char → Bool
  | [] => false
  | c :: rest =>
    if c = '-' then !atBlank rest
    else if c = '?' || c = ':' then !bracketed && !atBlank rest
    else !(" \t\n,[]\x7b\x7d#&*!|>'\"%@`".toList.contains c)

def readUnquoted (bracketed : Bool) (indent : Nat) (cursor : Cursor) :
    Option (String × Cursor) :=
  if startsUnquoted bracketed cursor.rest then
    (unquotedFrom bracketed indent [] .none cursor.column cursor.line cursor.rest).map fun parts =>
      (String.ofList parts.1, parts.2)
  else none

/-! ## Quoted scalars -/

def hexChar? (count : Nat) (text : List Char) : Option Char :=
  let digits := text.take count
  if digits.length = count then
    (Text.digitsIn? 16 digits).bind fun code =>
      if code.isValidChar then some (Char.ofNat code) else none
  else none

def escape? : List Char → Option (Char × Nat)
  | [] => none
  | c :: rest =>
    match c with
    | '0' => some (Char.ofNat 0, 1)
    | 'a' => some (Char.ofNat 7, 1)
    | 'b' => some (Char.ofNat 8, 1)
    | 't' => some ('\t', 1)
    | '\t' => some ('\t', 1)
    | 'n' => some ('\n', 1)
    | 'v' => some (Char.ofNat 11, 1)
    | 'f' => some (Char.ofNat 12, 1)
    | 'r' => some ('\r', 1)
    | 'e' => some (Char.ofNat 27, 1)
    | ' ' => some (' ', 1)
    | '"' => some ('"', 1)
    | '/' => some ('/', 1)
    | '\\' => some ('\\', 1)
    | 'N' => some (Char.ofNat 0x85, 1)
    | '_' => some (Char.ofNat 0xA0, 1)
    | 'L' => some (Char.ofNat 0x2028, 1)
    | 'P' => some (Char.ofNat 0x2029, 1)
    | 'x' => (hexChar? 2 rest).map fun char => (char, 3)
    | 'u' => (hexChar? 4 rest).map fun char => (char, 5)
    | 'U' => (hexChar? 8 rest).map fun char => (char, 9)
    | _ => none

/-- Reads a quoted scalar up to its closing mark, which in single quotes is written twice where it
belongs to the scalar. -/
def quotedFrom (fuel : Nat) (double : Bool) (read : List Char) (fold : Fold) (cursor : Cursor) :
    Option (List Char × Cursor) :=
  match fuel, cursor.rest with
  | 0, _ => none
  | _, [] => none
  | fuel + 1, c :: rest =>
    let take (char : Char) (count : Nat) :=
      quotedFrom fuel double (char :: (fold.text ++ read)) .none (cursor.skip count)
    let nextLine : Cursor := { rest := rest, column := 0, line := cursor.line + 1 }
    if cursor.isAtMarker then none
    else if c = ' ' || c = '\t' then quotedFrom fuel double read (fold.blank c) (cursor.skip 1)
    else if c = '\n' then quotedFrom fuel double read fold.newline nextLine
    else if double then
      if c = '"' then some ((fold.text ++ read).reverse, cursor.skip 1)
      else if c = '\\' then
        match rest with
        | '\n' :: rest =>
          quotedFrom fuel double (fold.text ++ read) (.joined 0) { nextLine with rest := rest }
        | _ =>
          match escape? rest with
          | some (char, count) => take char (count + 1)
          | none => none
      else take c 1
    else if c = '\'' then
      match rest with
      | '\'' :: _ => take '\'' 2
      | _ => some ((fold.text ++ read).reverse, cursor.skip 1)
    else take c 1

def readQuoted (double : Bool) (cursor : Cursor) : Option (String × Cursor) :=
  (quotedFrom (cursor.rest.length + 1) double [] .none (cursor.skip 1)).map fun parts =>
    (String.ofList parts.1, parts.2)

end Ussd.Yaml
