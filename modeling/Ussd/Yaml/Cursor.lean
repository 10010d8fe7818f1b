/-!
# Places in a text

A place is what is left of the text together with the line and the column where it begins. Blanks,
comments and line breaks between the parts of a document are one gap.
-/

namespace Ussd.Yaml

structure Cursor where
  rest : List Char
  column : Nat
  line : Nat

def atBlank : List Char → Bool
  | [] => true
  | c :: _ => c == ' ' || c == '\t' || c == '\n'

def startsAlone (mark : Char) : List Char → Bool
  | c :: rest => c == mark && atBlank rest
  | [] => false

/-- Whether the text begins with a line of three marks, which separates documents. -/
def startsMarker (mark : Char) : List Char → Bool
  | a :: b :: c :: rest => a == mark && b == mark && c == mark && atBlank rest
  | _ => false

namespace Cursor

def skip (cursor : Cursor) (count : Nat) : Cursor :=
  { cursor with rest := cursor.rest.drop count, column := cursor.column + count }

def isAtMarker (cursor : Cursor) : Bool :=
  cursor.column == 0 && (startsMarker '-' cursor.rest || startsMarker '.' cursor.rest)

def isAtEnd (cursor : Cursor) : Bool := cursor.rest.isEmpty || cursor.isAtMarker

structure GapState where
  tabs : Bool
  inComment : Bool

/-- The place after a gap. Between brackets tabs are blanks everywhere; elsewhere they are blanks
only within a line. -/
def gapFrom (bracketed : Bool) (state : GapState) (column line : Nat) : List Char → Cursor
  | [] => { rest := [], column := column, line := line }
  | c :: rest =>
    if c = '\n' then gapFrom bracketed { tabs := bracketed, inComment := false } 0 (line + 1) rest
    else if state.inComment || c = ' ' || (c = '\t' && state.tabs) then
      gapFrom bracketed state (column + 1) line rest
    else if c = '#' then gapFrom bracketed { state with inComment := true } (column + 1) line rest
    else { rest := c :: rest, column := column, line := line }

def skipGap (cursor : Cursor) (bracketed tabs : Bool) : Cursor :=
  gapFrom bracketed { tabs := tabs || bracketed, inComment := false } cursor.column cursor.line
    cursor.rest

def skipBlanks (cursor : Cursor) : Cursor :=
  cursor.skip (cursor.rest.takeWhile fun c => c == ' ' || c == '\t').length

end Cursor

end Ussd.Yaml
