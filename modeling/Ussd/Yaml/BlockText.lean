import Ussd.Yaml.Cursor
/-!
# Texts in blocks

A text whose lines stand below its header, indented. In the literal form its lines are kept, in the
folded form they are joined by spaces. The header tells what becomes of the line breaks at the end,
and it may tell the indentation, which otherwise is that of the first line.
-/

namespace Ussd.Yaml

inductive Chomping where
  | strip
  | clip
  | keep
  deriving DecidableEq, Repr

structure BlockHeader where
  literal : Bool
  chomping : Chomping
  indentation : Option Nat

namespace BlockHeader

def chomping? : Char → Option Chomping
  | '-' => some .strip
  | '+' => some .keep
  | _ => none

def indentation? (c : Char) : Option Nat :=
  if '1' ≤ c ∧ c ≤ '9' then some (c.toNat - '0'.toNat) else none

/-- Reads the marks after the first one, in any order; gives the rest of the header's line. -/
def read (literal : Bool) (text : List Char) : BlockHeader × List Char :=
  let header : BlockHeader := { literal := literal, chomping := .clip, indentation := none }
  match text with
  | [] => (header, [])
  | first :: rest =>
    match chomping? first, indentation? first with
    | some chomping, _ =>
      match rest.head?.bind indentation? with
      | some count =>
        ({ header with chomping := chomping, indentation := some count }, rest.drop 1)
      | none => ({ header with chomping := chomping }, rest)
    | none, some count =>
      match rest.head?.bind chomping? with
      | some chomping =>
        ({ header with chomping := chomping, indentation := some count }, rest.drop 1)
      | none => ({ header with indentation := some count }, rest)
    | none, none => (header, first :: rest)

end BlockHeader

structure TextLine where
  content : List Char
  isBroken : Bool

def linesFrom (current : List Char) : List Char → List TextLine
  | [] => if current.isEmpty then [] else [{ content := current.reverse, isBroken := false }]
  | c :: rest =>
    if c = '\n' then { content := current.reverse, isBroken := true } :: linesFrom [] rest
    else linesFrom (c :: current) rest

def TextLine.indentation (line : TextLine) : Nat := (line.content.takeWhile (· == ' ')).length

def TextLine.isEmpty (line : TextLine) : Bool := line.content.all (· == ' ')

def TextLine.hasTab (line : TextLine) : Bool :=
  (line.content.drop line.indentation).head? == some '\t'

/-- The indentation that the lines show: the greatest of those up to the first line with content,
which no tab may begin. -/
def shownIndentation? : List TextLine → Option Nat
  | [] => some 0
  | line :: rest =>
    if line.isEmpty then (shownIndentation? rest).map (max line.indentation)
    else if line.hasTab then none
    else some line.indentation

structure Paragraph where
  emptyBefore : Nat
  content : List Char
  isBroken : Bool

structure BlockLines where
  paragraphs : List Paragraph
  emptyAfter : Nat
  length : Nat
  lines : Nat

/-- Takes the lines that are indented enough; nothing if one is indented by tabs. -/
def takeLines (indentation empties : Nat) : List TextLine → Option BlockLines
  | [] => some { paragraphs := [], emptyAfter := empties, length := 0, lines := 0 }
  | line :: rest =>
    let width := line.content.length + 1
    if line.content.length ≤ indentation ∧ line.isEmpty then
      if line.isBroken then
        (takeLines indentation (empties + 1) rest).map fun taken =>
          { taken with length := taken.length + width, lines := taken.lines + 1 }
      else some { paragraphs := [], emptyAfter := empties, length := width - 1, lines := 0 }
    else if indentation ≤ line.indentation then
      (takeLines indentation 0 rest).map fun taken =>
        { paragraphs :=
            { emptyBefore := empties, content := line.content.drop indentation,
              isBroken := line.isBroken } :: taken.paragraphs
          emptyAfter := taken.emptyAfter
          length := taken.length + (if line.isBroken then width else width - 1)
          lines := taken.lines + (if line.isBroken then 1 else 0) }
    else if line.hasTab then none
    else some { paragraphs := [], emptyAfter := empties, length := 0, lines := 0 }

def breaks (count : Nat) : List Char := List.replicate count '\n'

def startsWithBlank : List Char → Bool
  | [] => false
  | c :: _ => c == ' ' || c == '\t'

/-- The paragraphs after one that ended with a line break if `broken`, and began with a blank if
`indented`; in the folded form one break between two plain lines becomes a space. -/
def joinParagraphs (literal broken indented : Bool) : List Paragraph → List Char
  | [] => []
  | paragraph :: rest =>
    let isIndented := startsWithBlank paragraph.content
    let between :=
      if !broken then []
      else if !literal && !indented && !isIndented then
        (if paragraph.emptyBefore = 0 then [' '] else [])
      else ['\n']
    between ++ breaks paragraph.emptyBefore ++ paragraph.content
      ++ joinParagraphs literal paragraph.isBroken isIndented rest

namespace BlockLines

def text (lines : BlockLines) (header : BlockHeader) : List Char :=
  let body := joinParagraphs header.literal false false lines.paragraphs
  let isBroken := (lines.paragraphs.getLast?.map Paragraph.isBroken).getD false
  let last := if isBroken then ['\n'] else []
  match header.chomping with
  | .strip => body
  | .clip => body ++ last
  | .keep => body ++ last ++ breaks lines.emptyAfter

end BlockLines

def readBlockText (parent : Option Nat) (cursor : Cursor) : Option (String × Cursor) :=
  let (header, rest) := BlockHeader.read (cursor.rest.head? == some '|') (cursor.rest.drop 1)
  let rest := rest.dropWhile fun c => c == ' ' || c == '\t'
  let rest := if rest.head? == some '#' then rest.dropWhile (· != '\n') else rest
  match rest with
  | [] => some ("", { cursor with rest := [] })
  | '\n' :: rest =>
    let lines := linesFrom [] rest
    let least := (parent.map (· + 1)).getD 0
    let indentation := match header.indentation with
      | some count => some (parent.getD 0 + count)
      | none => (shownIndentation? lines).map fun shown => max 1 (max least shown)
    (indentation.bind fun indentation => takeLines indentation 0 lines).map fun taken =>
      (String.ofList (taken.text header),
        { rest := rest.drop taken.length, column := 0, line := cursor.line + 1 + taken.lines })
  | _ => none

end Ussd.Yaml
