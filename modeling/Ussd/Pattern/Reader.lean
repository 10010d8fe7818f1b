import Ussd.Pattern.Basic
import Ussd.Pattern.Fault
import Ussd.Text.Numeral
import Ussd.Text.Pieces
/-!
# Reading patterns

The usual notation of regular expressions without references to groups and without looking ahead or
behind. Flags between parentheses hold up to the end of their group. Reading stops at the first place
that is not well formed; a part that is well formed but means nothing, such as a property that does
not exist, counts only if the whole text is well formed.
-/

namespace Ussd.Pattern

structure Flags where
  ignoreCase : Bool
  multiLine : Bool
  dotAll : Bool
  carriageReturns : Bool
  ascii : Bool
  spaced : Bool
  deriving DecidableEq, Repr

def Flags.initial : Flags :=
  { ignoreCase := false, multiLine := false, dotAll := false, carriageReturns := false,
    ascii := false, spaced := false }

def weightLimit : Nat := 250000

structure Progress where
  names : List (String × Span)
  /-- The first part that is well formed but means nothing. -/
  late : Option Fault

abbrev Reading := StateT Progress (Except Fault)

def fail {α : Type} (cause : Cause) (text : List Char) : Reading α := throw (.at cause text)

def failBetween {α : Type} (cause : Cause) (start stop : List Char) : Reading α :=
  throw (.between cause start stop)

def noteFault (cause : Cause) (start stop : List Char) : Reading Unit :=
  modify fun progress =>
    { progress with late := progress.late.or (some (.between cause start stop)) }

/-- Skips blanks and comments where the flags say that they do not count. -/
def skipComment (flags : Flags) (inComment : Bool) (text : List Char) : List Char :=
  if !flags.spaced then text
  else
    match text with
    | [] => []
    | c :: rest =>
      if inComment then skipComment flags (c != '\n') rest
      else if Text.isBlank c then skipComment flags false rest
      else if c = '#' then skipComment flags true rest
      else c :: rest

def skipSpaced (flags : Flags) (text : List Char) : List Char := skipComment flags false text

/-- A class as it stands in the pattern, with case ignored if the flags say so. Where only ASCII
counts, other characters have no case. -/
def folded (flags : Flags) (members : CharClass) : CharClass :=
  if !flags.ignoreCase then members
  else if flags.ascii then .inter (.fold members) (.range 0 0x7F)
  else .fold members

def foldedChar (flags : Flags) (c : Char) : CharClass :=
  if flags.ascii && 127 < c.toNat then .single c else folded flags (.single c)

/-! ## Escapes -/

inductive Escape where
  | literal (c : Char) (isByte : Bool)
  | charClass (members : CharClass)
  | assertion (claim : Assertion)

def takeHexDigits (flags : Flags) : Nat → List Char → Reading (List Char × List Char)
  | 0, text => return ([], text)
  | _ + 1, [] => fail .escapeAtEnd []
  | width + 1, c :: rest =>
    if (Text.digitIn? 16 c).isSome then do
      let (digits, rest) ← takeHexDigits flags width (skipSpaced flags rest)
      return (c :: digits, rest)
    else fail .hexDigitInvalid (c :: rest)

def takeBracedDigits (flags : Flags) (brace : List Char) :
    Nat → List Char → Reading (List Char × List Char)
  | 0, text => return ([], text)
  | fuel + 1, text =>
    match skipSpaced flags text with
    | [] => failBetween .escapeAtEnd brace []
    | '\x7d' :: rest => return ([], '\x7d' :: rest)
    | c :: rest =>
      if (Text.digitIn? 16 c).isSome then do
        let (digits, rest) ← takeBracedDigits flags brace fuel rest
        return (c :: digits, rest)
      else fail .hexDigitInvalid (c :: rest)

def charOfHex? (digits : List Char) : Option Char :=
  (Text.digitsIn? 16 digits).bind fun code =>
    if code.isValidChar then some (Char.ofNat code) else none

/-- A code of exactly `width` digits, or of any number of digits between braces. -/
def readHex (flags : Flags) (width : Nat) (text : List Char) : Reading (Escape × List Char) :=
  match skipSpaced flags text with
  | [] => fail .escapeAtEnd []
  | '\x7b' :: rest => do
    let brace := '\x7b' :: rest
    let (digits, closing) ← takeBracedDigits flags brace (rest.length + 1) rest
    let after := skipSpaced flags closing.tail
    if digits.isEmpty then failBetween .hexEmpty brace after
    match charOfHex? digits with
    | none => failBetween .hexInvalid rest closing
    | some c => return (.literal c false, after)
  | start => do
    let (digits, after) ← takeHexDigits flags width start
    match charOfHex? digits with
    | none => failBetween .hexInvalid start after
    | some c => return (.literal c (width == 2), after)

def takeName (flags : Flags) : Nat → List Char → Reading (List Char × List Char)
  | 0, text => return ([], text)
  | fuel + 1, text =>
    match skipSpaced flags text with
    | [] => fail .escapeAtEnd []
    | '\x7d' :: rest => return ([], rest)
    | c :: rest => do
      let (name, rest) ← takeName flags fuel rest
      return (c :: name, rest)

def propertyClass (name : List Char) : Except Cause CharClass :=
  match Text.cutFragment? ['!', '='] name with
  | some (property, value) => (CharClass.valued? property value).map .negate
  | none =>
    match (Text.splitOnce ':' name).or (Text.splitOnce '=' name) with
    | some (property, value) => CharClass.valued? property value
    | none => CharClass.named? name

def readProperty (flags : Flags) (negated : Bool) (start text : List Char) :
    Reading (Escape × List Char) := do
  let (property, rest) ← match skipSpaced flags text with
    | [] => fail .escapeAtEnd []
    | '\x7b' :: rest => do
      let (name, rest) ← takeName flags (rest.length + 1) rest
      pure (propertyClass name, rest)
    | '\\' :: rest => fail .propertyInvalid ('\\' :: rest)
    | c :: rest => pure (CharClass.named? [c], skipSpaced flags rest)
  if flags.ascii then
    noteFault .unicodeNotAllowed start rest
    return (.charClass .nothing, rest)
  match property with
  | .ok members =>
    let members := folded flags members
    return (.charClass (if negated then .negate members else members), rest)
  | .error cause =>
    noteFault cause start rest
    return (.charClass .nothing, rest)

def readPerl (flags : Flags) (name : String) (members : CharClass) (negated : Bool)
    (start rest : List Char) : Reading (Escape × List Char) := do
  if flags.ascii && negated then noteFault .notUtf8 start rest
  let members := if flags.ascii then (CharClass.asciiNamed? name).getD .nothing else members
  return (.charClass (if negated then .negate members else members), rest)

def isBoundaryNameChar (c : Char) : Bool := c.isAlpha || c == '-'

def takeLetters (flags : Flags) : Nat → List Char → List Char × List Char
  | fuel + 1, c :: rest =>
    if isBoundaryNameChar c then
      let parts := takeLetters flags fuel (skipSpaced flags rest)
      (c :: parts.1, parts.2)
    else ([], c :: rest)
  | _, text => ([], text)

/-- The kinds of word boundary that are written with a name between braces. Braces around something
else are left over: they tell how often the boundary is repeated. -/
def readBoundary (flags : Flags) (start text : List Char) : Reading (Escape × List Char) :=
  match text with
  | '\x7b' :: inside =>
    match skipSpaced flags inside with
    | [] => failBetween .boundaryAtEnd start []
    | c :: rest =>
      if !isBoundaryNameChar c then
        return (.assertion (.wordBoundary flags.ascii), text)
      else
        let (name, after) := takeLetters flags (rest.length + 1) (c :: rest)
        match after with
        | '\x7d' :: following =>
          match String.ofList name with
          | "start" => return (.assertion (.wordStart flags.ascii), following)
          | "end" => return (.assertion (.wordEnd flags.ascii), following)
          | "start-half" => return (.assertion (.wordStartHalf flags.ascii), following)
          | "end-half" => return (.assertion (.wordEndHalf flags.ascii), following)
          | _ => failBetween .boundaryUnrecognized (c :: rest) after
        | after => failBetween .boundaryUnclosed text after
  | text => return (.assertion (.wordBoundary flags.ascii), text)

def readEscape (flags : Flags) (start : List Char) : Reading (Escape × List Char) :=
  match start.tail with
  | [] => failBetween .escapeAtEnd start []
  | c :: rest =>
    let char (code : Nat) : Reading (Escape × List Char) :=
      return (.literal (Char.ofNat code) false, rest)
    let assertion (claim : Assertion) : Reading (Escape × List Char) :=
      return (.assertion claim, rest)
    match c with
    | 'd' => readPerl flags "digit" .digit false start rest
    | 'D' => readPerl flags "digit" .digit true start rest
    | 's' => readPerl flags "space" .blank false start rest
    | 'S' => readPerl flags "space" .blank true start rest
    | 'w' => readPerl flags "word" .word false start rest
    | 'W' => readPerl flags "word" .word true start rest
    | 'p' => readProperty flags false start rest
    | 'P' => readProperty flags true start rest
    | 'b' => readBoundary flags start rest
    | 'B' => assertion (.noWordBoundary flags.ascii)
    | '<' => assertion (.wordStart flags.ascii)
    | '>' => assertion (.wordEnd flags.ascii)
    | 'A' => assertion .textStart
    | 'z' => assertion .textEnd
    | 'a' => char 7
    | 'f' => char 12
    | 't' => char 9
    | 'n' => char 10
    | 'r' => char 13
    | 'v' => char 11
    | 'x' => readHex flags 2 rest
    | 'u' => readHex flags 4 rest
    | 'U' => readHex flags 8 rest
    | c =>
      if c.isDigit then failBetween .backreference start rest
      else if c.toNat < 128 ∧ !c.isAlpha then char c.toNat
      else failBetween .escapeUnrecognized start rest

/-! ## Classes in brackets -/

structure ClassUnion where
  members : CharClass
  count : Nat
  depth : Nat

namespace ClassUnion

def empty : ClassUnion := { members := .nothing, count := 0, depth := 0 }

def add (union : ClassUnion) (members : CharClass) (depth : Nat) : ClassUnion :=
  { members := .union union.members members, count := union.count + 1
    depth := max union.depth depth }

/-- How deeply the items are nested as one part: several of them are a part of their own. -/
def nesting (union : ClassUnion) : Nat := if union.count < 2 then union.depth else union.depth + 1

end ClassUnion

inductive ClassItem where
  | literal (c : Char)
  | charClass (members : CharClass)
  | assertion

def readClassItem (flags : Flags) (start : List Char) : Reading (ClassItem × List Char) :=
  match start with
  | [] => fail .classUnclosed []
  | '\\' :: _ => do
    let (escape, rest) ← readEscape flags start
    match escape with
    | .literal c isByte =>
      if flags.ascii && 127 < c.toNat then
        noteFault (if isByte then .notUtf8 else .unicodeNotAllowed) start rest
      return (.literal c, rest)
    | .charClass members => return (.charClass members, rest)
    | .assertion _ => return (.assertion, rest)
  | c :: rest => do
    if flags.ascii && 127 < c.toNat then noteFault .unicodeNotAllowed start rest
    return (.literal c, rest)

/-- The character after the first one that is not blank; a hash sign counts as blank once where blanks
do not count. -/
def peekSpaced (flags : Flags) (text : List Char) : Option Char :=
  if !flags.spaced then text.tail.head?
  else
    match text.tail.dropWhile Text.isBlank with
    | [] => text.tail.head?
    | '#' :: rest =>
      match rest.dropWhile Text.isBlank with
      | [] => text.tail.head?
      | c :: _ => some c
    | c :: _ => some c

def readClassRange (flags : Flags) (openAt inside start : List Char) :
    Reading (CharClass × List Char) := do
  let (first, afterFirst) ← readClassItem flags start
  match skipSpaced flags afterFirst with
  | [] => failBetween .classUnclosed openAt inside
  | c :: rest =>
    let next := peekSpaced flags (c :: rest)
    if c != '-' || next == some ']' || next == some '-' then
      match first with
      | .literal letter => return (.single letter, c :: rest)
      | .charClass members => return (members, c :: rest)
      | .assertion => failBetween .classEscapeInvalid start afterFirst
    else
      let second := skipSpaced flags rest
      if second.isEmpty then failBetween .classUnclosed openAt inside
      let (last, after) ← readClassItem flags second
      match first, last with
      | .literal first, .literal last =>
        if last < first then failBetween .classRangeInvalid start after
        return (.range first.toNat last.toNat, after)
      | .literal _, _ => failBetween .classRangeLiteral second after
      | _, _ => failBetween .classRangeLiteral start afterFirst

def readNamedClass (text : List Char) : Option (Bool × CharClass × List Char) :=
  match text with
  | ':' :: rest =>
    let negated := rest.head? == some '^'
    match Text.cutFragment? [':', ']'] (if negated then rest.tail else rest) with
    | some (name, rest) =>
      (CharClass.asciiNamed? (String.ofList name)).map fun members => (negated, members, rest)
    | none => none
  | _ => none

inductive ClassOperator where
  | intersection
  | difference
  | symmetricDifference

def ClassOperator.apply : ClassOperator → CharClass → CharClass → CharClass
  | .intersection, left, right => .inter left right
  | .difference, left, right => .difference left right
  | .symmetricDifference, left, right => .symmetricDifference left right

structure PendingOperator where
  left : CharClass
  depth : Nat
  operator : ClassOperator

def combine (flags : Flags) (pending : Option PendingOperator) (union : ClassUnion) :
    CharClass × Nat :=
  match pending with
  | some pending =>
    (pending.operator.apply (folded flags pending.left) (folded flags union.members),
      max pending.depth union.nesting + 1)
  | none => (union.members, union.nesting)

def takeHyphens (flags : Flags) (openAt : List Char) :
    Nat → ClassUnion → List Char → Reading (ClassUnion × List Char)
  | fuel + 1, union, '-' :: rest => do
    let rest := skipSpaced flags rest
    if rest.isEmpty then failBetween .classUnclosed openAt openAt
    takeHyphens flags openAt fuel (union.add (.single '-') 0) rest
  | _, union, text => return (union, text)

/-- What opens a class: whether it is negated, and the hyphens or the bracket that come first and
stand for themselves. -/
def readClassHead (flags : Flags) (openAt : List Char) :
    Reading (Bool × ClassUnion × List Char) := do
  let unlessAtEnd (text : List Char) : Reading (List Char) :=
    if text.isEmpty then failBetween .classUnclosed openAt [] else return text
  let text ← unlessAtEnd (skipSpaced flags openAt.tail)
  let negated := text.head? == some '^'
  let text ← if negated then unlessAtEnd (skipSpaced flags text.tail) else pure text
  let (union, text) ← takeHyphens flags openAt text.length .empty text
  match text with
  | ']' :: rest =>
    if union.count = 0 then
      let inside ← unlessAtEnd (skipSpaced flags rest)
      return (negated, union.add (.single ']') 0, inside)
    else return (negated, union, text)
  | text => return (negated, union, text)

mutual

def readClass (fuel : Nat) (flags : Flags) (openAt : List Char) :
    Reading (CharClass × Nat × List Char) :=
  match fuel with
  | 0 => fail .classUnclosed openAt
  | fuel + 1 => do
    let (negated, union, inside) ← readClassHead flags openAt
    let (members, depth, rest) ← readClassItems fuel flags openAt inside none union inside
    if flags.ascii && negated then noteFault .notUtf8 openAt rest
    let members := folded flags members
    return (if negated then .negate members else members, depth + 1, rest)

def readClassItems (fuel : Nat) (flags : Flags) (openAt inside : List Char)
    (pending : Option PendingOperator) (union : ClassUnion) (text : List Char) :
    Reading (CharClass × Nat × List Char) :=
  match fuel with
  | 0 => fail .classUnclosed openAt
  | fuel + 1 =>
    let operator (operator : ClassOperator) (rest : List Char) :
        Reading (CharClass × Nat × List Char) :=
      let left := combine flags pending union
      readClassItems fuel flags openAt inside
        (some { left := left.1, depth := left.2, operator := operator }) .empty rest
    match skipSpaced flags text with
    | [] => failBetween .classUnclosed openAt inside
    | ']' :: rest =>
      let whole := combine flags pending union
      return (whole.1, whole.2, rest)
    | '[' :: rest =>
      match readNamedClass rest with
      | some (negated, members, after) => do
        if flags.ascii && negated then noteFault .notUtf8 ('[' :: rest) after
        let members := folded flags members
        readClassItems fuel flags openAt inside pending
          (union.add (if negated then .negate members else members) 0) after
      | none => do
        let (members, depth, after) ← readClass fuel flags ('[' :: rest)
        readClassItems fuel flags openAt inside pending (union.add members depth) after
    | '&' :: '&' :: rest => operator .intersection rest
    | '-' :: '-' :: rest => operator .difference rest
    | '~' :: '~' :: rest => operator .symmetricDifference rest
    | text => do
      let (members, rest) ← readClassRange flags openAt inside text
      readClassItems fuel flags openAt inside pending (union.add members 0) rest

end

/-! ## Repetitions -/

def takeDigits (flags : Flags) : Nat → List Char → List Char × List Char
  | fuel + 1, c :: rest =>
    if c.isDigit then
      let parts := takeDigits flags fuel (skipSpaced flags rest)
      (c :: parts.1, parts.2)
    else ([], c :: rest)
  | _, text => ([], text)

def readCount (flags : Flags) (text : List Char) : Except Fault Nat × List Char :=
  let start := text.dropWhile Text.isBlank
  let (digits, stop) := takeDigits flags start.length start
  let afterBlanks := stop.dropWhile Text.isBlank
  let rest := if afterBlanks.length = stop.length then stop else skipSpaced flags afterBlanks
  let count := Text.digitsValue digits
  if digits.isEmpty then (.error (.between .countEmpty start stop), rest)
  else if 0xFFFFFFFF < count then (.error (.between .decimalInvalid start stop), rest)
  else (.ok count, rest)

/-- The bounds of a repetition that starts with the brace at the head of a text. A question mark
behind them changes which match is preferred, not whether there is one. -/
def readBounds (flags : Flags) (start : List Char) :
    Reading (Nat × Option Nat × List Char) := do
  let unlessAtEnd (text : List Char) : Reading Unit :=
    if text.isEmpty then failBetween .countUnclosed start [] else return ()
  let text := skipSpaced flags start.tail
  unlessAtEnd text
  let (least, rest) := readCount flags text
  unlessAtEnd rest
  let (least, most, rest) ← match rest with
    | ',' :: rest => do
      let rest := skipSpaced flags rest
      unlessAtEnd rest
      if rest.head? == some '\x7d' then
        let least ← least
        pure (least, none, rest)
      else
        let least ← least
        let (most, rest) := readCount flags rest
        let most ← most
        pure (least, some most, rest)
    | rest => do
      let least ← least
      pure (least, some least, rest)
  match rest with
  | '\x7d' :: after =>
    let after := match skipSpaced flags after with
      | '?' :: rest => rest
      | rest => rest
    if most.any (· < least) then failBetween .countInvalid start after
    return (least, most, after)
  | rest => failBetween .countUnclosed start rest

/-! ## Groups -/

def Flags.set? (flags : Flags) (letter : Char) (value : Bool) : Option Flags :=
  match letter with
  | 'i' => some { flags with ignoreCase := value }
  | 'm' => some { flags with multiLine := value }
  | 's' => some { flags with dotAll := value }
  | 'R' => some { flags with carriageReturns := value }
  | 'U' => some flags
  | 'u' => some { flags with ascii := !value }
  | 'x' => some { flags with spaced := value }
  | _ => none

/-- Flags up to the colon or parenthesis that ends them, which is left over. No letter may occur
twice, and a minus sign has to be followed by a letter; `seen` holds the letters so far and where
they stand, the last one first. -/
def readFlags (seen : List (Char × List Char)) (value : Bool) (flags : Flags) :
    List Char → Reading (Flags × List Char)
  | [] => fail .flagAtEnd []
  | c :: rest =>
    let place := c :: rest
    if c = ':' ∨ c = ')' then
      match seen with
      | ('-', sign) :: _ => fail .flagDangling sign
      | _ => return (flags, place)
    else
      match flags.set? c value, seen.lookup c with
      | some flags, none => readFlags ((c, place) :: seen) value flags rest
      | some _, some earlier => throw (.misread .flagDuplicate (.first place) (some (.first earlier)))
      | none, earlier =>
        if c ≠ '-' then fail .flagUnrecognized place
        else
          match earlier with
          | none => readFlags ((c, place) :: seen) false flags rest
          | some earlier =>
            throw (.misread .flagNegatedAgain (.first place) (some (.first earlier)))

def isGroupNameStart (c : Char) : Bool := c == '_' || (Text.isWordChar c && !Text.isAnyDigit c)

def isGroupNameChar (c : Char) : Bool :=
  Text.isWordChar c || c == '.' || c == '[' || c == ']'

def takeGroupName (isFirst : Bool) : List Char → Reading (List Char × List Char)
  | [] => fail .groupNameAtEnd []
  | c :: rest =>
    let isLegal := if isFirst then isGroupNameStart c else isGroupNameChar c
    if c = '>' then return ([], c :: rest)
    else if isLegal then do
      let (name, rest) ← takeGroupName false rest
      return (c :: name, rest)
    else fail .groupNameInvalid (c :: rest)

def readGroupName (start : List Char) : Reading (List Char) := do
  let (name, stop) ← takeGroupName true start
  if name.isEmpty then failBetween .groupNameEmpty start start
  let name := String.ofList name
  let span := Span.between start stop
  match (← get).names.lookup name with
  | some earlier => throw (.misread .groupNameDuplicate span (some earlier))
  | none =>
    modify fun progress => { progress with names := (name, span) :: progress.names }
    return stop.tail

/-! ## Patterns -/

/-- A part of a pattern, and how deeply parts are nested in it. Flags that stand alone are a part
without a pattern. -/
structure Part where
  pattern : Option Pattern
  depth : Nat

namespace Part

def leaf (pattern : Pattern) : Part := { pattern := some pattern, depth := 0 }

def flags : Part := { pattern := none, depth := 0 }

def joinedDepth (parts : List Part) : Nat :=
  let inner := parts.foldl (fun depth part => max depth part.depth) 0
  if parts.length < 2 then inner else inner + 1

def sequence (parts : List Part) : Part where
  pattern := some (parts.foldl (fun following part =>
    match part.pattern with
    | none => following
    | some pattern => .sequence pattern following) .empty)
  depth := joinedDepth parts

def choice : List Part → Part
  | [] => leaf .empty
  | first :: rest =>
    let pattern (part : Part) : Pattern := part.pattern.getD .empty
    { pattern := some (rest.foldl (fun left part => .choice left (pattern part)) (pattern first))
      depth := joinedDepth (first :: rest) }

def repeated (inner : Pattern) (depth least : Nat) (most : Option Nat) : Part :=
  { pattern := some (.repeated inner least most), depth := depth + 1 }

end Part

def dotClass (flags : Flags) : CharClass :=
  if flags.dotAll then .range 0 0x10FFFF
  else if flags.carriageReturns then .negate (.spans [(10, 10), (13, 13)])
  else .negate (.range 10 10)

def readLeaf (flags : Flags) (start : List Char) : Reading (Part × List Char) :=
  match start with
  | [] => return (.leaf .empty, [])
  | '\\' :: _ => do
    let (escape, rest) ← readEscape flags start
    match escape with
    | .literal c isByte =>
      if flags.ascii && isByte && 127 < c.toNat then noteFault .notUtf8 start rest
      return (.leaf (.charClass (foldedChar flags c)), rest)
    | .charClass members => return (.leaf (.charClass members), rest)
    | .assertion claim => return (.leaf (.assertion claim), rest)
  | '.' :: rest => do
    if flags.ascii then noteFault .notUtf8 start rest
    return (.leaf (.charClass (dotClass flags)), rest)
  | '^' :: rest =>
    let claim : Assertion := if flags.multiLine then .lineStart flags.carriageReturns else .textStart
    return (.leaf (.assertion claim), rest)
  | '$' :: rest =>
    let claim : Assertion := if flags.multiLine then .lineEnd flags.carriageReturns else .textEnd
    return (.leaf (.assertion claim), rest)
  | c :: rest => return (.leaf (.charClass (foldedChar flags c)), rest)

mutual

/-- Reads alternatives up to the end of the text or a closing parenthesis, which is left over;
`parts` are those of the current alternative, in reverse. -/
def readChoice (fuel : Nat) (flags : Flags) (parts : List Part) (text : List Char) :
    Reading (List Part × List Char) :=
  match fuel with
  | 0 => return ([], [])
  | fuel + 1 =>
    let start := skipSpaced flags text
    let repeatLast (read : Reading (Nat × Option Nat × List Char)) :
        Reading (List Part × List Char) :=
      match parts with
      | { pattern := some inner, depth } :: before => do
        let (least, most, rest) ← read
        readChoice fuel flags (.repeated inner depth least most :: before) rest
      | _ => fail .repetitionMissing start
    let repeatMark (least : Nat) (most : Option Nat) (rest : List Char) :
        Reading (List Part × List Char) :=
      repeatLast (return (least, most, (Text.afterStart? ['?'] rest).getD rest))
    match start with
    | [] => return ([.sequence parts], [])
    | ')' :: _ => return ([.sequence parts], start)
    | '|' :: rest => do
      let (others, rest) ← readChoice fuel flags [] rest
      return (.sequence parts :: others, rest)
    | '*' :: rest => repeatMark 0 none rest
    | '+' :: rest => repeatMark 1 none rest
    | '?' :: rest => repeatMark 0 (some 1) rest
    | '\x7b' :: _ => repeatLast (readBounds flags start)
    | '(' :: _ => do
      let (part, flags, rest) ← readGroup fuel flags start
      readChoice fuel flags (part :: parts) rest
    | '[' :: _ => do
      let (members, depth, rest) ← readClass (2 * start.length + 2) flags start
      let part : Part := { pattern := some (.charClass members), depth := depth }
      readChoice fuel flags (part :: parts) rest
    | start => do
      let (part, rest) ← readLeaf flags start
      readChoice fuel flags (part :: parts) rest

def readGroup (fuel : Nat) (flags : Flags) (openAt : List Char) :
    Reading (Part × Flags × List Char) :=
  match fuel with
  | 0 => fail .groupUnclosed openAt
  | fuel + 1 =>
    let body (inner : Flags) (rest : List Char) : Reading (Part × Flags × List Char) := do
      let (branches, rest) ← readChoice fuel inner [] rest
      let part := Part.choice branches
      match rest with
      | ')' :: rest => return ({ part with depth := part.depth + 1 }, flags, rest)
      | _ => fail .groupUnclosed openAt
    let named (rest : List Char) : Reading (Part × Flags × List Char) := do
      body flags (← readGroupName rest)
    match skipSpaced flags openAt.tail with
    | '?' :: '=' :: rest => failBetween .lookAround openAt rest
    | '?' :: '!' :: rest => failBetween .lookAround openAt rest
    | '?' :: '<' :: '=' :: rest => failBetween .lookAround openAt rest
    | '?' :: '<' :: '!' :: rest => failBetween .lookAround openAt rest
    | '?' :: 'P' :: '<' :: rest => named rest
    | '?' :: '<' :: rest => named rest
    | ['?'] => fail .groupUnclosed openAt
    | '?' :: rest => do
      let (inner, after) ← readFlags [] true flags rest
      match after with
      | ':' :: following => body inner following
      | after =>
        if after.length = rest.length then failBetween .repetitionMissing ('?' :: rest) ('?' :: rest)
        return (.flags, inner, after.tail)
    | rest => body flags rest

end

def read (text : String) : Except Fault Pattern :=
  let characters := text.toList
  let whole : Reading Part := do
    let (branches, rest) ← readChoice (2 * characters.length + 2) .initial [] characters
    if !rest.isEmpty then fail .groupUnopened rest
    return Part.choice branches
  match whole.run { names := [], late := none } with
  | .error fault => .error fault
  | .ok (part, progress) =>
    let pattern := part.pattern.getD .empty
    if nestingLimit < part.depth then .error (.between .nestingTooDeep characters [])
    else
      match progress.late with
      | some fault => .error fault
      | none => if pattern.weight ≤ weightLimit then .ok pattern else .error .tooLarge

end Ussd.Pattern
