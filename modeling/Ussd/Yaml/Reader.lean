import Ussd.Yaml.BlockText
import Ussd.Yaml.Scalar
import Ussd.Yaml.Unquoted
/-!
# Reading YAML

One document with block and bracketed collections, the five kinds of scalars, anchors and tags.
Blocks are told apart by the column where their entries begin. A node is read below a parent, whose
column it must exceed; only a sequence that is the value of a key may begin in the key's own column.
-/

namespace Ussd.Yaml

structure Site where
  cursor : Cursor
  anchors : List (String × Node)

namespace Site

def moveTo (site : Site) (cursor : Cursor) : Site := { site with cursor := cursor }

def skip (site : Site) (count : Nat) : Site := site.moveTo (site.cursor.skip count)

def skipGap (site : Site) (bracketed tabs : Bool) : Site :=
  site.moveTo (site.cursor.skipGap bracketed tabs)

def isAt (site : Site) (marks : List Char) : Bool :=
  match site.cursor.rest with
  | [] => false
  | c :: _ => marks.contains c

def isAtAlone (site : Site) (mark : Char) : Bool := startsAlone mark site.cursor.rest

end Site

/-! ## Names and kinds of nodes -/

structure Properties where
  anchor : Option String
  /-- The kind without its mark; empty for a kind of the author's own. -/
  kind : Option String

def Properties.none : Properties := { anchor := .none, kind := .none }

def isNameChar (c : Char) : Bool := c.isAlphanum || c == '_' || c == '-'

def readName (cursor : Cursor) : Option (String × Cursor) :=
  let name := (cursor.rest.drop 1).takeWhile isNameChar
  let after := cursor.skip (name.length + 1)
  let isComplete := atBlank after.rest ||
    (match after.rest with
      | [] => true
      | c :: _ => "?:,]\x7d%@`".toList.contains c)
  if name.isEmpty || !isComplete then none else some (String.ofList name, after)

def standardKind : List Char := "tag:yaml.org,2002:".toList

def kindOf (tag : List Char) : String :=
  match tag with
  | '!' :: '!' :: name => String.ofList name
  | '!' :: '<' :: name =>
    match (Text.afterStart? standardKind name).bind (Text.beforeEnd? ['>']) with
    | some name => String.ofList name
    | none => ""
  | _ => ""

def readTag (bracketed : Bool) (cursor : Cursor) : String × Cursor :=
  let tag := cursor.rest.takeWhile fun c =>
    !(atBlank [c]) && !(bracketed && ",[]\x7b\x7d".toList.contains c)
  (kindOf tag, cursor.skip tag.length)

def readPropertiesUpTo (most : Nat) (bracketed : Bool) (properties : Properties) (cursor : Cursor) :
    Option (Properties × Cursor) :=
  match most, cursor.rest with
  | most + 1, '&' :: _ =>
    if properties.anchor.isSome then none
    else
      (readName cursor).bind fun parts =>
        readPropertiesUpTo most bracketed { properties with anchor := some parts.1 }
          parts.2.skipBlanks
  | most + 1, '!' :: _ =>
    if properties.kind.isSome then none
    else
      let parts := readTag bracketed cursor
      readPropertiesUpTo most bracketed { properties with kind := some parts.1 }
        parts.2.skipBlanks
  | _, _ => some (properties, cursor)

def readProperties (bracketed : Bool) (cursor : Cursor) : Option (Properties × Cursor) :=
  readPropertiesUpTo 3 bracketed .none cursor

def declare (properties : Properties) (node : Node) : Node :=
  match properties.kind, node with
  | some kind, .plain scalar =>
    .plain { scalar with
      value := if kind.isEmpty then none else declaredValue? kind scalar.source }
  | some kind, .text source =>
    .plain { source := source, double := none,
             value := if kind.isEmpty then none else declaredValue? kind source }
  | _, node => node

def settle (properties : Properties) (node : Node) (site : Site) : Node × Site :=
  let node := declare properties node
  match properties.anchor with
  | some name => (node, { site with anchors := (name, node) :: site.anchors })
  | none => (node, site)

/-! ## Scalars -/

def readAlias (site : Site) : Option (Node × Site) := do
  let (name, cursor) ← readName site.cursor
  let (_, node) ← site.anchors.find? (·.1 == name)
  return (node, site.moveTo cursor)

def readScalar (bracketed : Bool) (indent : Nat) (site : Site) : Option (Node × Site) :=
  match site.cursor.rest with
  | '*' :: _ => readAlias site
  | '"' :: _ => (readQuoted true site.cursor).map fun parts => (.text parts.1, site.moveTo parts.2)
  | '\'' :: _ =>
    (readQuoted false site.cursor).map fun parts => (.text parts.1, site.moveTo parts.2)
  | _ =>
    (readUnquoted bracketed indent site.cursor).map fun parts =>
      (.plain (unquoted parts.1), site.moveTo parts.2)

def keyText? : Node → Option String
  | .text value => some value
  | .plain scalar => some scalar.source
  | _ => none

def nestingLimit : Nat := 128

def limitNesting (depth : Nat) (node : Node) : Node := if depth < nestingLimit then node else .unread

/-! ## Between brackets -/

mutual

/-- Reads a node between brackets, `depth` counting the collections around it. -/
def readBracketed (fuel depth : Nat) (site : Site) : Option (Node × Site) :=
  match fuel with
  | 0 => none
  | fuel + 1 => do
    let (properties, cursor) ← readProperties true site.cursor
    let site := (site.moveTo cursor).skipGap true true
    if site.cursor.isAtMarker then none
    else
      match site.cursor.rest with
      | '[' :: _ =>
        let (items, site) ← readBracketedItems fuel (depth + 1) (site.skip 1)
        return settle properties (limitNesting depth (.list items)) site
      | '\x7b' :: _ =>
        let (entries, site) ← readBracketedEntries fuel (depth + 1) (site.skip 1)
        return settle properties (limitNesting depth (.map entries)) site
      | _ =>
        if (properties.anchor.isSome || properties.kind.isSome)
            && site.isAt [',', ']', '\x7d', ':'] then
          return settle properties nothing site
        let (node, site) ← readScalar true 0 site
        return settle properties node site

def readBracketedItems (fuel depth : Nat) (site : Site) : Option (List Node × Site) :=
  match fuel with
  | 0 => none
  | fuel + 1 => do
    let start := site.skipGap true true
    if start.isAt [']'] then return ([], start.skip 1)
    let (node, site) ← readBracketed fuel depth start
    let site := site.skipGap true true
    let (item, site) ←
      if site.isAt [':'] && site.cursor.line == start.cursor.line then do
        let (value, site) ← readBracketedValue fuel (depth + 1) (site.skip 1)
        pure (limitNesting depth (.map [(keyText? node, value)]), site)
      else pure (node, site)
    if site.isAt [','] then
      let (items, site) ← readBracketedItems fuel depth (site.skip 1)
      return (item :: items, site)
    else if site.isAt [']'] then return ([item], site.skip 1)
    else none

def readBracketedValue (fuel depth : Nat) (site : Site) : Option (Node × Site) :=
  match fuel with
  | 0 => none
  | fuel + 1 => do
    let site := site.skipGap true true
    if site.isAt [',', ']', '\x7d'] then return (nothing, site)
    let (value, site) ← readBracketed fuel depth site
    return (value, site.skipGap true true)

def readBracketedEntries (fuel depth : Nat) (site : Site) :
    Option (List (Option String × Node) × Site) :=
  match fuel with
  | 0 => none
  | fuel + 1 => do
    let start := site.skipGap true true
    if start.isAt ['\x7d'] then return ([], start.skip 1)
    let start := if start.isAt ['?'] then (start.skip 1).skipGap true true else start
    let (key, site) ← readBracketed fuel depth start
    let site := site.skipGap true true
    let (value, site) ←
      if site.isAt [':'] && site.cursor.line == start.cursor.line then
        readBracketedValue fuel depth (site.skip 1)
      else pure (nothing, site)
    let entry := (keyText? key, value)
    if site.isAt [','] then
      let (entries, site) ← readBracketedEntries fuel depth (site.skip 1)
      return (entry :: entries, site)
    else if site.isAt ['\x7d'] then return ([entry], site.skip 1)
    else none

end

/-! ## Blocks -/

def isBelow (parent : Option Nat) (mayAlign : Bool) (site : Site) : Bool :=
  match parent with
  | none => true
  | some column =>
    decide (column < site.cursor.column)
      || (mayAlign && column == site.cursor.column && site.isAtAlone '-')

mutual

/-- Reads a node below a parent. A node in the line of a key, `inline`, is no block collection by
itself; it may be a sequence in the key's column if that `mayAlign`. -/
def readNode (fuel depth : Nat) (parent : Option Nat) (inline mayAlign : Bool) (site : Site) :
    Option (Node × Site) :=
  match fuel with
  | 0 => none
  | fuel + 1 => do
    let start := site.cursor
    let (properties, cursor) ← readProperties false start
    if properties.anchor.isNone && properties.kind.isNone then
      readContent fuel depth parent inline false start.column properties site
    else
      let site := (site.moveTo cursor).skipGap false true
      if site.cursor.isAtEnd then return settle properties nothing site
      else if site.cursor.line == start.line then
        readContent fuel depth parent inline true start.column properties site
      else if isBelow parent mayAlign site then
        let (node, site) ←
          readContent fuel depth parent false false site.cursor.column .none site
        return settle properties node site
      else return settle properties nothing site

/-- Reads a node after its properties, which are `marked` if they stand in the same line and then
belong to the first key where the node is a map. The node begins in column `column`. -/
def readContent (fuel depth : Nat) (parent : Option Nat) (inline marked : Bool) (column : Nat)
    (properties : Properties) (site : Site) : Option (Node × Site) :=
  match fuel with
  | 0 => none
  | fuel + 1 => do
    if site.isAtAlone '-' then
      if inline || marked then none
      let (items, site) ← readItems fuel (depth + 1) column (parent == some column) site
      return settle properties (limitNesting depth (.list items)) site
    else if site.isAtAlone '?' then
      if inline || marked then none
      let (entries, site) ← readEntries fuel (depth + 1) column site
      return settle properties (limitNesting depth (.map entries)) site
    else if site.isAt ['|', '>'] then
      let (text, cursor) ← readBlockText parent site.cursor
      return settle properties (.text text) (site.moveTo cursor)
    else if site.isAt ['[', '\x7b'] then
      let (node, site) ← readBracketed fuel depth site
      return settle properties node site
    else
      let line := site.cursor.line
      let (scalar, site) ← readScalar false ((parent.map (· + 1)).getD 0) site
      let after := site.moveTo site.cursor.skipBlanks
      if after.isAtAlone ':' && after.cursor.line == line then
        if inline then none
        let (key, site) := settle properties scalar after
        let (value, site) ← readValue fuel (depth + 1) column true (site.skip 1)
        let (entries, site) ← readMoreEntries fuel (depth + 1) column site
        return (limitNesting depth (.map ((keyText? key, value) :: entries)), site)
      else return settle properties scalar site

/-- Reads the items of a sequence at the dash of the first one. A sequence in the column of its key
is `aligned`: the next key ends it. -/
def readItems (fuel depth column : Nat) (aligned : Bool) (site : Site) : Option (List Node × Site) :=
  match fuel with
  | 0 => none
  | fuel + 1 => do
    let line := site.cursor.line
    let site := (site.skip 1).skipGap false false
    let (item, site) ←
      if site.cursor.isAtEnd then pure (nothing, site)
      else if site.cursor.line == line || decide (column < site.cursor.column) then
        readNode fuel depth (some column) false false site
      else pure (nothing, site)
    let site := site.skipGap false true
    if site.cursor.isAtEnd || decide (site.cursor.column < column) then return ([item], site)
    else if site.cursor.column == column && site.isAtAlone '-' then
      let (items, site) ← readItems fuel depth column aligned site
      return (item :: items, site)
    else if site.cursor.column == column && aligned then return ([item], site)
    else none

/-- Reads what follows a colon or a question mark. After the key of an entry, `inline`, no block
collection may begin in the same line. -/
def readValue (fuel depth column : Nat) (inline : Bool) (site : Site) : Option (Node × Site) :=
  match fuel with
  | 0 => none
  | fuel + 1 =>
    let after := site.skipGap false inline
    if after.cursor.isAtEnd then some (nothing, after)
    else if after.cursor.line == site.cursor.line then
      readNode fuel depth (some column) inline true after
    else if isBelow (some column) true after then
      readNode fuel depth (some column) false true after
    else some (nothing, after)

def readEntries (fuel depth column : Nat) (site : Site) :
    Option (List (Option String × Node) × Site) :=
  match fuel with
  | 0 => none
  | fuel + 1 => do
    let (entry, site) ←
      if site.isAtAlone '?' then readMarkedEntry fuel depth column site
      else readEntry fuel depth column site
    let (entries, site) ← readMoreEntries fuel depth column site
    return (entry :: entries, site)

def readMarkedEntry (fuel depth column : Nat) (site : Site) :
    Option ((Option String × Node) × Site) :=
  match fuel with
  | 0 => none
  | fuel + 1 => do
    let (key, site) ← readValue fuel depth column false (site.skip 1)
    let site := site.skipGap false true
    let (value, site) ←
      if site.cursor.column == column && site.isAtAlone ':' then
        readValue fuel depth column false (site.skip 1)
      else pure (nothing, site)
    return ((keyText? key, value), site)

def readEntry (fuel depth column : Nat) (site : Site) :
    Option ((Option String × Node) × Site) :=
  match fuel with
  | 0 => none
  | fuel + 1 => do
    let line := site.cursor.line
    let (properties, cursor) ← readProperties false site.cursor
    let (scalar, site) ← readScalar false (column + 1) (site.moveTo cursor)
    let (key, site) := settle properties scalar (site.moveTo site.cursor.skipBlanks)
    if site.isAtAlone ':' && site.cursor.line == line then
      let (value, site) ← readValue fuel depth column true (site.skip 1)
      return ((keyText? key, value), site)
    else none

def readMoreEntries (fuel depth column : Nat) (site : Site) :
    Option (List (Option String × Node) × Site) :=
  match fuel with
  | 0 => none
  | fuel + 1 =>
    let site := site.skipGap false true
    if site.cursor.isAtEnd || decide (site.cursor.column < column) then some ([], site)
    else if site.cursor.column == column then readEntries fuel depth column site
    else none

end

/-! ## Documents -/

def isAllowed (c : Char) : Bool :=
  let code := c.toNat
  code == 9 || code == 10 || code == 13 || (32 ≤ code && code ≤ 126) || code == 0x85
    || (0xA0 ≤ code && code != 0xFEFF && code != 0xFFFE && code != 0xFFFF)

def unifyBreaks : List Char → List Char
  | [] => []
  | '\r' :: '\n' :: rest => '\n' :: unifyBreaks rest
  | '\r' :: rest => '\n' :: unifyBreaks rest
  | c :: rest => (if c.toNat = 0x85 then '\n' else c) :: unifyBreaks rest

def withoutOrderMark : List Char → List Char
  | [] => []
  | c :: rest => if c.toNat = 0xFEFF then rest else c :: rest

def skipDirectives (fuel : Nat) (found : Bool) (cursor : Cursor) : Bool × Cursor :=
  match fuel, cursor.rest with
  | fuel + 1, '%' :: rest =>
    let next : Cursor :=
      { rest := rest.dropWhile (· != '\n'), column := 0, line := cursor.line }
    skipDirectives fuel true (next.skipGap false false)
  | _, _ => (found, cursor)

/-- The place where the content of a document begins, and whether that is in the line of its
opening marker; nothing if directives are not followed by one. -/
def openDocument (cursor : Cursor) : Option (Bool × Cursor) :=
  let (found, cursor) := skipDirectives cursor.rest.length false cursor
  if cursor.column == 0 && startsMarker '-' cursor.rest then
    let after := (cursor.skip 3).skipGap false true
    some (after.line == cursor.line, after)
  else if found then none
  else some (false, cursor)

def isClosed (fuel : Nat) (cursor : Cursor) : Bool :=
  match fuel with
  | 0 => false
  | fuel + 1 =>
    cursor.rest.isEmpty
      || (cursor.column == 0 && startsMarker '.' cursor.rest
        && isClosed fuel ((cursor.skip 3).skipGap false false))

def readDocument? (text : String) : Option Node := do
  let chars := withoutOrderMark text.toList
  if !chars.all isAllowed then none
  let chars := unifyBreaks chars
  let start : Cursor := { rest := chars, column := 0, line := 0 }
  let (inline, cursor) ← openDocument (start.skipGap false false)
  let site : Site := { cursor := cursor, anchors := [] }
  let fuel := 4 * chars.length + 8
  let (node, site) ←
    if cursor.isAtEnd then pure (nothing, site) else readNode fuel 0 none inline false site
  let site := site.skipGap false true
  if isClosed chars.length.succ site.cursor then return node else none

end Ussd.Yaml
