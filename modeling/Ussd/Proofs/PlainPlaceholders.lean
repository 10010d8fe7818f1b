import Ussd.Message.Render
import Ussd.Proofs.Pipelines
import Ussd.Proofs.TemplatePrinting

/-! # Plain placeholders

Messages have a renderer of their own, and everything else that is sent has another. Both show a
placeholder with a path of names and with filters in the same way: the value at the path goes through
the filters. They differ on the few words that are numerals of doubles as well. -/

namespace Ussd.Placeholder

/-! ## Writing -/

def isNameInitial (c : Char) : Bool := c.isAlpha || c == '_'

def isNameChar (c : Char) : Bool := c.isAlphanum || c == '_'

/-- An identifier in ASCII. -/
structure Name where
  initial : Char
  others : List Char
  isInitial : isNameInitial initial
  areNameChars : ∀ c ∈ others, isNameChar c

def Name.text (name : Name) : List Char := name.initial :: name.others

/-- Text that holds no brace. -/
abbrev Braceless := { text : List Char // ∀ c ∈ text, isBrace c = false }

structure Call where
  filter : Name
  /-- What stands between double quotes. -/
  argument : Option { text : Braceless // '"' ∉ text.1 }

def Call.text (call : Call) : List Char :=
  match call.argument with
  | none => call.filter.text
  | some argument => call.filter.text ++ ':' :: ('"' :: argument.1.1 ++ ['"'])

def callsText (calls : List Call) : List Char :=
  calls.flatMap fun call => ' ' :: '|' :: ' ' :: call.text

/-- A dotted path and the filters that its value goes through. -/
structure PlainSlot where
  first : Name
  rest : List Name
  calls : List Call

def PlainSlot.path (slot : PlainSlot) : List Char :=
  slot.first.text ++ slot.rest.flatMap fun name => '.' :: name.text

def PlainSlot.inside (slot : PlainSlot) : List Char := slot.path ++ callsText slot.calls

/-- Texts and placeholders in turn. -/
structure PlainTemplate where
  slots : List (Braceless × PlainSlot)
  ending : Braceless

def PlainTemplate.text (template : PlainTemplate) : List Char :=
  template.slots.flatMap (fun entry => entry.1.1 ++ Message.tagText entry.2.inside) ++
    template.ending.1

def applyCalls (value : Json) (calls : List Call) : Json :=
  calls.foldl (fun value call =>
    applyFilter call.filter.text (call.argument.map fun argument => argument.1.1) value) value

/-- What a template shows if `valueOf` tells what its placeholders stand for. -/
def PlainTemplate.shown (template : PlainTemplate) (valueOf : PlainSlot → Json) : List Char :=
  template.slots.flatMap (fun entry =>
    entry.1.1 ++ (applyCalls (valueOf entry.2) entry.2.calls).display.toList) ++
    template.ending.1

def PlainSlot.valueIn (data : Json) (slot : PlainSlot) : Json := (data.lookup slot.path).getD .null

/-- Whether the path is one of the words for a double that is not finite. -/
def PlainSlot.isNumberWord (slot : PlainSlot) : Bool :=
  ["inf", "infinity", "nan"].contains (String.ofList (slot.path.map Char.toLower))

/-- The path is no word with a meaning of its own. -/
structure PlainSlot.IsOrdinary (slot : PlainSlot) : Prop where
  notThis : slot.first.text ≠ "this".toList
  noKeyword : String.ofList slot.path ∉ ["else", "true", "false", "null"]

/-! ## The characters of names -/

theorem isNameChar_of_isNameInitial {c : Char} (isInitial : isNameInitial c) : isNameChar c := by
  simp only [isNameInitial, isNameChar, Char.isAlphanum, Bool.or_eq_true] at isInitial ⊢
  rcases isInitial with isAlpha | isLine
  · exact .inl (.inl isAlpha)
  · exact .inr isLine

theorem isBlank_of_isNameChar {c : Char} (isName : isNameChar c) : Text.isBlank c = false :=
  Text.isBlank_of_class isNameChar (by decide) isName

/-- No character of a name means something in a tag or a pipeline. -/
theorem plain_of_isNameChar {c : Char} (isName : isNameChar c) :
    Pipeline.isQuote c = false ∧ c ≠ '|' ∧ isBrace c = false ∧ c ≠ '~' ∧ c ≠ ':' ∧ c ≠ '.' := by
  have noMark : c ∉ ['"', '\'', '|', '\x7b', '\x7d', '~', ':', '.'] := by
    intro isMark
    simp only [List.mem_cons, List.not_mem_nil, or_false] at isMark
    rcases isMark with rfl | rfl | rfl | rfl | rfl | rfl | rfl | rfl <;> revert isName <;> decide
  simp only [List.mem_cons, not_or] at noMark
  simp [Pipeline.isQuote, isBrace, noMark]

theorem initial_not_mem {c : Char} (isInitial : isNameInitial c) :
    c ∉ ['#', '/', '!', '@', '+', '-'] ∧ c.isDigit = false := by
  constructor
  · intro isMark
    simp only [List.mem_cons, List.not_mem_nil, or_false] at isMark
    rcases isMark with rfl | rfl | rfl | rfl | rfl | rfl <;> revert isInitial <;> decide
  · cases isDigit : c.isDigit with
    | false => rfl
    | true =>
        simp only [Char.isDigit, Bool.and_eq_true, decide_eq_true_eq, ge_iff_le,
          UInt32.le_iff_toNat_le] at isDigit
        have bounds : 48 ≤ c.toNat ∧ c.toNat ≤ 57 := isDigit
        have noInitial : ∀ code ∈ List.range' 48 10, isNameInitial (Char.ofNat code) = false := by
          decide
        have notInitial := noInitial c.toNat (by rw [List.mem_range'_1]; omega)
        rw [Char.ofNat_toNat, isInitial] at notInitial
        cases notInitial

theorem Name.isNameChar {name : Name} {c : Char} (isMember : c ∈ name.text) :
    Placeholder.isNameChar c := by
  rcases List.mem_cons.mp isMember with rfl | isOther
  · exact isNameChar_of_isNameInitial name.isInitial
  · exact name.areNameChars c isOther

theorem PlainSlot.path_eq (slot : PlainSlot) : ∃ more, slot.path = slot.first.initial :: more :=
  ⟨_, rfl⟩

theorem PlainSlot.mem_path {slot : PlainSlot} {c : Char} (isMember : c ∈ slot.path) :
    isNameChar c ∨ c = '.' := by
  rcases List.mem_append.mp isMember with inFirst | inRest
  · exact .inl (Name.isNameChar inFirst)
  · rcases List.mem_flatMap.mp inRest with ⟨name, -, inName⟩
    rcases List.mem_cons.mp inName with isDot | inText
    · exact .inr isDot
    · exact .inl (Name.isNameChar inText)

theorem PlainSlot.path_notBlank (slot : PlainSlot) : ∀ c ∈ slot.path, Text.isBlank c = false := by
  intro c isMember
  rcases PlainSlot.mem_path isMember with isName | rfl
  · exact isBlank_of_isNameChar isName
  · decide

/-! ## What is read of a placeholder -/

theorem Name.isPart (name : Name) : Pipeline.IsPart name.text := by
  apply Pipeline.isPart_of_plain
  intro c isMember
  have plain := plain_of_isNameChar (Name.isNameChar isMember)
  exact ⟨plain.1, plain.2.1⟩

theorem PlainSlot.isPart_path (slot : PlainSlot) : Pipeline.IsPart slot.path := by
  apply Pipeline.isPart_of_plain
  intro c isMember
  rcases PlainSlot.mem_path isMember with isName | rfl
  · have plain := plain_of_isNameChar isName
    exact ⟨plain.1, plain.2.1⟩
  · decide

/-- A call as a filter of any pipeline. -/
def Call.written (call : Call) : Pipeline.WrittenFilter where
  name := call.filter.text
  argument := call.argument.map fun argument => argument.1.1
  namePlain := fun c isMember => by
    have plain := plain_of_isNameChar (Name.isNameChar isMember)
    exact ⟨plain.1, plain.2.1, plain.2.2.2.2.1⟩
  nameTrimmed := Text.trim_of_forall fun c isMember =>
    isBlank_of_isNameChar (Name.isNameChar isMember)
  unquoted := fun text isText => by
    rcases Option.map_eq_some_iff.mp isText with ⟨argument, -, rfl⟩
    exact argument.2

theorem append_callsText (text : List Char) (calls : List Call) :
    text ++ callsText calls = Pipeline.written text (calls.map Call.written) := by
  have sameText (call : Call) : call.written.text = call.text := by
    cases isArgument : call.argument with
    | none => simp [Pipeline.WrittenFilter.text, Call.written, Call.text, isArgument]
    | some argument => simp [Pipeline.WrittenFilter.text, Call.written, Call.text, isArgument]
  simp [Pipeline.written, callsText, List.flatMap_map, sameText]

/-- Only the blanks before the bars are added to the parts of a placeholder. -/
theorem split_callsText {text : List Char} (isPart : Pipeline.IsPart text) (calls : List Call) :
    ∃ blanks segments, (∀ c ∈ blanks, Text.isBlank c) ∧
      Pipeline.split (text ++ callsText calls) = (text ++ blanks) :: segments ∧
      segments.map Pipeline.parseFilter =
        calls.map fun call => (call.filter.text, call.argument.map fun argument => argument.1.1) := by
  rcases Pipeline.split_written isPart (calls.map Call.written) with
    ⟨blanks, segments, areBlank, isSplit, parsed⟩
  rw [← append_callsText] at isSplit
  rw [List.map_map] at parsed
  exact ⟨blanks, segments, areBlank, isSplit, parsed⟩

theorem applySegments_of_parsed {segments : List (List Char)} {calls : List Call}
    (parsed : segments.map Pipeline.parseFilter =
      calls.map fun call => (call.filter.text, call.argument.map fun argument => argument.1.1))
    (value : Json) : Pipeline.applySegments value segments = applyCalls value calls := by
  rw [Pipeline.applySegments_eq_foldl, parsed, List.foldl_map]
  rfl

theorem evaluate_inside (slot : PlainSlot) (data : Json) :
    evaluate slot.inside data = applyCalls (slot.valueIn data) slot.calls := by
  rw [PlainSlot.inside, append_callsText, Pipeline.evaluate_written slot.isPart_path,
    List.foldl_map]
  rfl

/-! ## Templates of requests -/

theorem segments_append_braceless (text : Braceless) (rest : List Char) :
    segments (text.1 ++ rest) = text.1.map .literal ++ segments rest := by
  rcases text with ⟨text, braceless⟩
  induction text with
  | nil => rfl
  | cons c text induction =>
      rcases List.forall_mem_cons.mp braceless with ⟨notBrace, textBraceless⟩
      have notOpen : placeholderAt? (c :: (text ++ rest)) = none := by
        unfold placeholderAt?
        split
        · rename_i starts
          injection starts with isBrace
          subst isBrace
          cases notBrace
        · rfl
      simp only [List.cons_append, List.map_cons]
      rw [segments]
      split
      · rename_i found
        rw [notOpen] at found
        cases found
      · rw [induction textBraceless]

theorem segments_tagText {inside : List Char} (nonempty : inside ≠ [])
    (braceless : ∀ c ∈ inside, isBrace c = false) (rest : List Char) :
    segments (Message.tagText inside ++ rest) = .placeholder inside :: segments rest := by
  have opens : placeholderAt? (Message.tagText inside ++ rest) = some (inside, rest) := by
    have layout : Message.tagText inside ++ rest =
        '\x7b' :: '\x7b' :: (inside ++ '\x7d' :: '\x7d' :: rest) := by
      simp [Message.tagText, Message.openTag, Message.closeTag]
    have passes : ∀ c ∈ inside, (!isBrace c) = true := by
      intro c isMember
      rw [braceless c isMember]
      rfl
    have taken : (inside ++ '\x7d' :: '\x7d' :: rest).takeWhile (!isBrace ·) = inside := by
      rw [List.takeWhile_append_of_pos passes]
      simp [isBrace]
    have dropped : (inside ++ '\x7d' :: '\x7d' :: rest).dropWhile (!isBrace ·) =
        '\x7d' :: '\x7d' :: rest := by
      rw [List.dropWhile_append_of_pos passes]
      simp [isBrace]
    simp [layout, placeholderAt?, taken, dropped, nonempty]
  generalize Message.tagText inside ++ rest = text at opens
  cases text with
  | nil => cases opens
  | cons c text =>
      rw [segments]
      split
      · rename_i found
        rw [opens] at found
        cases found
        rfl
      · rename_i found
        rw [opens] at found
        cases found

theorem segments_of_braceless (text : Braceless) : segments text.1 = text.1.map .literal := by
  have read := segments_append_braceless text []
  rwa [List.append_nil, segments, List.append_nil] at read

theorem flatMap_literals (data : Json) (text : List Char) :
    (text.map Segment.literal).flatMap (renderSegment data) = text := by
  simp [List.flatMap_map, renderSegment]

theorem render_of_braceless {text : String} (braceless : ∀ c ∈ text.toList, isBrace c = false)
    (data : Json) : render text data = text := by
  rw [render, renderChars, segments_of_braceless ⟨text.toList, braceless⟩, flatMap_literals,
    String.ofList_toList]

theorem render_tagText {inside : List Char} (nonempty : inside ≠ [])
    (braceless : ∀ c ∈ inside, isBrace c = false) (data : Json) :
    render (String.ofList (Message.tagText inside)) data = (evaluate inside data).display := by
  have read := segments_tagText nonempty braceless []
  rw [List.append_nil, segments] at read
  rw [render, String.toList_ofList, renderChars, read]
  simp [renderSegment]

theorem braceless_of_isNameChar {c : Char} (isName : isNameChar c) : isBrace c = false :=
  (plain_of_isNameChar isName).2.2.1

theorem callsText_braceless (calls : List Call) : ∀ c ∈ callsText calls, isBrace c = false := by
  intro c isMember
  rcases List.mem_flatMap.mp isMember with ⟨call, -, inCall⟩
  simp only [List.mem_cons] at inCall
  rcases inCall with rfl | rfl | rfl | inText
  · decide
  · decide
  · decide
  · unfold Call.text at inText
    split at inText
    · exact braceless_of_isNameChar (Name.isNameChar inText)
    · rename_i argument _
      simp only [List.mem_append, List.mem_cons, List.not_mem_nil, or_false] at inText
      rcases inText with inName | rfl | (rfl | inArgument) | rfl
      · exact braceless_of_isNameChar (Name.isNameChar inName)
      · decide
      · decide
      · exact argument.1.2 c inArgument
      · decide

theorem PlainSlot.inside_braceless (slot : PlainSlot) : ∀ c ∈ slot.inside, isBrace c = false := by
  intro c isMember
  rcases List.mem_append.mp isMember with inPath | inCalls
  · rcases PlainSlot.mem_path inPath with isName | rfl
    · exact braceless_of_isNameChar isName
    · decide
  · exact callsText_braceless slot.calls c inCalls

theorem PlainSlot.inside_ne_nil (slot : PlainSlot) : slot.inside ≠ [] := nofun

theorem renderChars_text (template : PlainTemplate) (data : Json) :
    renderChars template.text data = template.shown (PlainSlot.valueIn data) := by
  rcases template with ⟨slots, ending⟩
  induction slots with
  | nil =>
      simp [PlainTemplate.text, PlainTemplate.shown, renderChars, segments_of_braceless,
        flatMap_literals]
  | cons entry slots induction =>
      simp only [renderChars, PlainTemplate.text, PlainTemplate.shown, List.flatMap_cons,
        List.append_assoc] at induction ⊢
      rw [segments_append_braceless, segments_tagText entry.2.inside_ne_nil
        entry.2.inside_braceless, List.flatMap_append, flatMap_literals, List.flatMap_cons,
        induction, renderSegment, evaluate_inside]

end Ussd.Placeholder

namespace Ussd.Message

open Placeholder

/-! ## Messages -/

theorem takeSign_path (slot : PlainSlot) : Text.takeSign slot.path = (false, slot.path) := by
  have noMark := (initial_not_mem slot.first.isInitial).1
  simp only [List.mem_cons, not_or] at noMark
  rcases slot.path_eq with ⟨more, isPath⟩
  rw [isPath, Text.takeSign] <;> simp [noMark]

theorem signed?_path (slot : PlainSlot) : Text.signed? slot.path = none := by
  have notDigit := (initial_not_mem slot.first.isInitial).2
  have noNatural : Text.natural? slot.path = none := by
    rcases slot.path_eq with ⟨more, isPath⟩
    simp [isPath, Text.natural?, notDigit]
  simp [Text.signed?, takeSign_path, noNatural]

/-- The words for doubles that are not finite have the value null. -/
theorem double?_path (slot : PlainSlot) :
    (Text.double? slot.path).map ofDouble = if slot.isNumberWord then some .null else none := by
  rcases initial_not_mem slot.first.isInitial with ⟨noMark, notDigit⟩
  have plain := plain_of_isNameChar (isNameChar_of_isNameInitial slot.first.isInitial)
  have noDecimal : Text.unsignedDecimal? false slot.path = none := by
    rcases slot.path_eq with ⟨more, isPath⟩
    simp [isPath, Text.unsignedDecimal?, notDigit, plain]
  simp only [Text.double?, takeSign_path, noDecimal, PlainSlot.isNumberWord]
  by_cases infinite : String.ofList (slot.path.map Char.toLower) = "inf" ∨
      String.ofList (slot.path.map Char.toLower) = "infinity"
  · rcases infinite with isWord | isWord <;> simp [isWord, ofDouble, Binary64.isFinite]
  · rw [not_or] at infinite
    by_cases isNan : String.ofList (slot.path.map Char.toLower) = "nan" <;>
      simp [infinite, isNan, ofDouble, Binary64.isFinite]

theorem ofList_path_ne {slot : PlainSlot} {word : String} {first : Char}
    (starts : word.toList.head? = some first) (notInitial : isNameInitial first = false) :
    String.ofList slot.path ≠ word := by
  rintro rfl
  rw [String.toList_ofList] at starts
  have same : slot.first.initial = first := Option.some.inj starts
  rw [← same, slot.first.isInitial] at notInitial
  cases notInitial

/-- The first name ends at the first dot. -/
theorem takeWhile_path (slot : PlainSlot) : slot.path.takeWhile (· != '.') = slot.first.text := by
  have passes : ∀ c ∈ slot.first.text, (c != '.') = true := by
    intro c isMember
    simp [plain_of_isNameChar (Name.isNameChar isMember)]
  rw [PlainSlot.path, List.takeWhile_append_of_pos passes]
  cases slot.rest <;> simp

theorem resolvePath?_path {slot : PlainSlot} (notThis : slot.first.text ≠ "this".toList)
    (data : Json) : resolvePath? [Scope.root data] slot.path = data.lookup slot.path := by
  have first := takeWhile_path slot
  have isNotThis : slot.path ≠ "this".toList := by
    intro same
    rw [same] at first
    exact notThis first.symm
  have notWithin : Text.afterStart? "this.".toList slot.path = none := by
    rw [Text.afterStart?_eq_none_iff]
    rintro ⟨rest, same⟩
    rw [← same] at first
    exact notThis first.symm
  rcases slot.path_eq with ⟨more, isPath⟩
  have notDot : slot.first.initial ≠ '.' :=
    (plain_of_isNameChar (isNameChar_of_isNameInitial slot.first.isInitial)).2.2.2.2.2
  have isNotDot : slot.path ≠ ['.'] := by
    intro same
    rw [isPath] at same
    exact notDot (List.cons.inj same).1
  have notOuter : Text.afterStart? "../".toList slot.path = none := by
    rw [Text.afterStart?_eq_none_iff]
    rintro ⟨rest, same⟩
    rw [isPath] at same
    exact notDot (List.cons.inj same).1.symm
  rw [resolvePath?, if_neg (by simp only [not_or]; exact ⟨isNotThis, isNotDot⟩), notWithin, notOuter]
  simp [Scope.root]

theorem resolve_path {slot : PlainSlot} (notThis : slot.first.text ≠ "this".toList) (data : Json) :
    resolve [Scope.root data] slot.path = slot.valueIn data := by
  unfold resolve
  dsimp only
  split
  · rename_i same
    exact absurd same (ofList_path_ne rfl rfl)
  · rename_i same
    exact absurd same (ofList_path_ne rfl rfl)
  · rename_i same
    exact absurd same (ofList_path_ne rfl rfl)
  · rename_i same
    exact absurd same (ofList_path_ne rfl rfl)
  · rw [resolvePath?_path notThis, PlainSlot.valueIn]

theorem argument_path {slot : PlainSlot} (ordinary : slot.IsOrdinary) (data : Json) :
    argument [Scope.root data] slot.path =
      if slot.isNumberWord then .null else slot.valueIn data := by
  rcases slot.path_eq with ⟨more, isPath⟩
  have plain := plain_of_isNameChar (isNameChar_of_isNameInitial slot.first.isInitial)
  have unquoted : slot.path.head?.any Pipeline.isQuote = false := by simp [isPath, plain]
  have number := double?_path slot
  have noKeyword := ordinary.noKeyword
  simp only [List.mem_cons, not_or] at noKeyword
  rw [argument, unquoted, signed?_path]
  cases isNumber : slot.isNumberWord with
  | true =>
      rw [isNumber] at number
      rcases Option.map_eq_some_iff.mp number with ⟨value, isValue, isNull⟩
      simp [isValue, isNull]
  | false =>
      rw [isNumber] at number
      have noValue : Text.double? slot.path = none := by simpa using number
      simp [noValue, noKeyword, resolve_path ordinary.notThis]

/-- What a message shows at a path. -/
def shownValue (data : Json) (slot : PlainSlot) : Json :=
  if slot.isNumberWord then .null else slot.valueIn data

/-- The text belongs to one argument, the one that is being collected if there is one. -/
def IsWord (text : List Char) : Prop :=
  ∀ current rest, splitArgumentsFrom none current (text ++ rest) =
    splitArgumentsFrom none (some (text.reverse ++ current.getD [])) rest

theorem isWord_of_plain {text : List Char} (nonempty : text ≠ [])
    (plain : ∀ c ∈ text, Pipeline.isQuote c = false ∧ Text.isBlank c = false) : IsWord text := by
  induction text with
  | nil => exact absurd rfl nonempty
  | cons c text induction =>
      rcases List.forall_mem_cons.mp plain with ⟨cPlain, textPlain⟩
      intro current rest
      cases text with
      | nil => simp [splitArgumentsFrom, cPlain]
      | cons d text =>
          have behind := induction nofun textPlain (some (c :: current.getD [])) rest
          rw [List.cons_append, splitArgumentsFrom]
          simpa [cPlain] using behind

theorem IsWord.splitArguments_self {text : List Char} (isWord : IsWord text) :
    splitArguments text = [text] := by
  have isSplit := isWord none []
  simpa [splitArguments, splitArgumentsFrom] using isSplit

theorem splitArguments_path (slot : PlainSlot) : splitArguments slot.path = [slot.path] := by
  have nonempty : slot.path ≠ [] := nofun
  refine (isWord_of_plain nonempty fun c isMember => ?_).splitArguments_self
  refine ⟨?_, slot.path_notBlank c isMember⟩
  rcases PlainSlot.mem_path isMember with isName | rfl
  · exact (plain_of_isNameChar isName).1
  · decide

theorem evaluate_inside {slot : PlainSlot} (ordinary : slot.IsOrdinary) (data : Json) :
    evaluate [Scope.root data] slot.inside = applyCalls (shownValue data slot) slot.calls := by
  rcases split_callsText slot.isPart_path slot.calls with
    ⟨blanks, segments, areBlank, isSplit, parsed⟩
  have value : argument [Scope.root data] (Text.trim (slot.path ++ blanks)) =
      shownValue data slot := by
    rw [Text.trim_append_blank areBlank, Text.trim_of_forall slot.path_notBlank,
      argument_path ordinary, shownValue]
  cases segments with
  | nil =>
      have noCalls : slot.calls = [] := (List.map_eq_nil_iff.mp parsed.symm)
      have isPath : slot.inside = slot.path := by simp [PlainSlot.inside, noCalls, callsText]
      have bare := value
      rw [Text.trim_append_blank areBlank] at bare
      simp only [isPath, evaluate, slot.isPart_path.split_self, splitArguments_path, bare, noCalls]
      rfl
  | cons segment segments =>
      simp only [evaluate, PlainSlot.inside, isSplit, value]
      exact applySegments_of_parsed parsed _

/-- The text ends in a character that no tag drops. -/
def EndsPlainly (text : List Char) : Prop :=
  ∃ c, text.getLast? = some c ∧ Text.isBlank c = false ∧ c ≠ '~'

theorem EndsPlainly.append {text : List Char} (endsPlainly : EndsPlainly text)
    (before : List Char) : EndsPlainly (before ++ text) := by
  rcases endsPlainly with ⟨c, last, plain⟩
  exact ⟨c, by simp [List.getLast?_append, last], plain⟩

theorem endsPlainly_of_forall {text : List Char} (nonempty : text ≠ [])
    (plain : ∀ c ∈ text, Text.isBlank c = false ∧ c ≠ '~') : EndsPlainly text :=
  ⟨text.getLast nonempty, List.getLast?_eq_some_getLast nonempty,
    plain _ (List.getLast_mem nonempty)⟩

theorem endsPlainly_name (name : Name) : EndsPlainly name.text := by
  refine endsPlainly_of_forall nofun fun c isMember => ?_
  have isName := Name.isNameChar isMember
  exact ⟨isBlank_of_isNameChar isName, (plain_of_isNameChar isName).2.2.2.1⟩

theorem endsPlainly_call (call : Call) : EndsPlainly call.text := by
  unfold Call.text
  split
  · exact endsPlainly_name call.filter
  · rename_i argument _
    have quote : EndsPlainly ['"'] := ⟨'"', rfl, by decide⟩
    have ends := quote.append (call.filter.text ++ ':' :: '"' :: argument.1.1)
    simpa using ends

theorem endsPlainly_inside (slot : PlainSlot) : EndsPlainly slot.inside := by
  rcases List.eq_nil_or_concat slot.calls with noCalls | ⟨calls, call, isCalls⟩
  · have isPath : slot.inside = slot.path := by simp [PlainSlot.inside, noCalls, callsText]
    rw [isPath]
    refine endsPlainly_of_forall nofun fun c isMember => ?_
    rcases PlainSlot.mem_path isMember with isName | rfl
    · exact ⟨isBlank_of_isNameChar isName, (plain_of_isNameChar isName).2.2.2.1⟩
    · decide
  · have ends := (endsPlainly_call call).append (slot.path ++ callsText calls ++ [' ', '|', ' '])
    simpa [PlainSlot.inside, isCalls, callsText] using ends

theorem inside_ne_elseTag {slot : PlainSlot} (noKeyword : String.ofList slot.path ≠ "else") :
    slot.inside ≠ elseTag := by
  intro same
  cases isCalls : slot.calls with
  | nil =>
      have isPath : slot.inside = slot.path := by simp [PlainSlot.inside, isCalls, callsText]
      rw [← isPath, same] at noKeyword
      exact noKeyword rfl
  | cons call calls =>
      have bar : '|' ∈ slot.inside := by simp [PlainSlot.inside, isCalls, callsText]
      rw [same] at bar
      revert bar
      decide

theorem isExpression_inside {slot : PlainSlot} (ordinary : slot.IsOrdinary) :
    IsExpression slot.inside := by
  rcases initial_not_mem slot.first.isInitial with ⟨noMark, -⟩
  have isName := isNameChar_of_isNameInitial slot.first.isInitial
  have notTilde := (plain_of_isNameChar isName).2.2.2.1
  have head : slot.inside.head? = some slot.first.initial := rfl
  rcases endsPlainly_inside slot with ⟨c, last, notBlank, lastNotTilde⟩
  simp only [List.mem_cons, not_or] at noMark
  have noKeyword := ordinary.noKeyword
  simp only [List.mem_cons, not_or] at noKeyword
  constructor
  · constructor
    · intro isMember
      cases slot.inside_braceless _ isMember
    · intro isMember
      cases slot.inside_braceless _ isMember
    · simpa [head] using notTilde
    · simpa [last] using lastNotTilde
  · rw [Text.trim_eq_self_iff, head, last]
    constructor
    · rintro _ ⟨⟩
      exact isBlank_of_isNameChar isName
    · rintro _ ⟨⟩
      exact notBlank
  · exact slot.inside_ne_nil
  · rw [head]
    rintro _ ⟨⟩
    simp [noMark]
  · exact inside_ne_elseTag noKeyword.1

def textPart (text : Braceless) : List Part := if text.1.isEmpty then [] else [.text text.1]

def partsOfPlain (template : PlainTemplate) : List Part :=
  template.slots.flatMap (fun entry => textPart entry.1 ++ [.expression entry.2.inside]) ++
    textPart template.ending

theorem wellFormed_textPart {rest : List Part} (text : Braceless)
    (apart : ∀ other, rest.head? ≠ some (.text other)) (wellFormed : WellFormed rest) :
    WellFormed (textPart text ++ rest) := by
  unfold textPart
  split
  · exact wellFormed
  · rename_i nonempty
    have notOpening : '\x7b' ∉ text.1 := fun isMember => by cases text.2 _ isMember
    have isText : IsText text.1 := by
      refine ⟨by simpa using nonempty, fun occurs => ?_, fun last => ?_⟩
      · exact notOpening (occurs.subset (by decide))
      · exact notOpening (List.mem_of_getLast? last)
    exact .text isText apart wellFormed

theorem print_textPart (spelled : Part → Bool) (text : Braceless) (rest : List Part) :
    printParts spelled (textPart text ++ rest) = text.1 ++ printParts spelled rest := by
  unfold textPart
  split
  · rename_i empty
    simp [List.isEmpty_iff.mp empty]
  · rfl

theorem characters_textPart (scopes : List Scope) (text : Braceless) (rest : List Part) :
    (unfoldParts scopes (textPart text ++ rest)).flatMap Piece.characters =
      text.1 ++ (unfoldParts scopes rest).flatMap Piece.characters := by
  unfold textPart
  split
  · rename_i empty
    simp [List.isEmpty_iff.mp empty]
  · simp [unfoldParts, Part.unfold, Piece.characters]

theorem wellFormed_partsOfPlain {template : PlainTemplate}
    (ordinary : ∀ entry ∈ template.slots, entry.2.IsOrdinary) :
    WellFormed (partsOfPlain template) := by
  rcases template with ⟨slots, ending⟩
  induction slots with
  | nil =>
      have formed : WellFormed (textPart ending ++ []) :=
        wellFormed_textPart ending (by simp) .nil
      simpa [partsOfPlain] using formed
  | cons entry slots induction =>
      rcases List.forall_mem_cons.mp ordinary with ⟨entryOrdinary, slotsOrdinary⟩
      have formed := WellFormed.expression (isExpression_inside entryOrdinary)
        (induction slotsOrdinary)
      have all := wellFormed_textPart entry.1 (by simp) formed
      simpa [partsOfPlain] using all

theorem print_partsOfPlain (spelled : Part → Bool) (template : PlainTemplate) :
    printParts spelled (partsOfPlain template) = template.text := by
  rcases template with ⟨slots, ending⟩
  induction slots with
  | nil =>
      have print := print_textPart spelled ending []
      simpa [partsOfPlain, PlainTemplate.text, printParts] using print
  | cons entry slots induction =>
      simp only [partsOfPlain, PlainTemplate.text, List.flatMap_cons, List.append_assoc] at induction ⊢
      rw [print_textPart, List.singleton_append, printParts, Part.print, induction]

theorem renderChars_plain {template : PlainTemplate}
    (ordinary : ∀ entry ∈ template.slots, entry.2.IsOrdinary) (data : Json) :
    renderChars template.text data = template.shown (shownValue data) := by
  have read := partsOf_print (wellFormed_partsOfPlain ordinary) (fun _ => false)
  rw [print_partsOfPlain] at read
  simp only [renderChars, pieces, read]
  clear read
  rcases template with ⟨slots, ending⟩
  induction slots with
  | nil =>
      have characters := characters_textPart [Scope.root data] ending []
      simpa [partsOfPlain, PlainTemplate.shown, unfoldParts] using characters
  | cons entry slots induction =>
      rcases List.forall_mem_cons.mp ordinary with ⟨entryOrdinary, slotsOrdinary⟩
      simp only [partsOfPlain, PlainTemplate.shown, List.flatMap_cons, List.append_assoc]
        at induction ⊢
      rw [characters_textPart, List.singleton_append, unfoldParts, Part.unfold,
        List.flatMap_append, induction slotsOrdinary]
      simp [Piece.characters, evaluate_inside entryOrdinary]

theorem shown_congr {template : PlainTemplate} {valueOf otherValueOf : PlainSlot → Json}
    (same : ∀ entry ∈ template.slots, valueOf entry.2 = otherValueOf entry.2) :
    template.shown valueOf = template.shown otherValueOf := by
  have slots : template.slots.flatMap (fun entry =>
      entry.1.1 ++ (applyCalls (valueOf entry.2) entry.2.calls).display.toList) =
      template.slots.flatMap fun entry =>
        entry.1.1 ++ (applyCalls (otherValueOf entry.2) entry.2.calls).display.toList := by
    apply List.flatMap_congr
    intro entry isMember
    rw [same entry isMember]
  rw [PlainTemplate.shown, PlainTemplate.shown, slots]

/-- Both renderers show the texts of a template and, in place of each placeholder, what its filters
make of the value at its path. Only a path that is a word for a double without a finite value is
null in messages; where there is none, the renderers agree. -/
theorem renderers_agree_on_plain_placeholders (template : PlainTemplate)
    (ordinary : ∀ entry ∈ template.slots, entry.2.IsOrdinary) (data : Json) :
    Placeholder.render (String.ofList template.text) data =
      String.ofList (template.shown (PlainSlot.valueIn data)) ∧
    render (String.ofList template.text) data =
      String.ofList (template.shown (shownValue data)) ∧
    ((∀ entry ∈ template.slots, entry.2.isNumberWord = false) →
      render (String.ofList template.text) data =
        Placeholder.render (String.ofList template.text) data) := by
  have request : Placeholder.render (String.ofList template.text) data =
      String.ofList (template.shown (PlainSlot.valueIn data)) := by
    rw [Placeholder.render, String.toList_ofList, renderChars_text]
  have message : render (String.ofList template.text) data =
      String.ofList (template.shown (shownValue data)) := by
    rw [render, String.toList_ofList, renderChars_plain ordinary]
  refine ⟨request, message, fun noNumber => ?_⟩
  rw [request, message]
  congr 1
  apply shown_congr
  intro entry isMember
  simp [shownValue, noNumber entry isMember]

namespace Sample

def user : Name := ⟨'u', "ser".toList, by decide, Text.forall_of_all (by decide +kernel)⟩

def name : Name := ⟨'n', "ame".toList, by decide, Text.forall_of_all (by decide +kernel)⟩

def defaultFilter : Name := ⟨'d', "efault".toList, by decide, Text.forall_of_all (by decide +kernel)⟩

def uppercaseFilter : Name := ⟨'u', "ppercase".toList, by decide, Text.forall_of_all (by decide +kernel)⟩

def nan : Name := ⟨'n', "an".toList, by decide, Text.forall_of_all (by decide +kernel)⟩

/-- A greeting whose subscriber may be unknown. -/
def greeting : PlainTemplate where
  slots := [(⟨"Bonjour ".toList, Text.forall_of_all (by decide +kernel)⟩,
    { first := user
      rest := [name]
      calls := [
        { filter := defaultFilter
          argument := some
            ⟨⟨"cher | ami".toList, Text.forall_of_all (by decide +kernel)⟩, by decide +kernel⟩ },
        { filter := uppercaseFilter
          argument := none }] })]
  ending := ⟨['!'], Text.forall_of_all (by decide)⟩

def greetingText : String :=
  "Bonjour \x7b\x7buser.name | default:\"cher | ami\" | uppercase\x7d\x7d!"

def subscriber : Json := .object [("user", .object [("name", .text "Awa")])]

def nanSlot : PlainSlot where
  first := nan
  rest := []
  calls := []

def nanTemplate : PlainTemplate where
  slots := [(⟨[], by simp⟩, nanSlot)]
  ending := ⟨[], by simp⟩

end Sample

theorem greeting_is_rendered_twice :
    (∀ entry ∈ Sample.greeting.slots, entry.2.IsOrdinary) ∧
    render Sample.greetingText Sample.subscriber = "Bonjour AWA!" ∧
    Placeholder.render Sample.greetingText Sample.subscriber = "Bonjour AWA!" ∧
    render Sample.greetingText .null = Placeholder.render Sample.greetingText .null := by
  have isText : String.ofList Sample.greeting.text = Sample.greetingText := by decide +kernel
  have ordinary : ∀ entry ∈ Sample.greeting.slots, entry.2.IsOrdinary := by
    intro entry isMember
    rcases List.mem_singleton.mp isMember with rfl
    exact ⟨by decide +kernel, by decide +kernel⟩
  rcases renderers_agree_on_plain_placeholders Sample.greeting ordinary Sample.subscriber with
    ⟨request, message, -⟩
  rcases renderers_agree_on_plain_placeholders Sample.greeting ordinary .null with
    ⟨-, -, agree⟩
  rw [isText] at request message agree
  refine ⟨ordinary, ?_, ?_, agree (by decide +kernel)⟩
  · rw [message]
    decide +kernel
  · rw [request]
    decide +kernel

/-- The word is a numeral in messages and a path in requests. -/
theorem nan_is_no_path_in_messages :
    Sample.nanSlot.IsOrdinary ∧ String.ofList Sample.nanTemplate.text = "\x7b\x7bnan\x7d\x7d" ∧
    render "\x7b\x7bnan\x7d\x7d" (.object [("nan", .text "Awa")]) = "" ∧
    Placeholder.render "\x7b\x7bnan\x7d\x7d" (.object [("nan", .text "Awa")]) = "Awa" := by
  have isText : String.ofList Sample.nanTemplate.text = "\x7b\x7bnan\x7d\x7d" := by decide +kernel
  refine ⟨⟨by decide +kernel, by decide +kernel⟩, isText, by decide +kernel, ?_⟩
  rw [← isText, Placeholder.render, String.toList_ofList, renderChars_text]
  decide +kernel

end Ussd.Message
