import Ussd.Proofs.TemplatePrinting

/-! # Joined templates

A message template can be followed by more. Its tags are closed where they were before, its last text
goes on into what follows, and its parts come first. Joined templates therefore show what each of
them shows, and what was shown is never looked at again. -/

namespace Ussd.Message

/-! ## Texts in front of a template -/

/-- A text that can stand in front of a template: no tag is opened in it or by its end. -/
structure IsLead (text : List Char) : Prop where
  unopened : ¬openTag <:+: text
  ending : text.getLast? ≠ some '\x7b'

theorem IsLead.of_cons {c : Char} {text : List Char} (isLead : IsLead (c :: text)) : IsLead text where
  unopened occurs := isLead.unopened (List.infix_cons occurs)
  ending last := by
    cases text with
    | nil => cases last
    | cons d text => exact isLead.ending (by rw [List.getLast?_cons_cons, last])

theorem IsLead.opens_append_iff {text : List Char} (isLead : IsLead text) (rest : List Char) :
    openTag <:+: text ++ rest ↔ openTag <:+: rest := by
  induction text with
  | nil => rfl
  | cons c text induction =>
      have notStart : ¬openTag <+: c :: (text ++ rest) := by
        rintro ⟨behind, braces⟩
        injection braces with first braces
        cases text with
        | nil => exact isLead.ending (by rw [← first]; rfl)
        | cons d text =>
            injection braces with second
            apply isLead.unopened
            rw [← first, ← second]
            exact ⟨[], text, rfl⟩
      rw [List.cons_append, List.infix_cons_iff, induction isLead.of_cons]
      exact or_iff_right notStart

theorem IsLead.cut_append {text rest before after : List Char} (isLead : IsLead text)
    (cut : Text.cutFragment? openTag rest = some (before, after)) :
    Text.cutFragment? openTag (text ++ rest) = some (text ++ before, after) := by
  rw [Text.cutFragment?_eq_some_iff (by decide)] at cut ⊢
  rcases cut with ⟨rfl, first⟩
  rw [List.append_assoc, List.append_assoc, isLead.opens_append_iff]
  exact ⟨rfl, first⟩

/-- What follows a tag does not matter to it. -/
theorem tagInside?_append {afterOpen inside behind : List Char}
    (closed : tagInside? afterOpen = some (inside, behind)) (rest : List Char) :
    tagInside? (afterOpen ++ rest) = some (inside, behind ++ rest) := by
  cases afterOpen with
  | nil => cases closed
  | cons c afterOpen =>
      unfold tagInside? at closed ⊢
      rw [List.cons_append]
      split at closed
      · rename_i tail starts
        cases starts
        exact Text.cutFragment?_append_right (by decide) closed rest
      · rename_i other
        split
        · rename_i tail starts
          injection starts with isBrace
          exact absurd (isBrace ▸ rfl) (other afterOpen)
        · exact Text.cutFragment?_append_right (by decide) closed rest

/-! ## Tokens of templates that are joined -/

/-- What a tag whose inside begins with a tilde leaves of the text before it, which is `trimming`
if the tag before the text ended with one. -/
def leftOver (trimming trimsEnd : Bool) (text : List Char) : List Char :=
  let text := if trimming then Text.trimStart text else text
  if trimsEnd then Text.trimEnd text else text

/-- The tokens of a template in which every tag is closed; `trimming` tells whether its first text
loses its leading blanks. -/
inductive Tokenized : Bool → List Char → List Token → Prop
  | ending {trimming : Bool} {text : List Char}
      (unopened : Text.cutFragment? openTag text = none) :
      Tokenized trimming text (textToken (leftOver trimming false text))
  | tag {trimming trimsEnd trimsNext : Bool} {template text afterOpen tilded inside rest : List Char}
      {read : List Token} (opened : Text.cutFragment? openTag template = some (text, afterOpen))
      (closed : tagInside? afterOpen = some (tilded, rest))
      (bare : takeTildes tilded = (trimsEnd, trimsNext, inside))
      (tokenized : Tokenized trimsNext rest read) :
      Tokenized trimming template
        (textToken (leftOver trimming trimsEnd text) ++ .tag (Text.trim inside) :: read)

/-- Where a template has a tag, its tokens are those of the tag and of what follows it. -/
theorem tokenized_tag_iff {trimming trimsEnd trimsNext : Bool}
    {template text afterOpen tilded inside rest : List Char}
    (opened : Text.cutFragment? openTag template = some (text, afterOpen))
    (closed : tagInside? afterOpen = some (tilded, rest))
    (bare : takeTildes tilded = (trimsEnd, trimsNext, inside)) {read : List Token} :
    Tokenized trimming template read ↔ ∃ behind, Tokenized trimsNext rest behind ∧
      read = textToken (leftOver trimming trimsEnd text) ++ .tag (Text.trim inside) :: behind := by
  constructor
  · intro tokenized
    cases tokenized with
    | ending other => rw [opened] at other; cases other
    | tag other otherClosed otherBare behind =>
        rw [opened] at other
        cases other
        rw [closed] at otherClosed
        cases otherClosed
        rw [bare] at otherBare
        cases otherBare
        exact ⟨_, behind, rfl⟩
  · rintro ⟨behind, tokenized, rfl⟩
    exact .tag opened closed bare tokenized

theorem tokensFrom_eq_ok_iff {fuel : Nat} {template : List Char} (enough : template.length < fuel)
    (trimming : Bool) (read : List Token) :
    tokensFrom fuel trimming template = .ok read ↔ Tokenized trimming template read := by
  induction fuel generalizing trimming template read with
  | zero => cases enough
  | succ fuel induction =>
      rw [tokensFrom]
      cases opened : Text.cutFragment? openTag template with
      | none =>
          constructor
          · intro isRead
            cases isRead
            exact .ending opened
          · intro tokenized
            cases tokenized with
            | ending => rfl
            | tag other => rw [opened] at other; cases other
      | some cut =>
          rcases cut with ⟨text, afterOpen⟩
          cases closed : tagInside? afterOpen with
          | none =>
              refine iff_of_false (by simp [closed]) fun tokenized => ?_
              cases tokenized with
              | ending other => rw [opened] at other; cases other
              | tag other otherClosed =>
                  rw [opened] at other
                  cases other
                  rw [closed] at otherClosed
                  cases otherClosed
          | some tag =>
              rcases tag with ⟨tilded, rest⟩
              rcases bare : takeTildes tilded with ⟨trimsEnd, trimsNext, inside⟩
              have shorter := length_lt_of_cutFragment? (by decide) opened
              have shorterRest := length_lt_of_tagInside? closed
              have restRead (behind : List Token) : tokensFrom fuel trimsNext rest = .ok behind ↔
                  Tokenized trimsNext rest behind := induction (by omega) trimsNext behind
              rw [tokenized_tag_iff opened closed bare]
              simp only [closed, bare]
              constructor
              · intro isRead
                cases result : tokensFrom fuel trimsNext rest with
                | error error => simp [result] at isRead
                | ok behind =>
                    rw [result] at isRead
                    cases isRead
                    exact ⟨behind, (restRead behind).mp result, rfl⟩
              · rintro ⟨behind, tokenized, rfl⟩
                rw [(restRead behind).mpr tokenized]
                rfl

theorem tokens_eq_ok_iff {template : List Char} {read : List Token} :
    tokens template = .ok read ↔ Tokenized false template read :=
  tokensFrom_eq_ok_iff (Nat.lt_succ_self _) false read

theorem layout_of_tagInside? {afterOpen inside rest : List Char}
    (closed : tagInside? afterOpen = some (inside, rest)) :
    ∃ opening closing, afterOpen = opening ++ (inside ++ (closing ++ rest)) := by
  unfold tagInside? at closed
  split at closed
  · rename_i tail
    exact ⟨['\x7b'], _, congrArg _ ((Text.cutFragment?_eq_some_iff (by decide)).mp closed).1⟩
  · exact ⟨[], _, ((Text.cutFragment?_eq_some_iff (by decide)).mp closed).1⟩

theorem mem_of_takeTildes {tilded inside : List Char} {trimsEnd : Bool}
    (bare : takeTildes tilded = (trimsEnd, true, inside)) : '~' ∈ tilded := by
  have last : Text.endsWith ['~'] (if Text.startsWith ['~'] tilded then tilded.tail else tilded) :=
    (Prod.mk.inj (Prod.mk.inj bare).2).1
  rw [Text.endsWith_iff] at last
  have isMember := last.subset List.mem_cons_self
  split at isMember
  · exact List.mem_of_mem_tail isMember
  · exact isMember

/-- How a template is read when more may follow it: `own` are the tokens that it has on its own, and
`lead` is the text at its end, to which what follows may add. -/
structure ReadUpTo (trimming : Bool) (template : List Char) (read own : List Token) (trims : Bool)
    (lead : List Char) : Prop where
  isLead : IsLead lead
  isRead : read = own ++ textToken (leftOver trims false lead)
  tilde : trims = true → trimming = true ∨ '~' ∈ template
  joins : ∀ rest joined, Tokenized trimming (template ++ rest) joined ↔
    ∃ behind, Tokenized trims (lead ++ rest) behind ∧ joined = own ++ behind

theorem ReadUpTo.tag {trimming trimsEnd trimsNext trims : Bool}
    {template text afterOpen tilded inside rest lead : List Char} {read own : List Token}
    (opened : Text.cutFragment? openTag template = some (text, afterOpen))
    (closed : tagInside? afterOpen = some (tilded, rest))
    (bare : takeTildes tilded = (trimsEnd, trimsNext, inside))
    (readUpTo : ReadUpTo trimsNext rest read own trims lead) :
    ReadUpTo trimming template
      (textToken (leftOver trimming trimsEnd text) ++ .tag (Text.trim inside) :: read)
      (textToken (leftOver trimming trimsEnd text) ++ .tag (Text.trim inside) :: own) trims lead where
  isLead := readUpTo.isLead
  isRead := by rw [readUpTo.isRead, List.append_assoc, List.cons_append]
  tilde trimsLead := by
    have opening := ((Text.cutFragment?_eq_some_iff (by decide)).mp opened).1
    rcases layout_of_tagInside? closed with ⟨brace, closing, layout⟩
    right
    rcases readUpTo.tilde trimsLead with rfl | isMember
    · simp [opening, layout, mem_of_takeTildes bare]
    · simp [opening, layout, isMember]
  joins more joined := by
    have joinedOpened := Text.cutFragment?_append_right (by decide) opened more
    have joinedClosed := tagInside?_append closed more
    rw [tokenized_tag_iff joinedOpened joinedClosed bare]
    constructor
    · rintro ⟨behind, isBehind, rfl⟩
      rcases (readUpTo.joins more _).mp isBehind with ⟨after, isAfter, rfl⟩
      exact ⟨after, isAfter, by simp⟩
    · rintro ⟨behind, isBehind, rfl⟩
      exact ⟨own ++ behind, (readUpTo.joins more _).mpr ⟨behind, isBehind, rfl⟩, by simp⟩

/-- A template that does not end in the middle of opening braces can be followed by more. -/
theorem Tokenized.readUpTo {trimming : Bool} {template : List Char} {read : List Token}
    (tokenized : Tokenized trimming template read) (ending : template.getLast? ≠ some '\x7b') :
    ∃ own trims lead, ReadUpTo trimming template read own trims lead := by
  induction tokenized with
  | @ending trimming text unopened =>
      have isLead : IsLead text := ⟨Text.cutFragment?_eq_none_iff.mp unopened, ending⟩
      exact ⟨[], trimming, text, isLead, rfl, .inl, by simp⟩
  | @tag trimming trimsEnd trimsNext template text afterOpen tilded inside rest read opened closed
      bare tokenized induction =>
      have restEnding : rest.getLast? ≠ some '\x7b' := by
        have opening := ((Text.cutFragment?_eq_some_iff (by decide)).mp opened).1
        rcases layout_of_tagInside? closed with ⟨brace, closing, layout⟩
        intro last
        apply ending
        simp [opening, layout, List.getLast?_append, last]
      rcases induction restEnding with ⟨own, trims, lead, readUpTo⟩
      exact ⟨_, trims, lead, readUpTo.tag opened closed bare⟩

/-! ## Texts at the seam -/

/-- Tokens behind a text, which is joined with the first of them if that is a text as well. -/
def prependText (text : List Char) : List Token → List Token
  | .text first :: rest => .text (text ++ first) :: rest
  | read => textToken text ++ read

theorem prependText_textToken (text other : List Char) (rest : List Token)
    (noText : ∀ first, rest.head? ≠ some (.text first)) :
    prependText text (textToken other ++ rest) = textToken (text ++ other) ++ rest := by
  cases other with
  | nil =>
      rw [List.append_nil]
      cases rest with
      | nil => rfl
      | cons token rest =>
          cases token with
          | text first => exact absurd rfl (noText first)
          | tag inside => rfl
  | cons c other => simp [textToken, prependText]

theorem takeTildes_of_not_mem {inside : List Char} (noTilde : '~' ∉ inside) :
    takeTildes inside = (false, false, inside) := by
  have first : Text.startsWith ['~'] inside = false := by
    rw [Text.startsWith_singleton, beq_eq_false_iff_ne]
    exact fun starts => noTilde (List.mem_of_head? starts)
  have last : Text.endsWith ['~'] inside = false := by
    rw [Text.endsWith_singleton, beq_eq_false_iff_ne]
    exact fun ends => noTilde (List.mem_of_getLast? ends)
  simp [takeTildes, first, last]

/-- A text in front of a template without tildes becomes a part of its first text. -/
theorem Tokenized.prependText {template lead : List Char} {read : List Token}
    (tokenized : Tokenized false template read) (noTilde : '~' ∉ template) (isLead : IsLead lead) :
    Tokenized false (lead ++ template) (prependText lead read) := by
  cases tokenized with
  | ending unopened =>
      have joined := prependText_textToken lead template [] (by simp)
      rw [List.append_nil, List.append_nil] at joined
      rw [leftOver, if_neg (by simp), if_neg (by simp), joined]
      apply Tokenized.ending
      rw [Text.cutFragment?_eq_none_iff, isLead.opens_append_iff,
        ← Text.cutFragment?_eq_none_iff, unopened]
  | @tag _ trimsEnd trimsNext _ text afterOpen tilded inside rest read opened closed bare behind =>
      have opening := ((Text.cutFragment?_eq_some_iff (by decide)).mp opened).1
      rcases layout_of_tagInside? closed with ⟨brace, closing, layout⟩
      have insideTilde : '~' ∉ tilded := by
        intro isMember
        apply noTilde
        simp [opening, layout, isMember]
      rw [takeTildes_of_not_mem insideTilde] at bare
      cases bare
      have joined := prependText_textToken lead text (.tag (Text.trim tilded) :: read) (by simp)
      exact joined ▸ .tag (isLead.cut_append opened) closed (takeTildes_of_not_mem insideTilde) behind

/-! ## What parts show -/

def shownIn (scopes : List Scope) (parts : List Part) : List Char :=
  (unfoldParts scopes parts).flatMap Piece.characters

@[simp] theorem shownIn_nil (scopes : List Scope) : shownIn scopes [] = [] := rfl

theorem shownIn_cons (scopes : List Scope) (part : Part) (rest : List Part) :
    shownIn scopes (part :: rest) =
      (part.unfold scopes).flatMap Piece.characters ++ shownIn scopes rest := by
  rw [shownIn, unfoldParts, List.flatMap_append, shownIn]

theorem shownIn_text (scopes : List Scope) (characters : List Char) (rest : List Part) :
    shownIn scopes (.text characters :: rest) = characters ++ shownIn scopes rest := by
  rw [shownIn_cons, Part.unfold, List.flatMap_singleton, Piece.characters]

theorem shownIn_append (scopes : List Scope) (parts others : List Part) :
    shownIn scopes (parts ++ others) = shownIn scopes parts ++ shownIn scopes others := by
  induction parts with
  | nil => rfl
  | cons part rest induction =>
      rw [List.cons_append, shownIn_cons, shownIn_cons, induction, List.append_assoc]

/-- A template that is well formed shows what its parts show. -/
theorem renderChars_of_parts {template : List Char} {parts : List Part}
    (accepted : partsOf template = .ok parts) (data : Json) :
    renderChars template data = shownIn [Scope.root data] parts := by
  simp only [renderChars, pieces, accepted, shownIn]

theorem partsOf_eq_ok_iff {template : List Char} {parts : List Part} :
    partsOf template = .ok parts ↔ ∃ read, Tokenized false template read ∧ Nested read parts := by
  simp only [← tokens_eq_ok_iff, ← parse_eq_ok_iff]
  unfold partsOf
  cases tokens template <;> simp

/-! ## Parts of joined templates -/

theorem parseFrom_append_text (stack : List OpenBlock) (parts : List Part) (read : List Token)
    (characters : List Char) :
    parseFrom stack parts (read ++ [.text characters]) =
      (parseFrom stack parts read).map (· ++ [.text characters]) := by
  induction read generalizing stack parts with
  | nil => cases stack <;> rfl
  | cons token rest induction =>
      cases token with
      | text first => exact induction _ _
      | tag inside =>
          rw [List.cons_append, parseFrom.eq_def stack parts (.tag inside :: _),
            parseFrom.eq_def stack parts (.tag inside :: rest)]
          dsimp only
          split
          · split
            · rfl
            · exact induction _ _
          · split
            · rfl
            · split
              · exact induction _ _
              · rfl
          · split
            · rfl
            · split
              · exact induction _ _
              · rfl
          · exact induction _ _
          · exact induction _ _

theorem Nested.without_text {own : List Token} {lead : List Char} {parts : List Part}
    (nested : Nested (own ++ textToken lead) parts) :
    ∃ front, Nested own front ∧ ∀ scopes, shownIn scopes parts = shownIn scopes front ++ lead := by
  cases lead with
  | nil => exact ⟨parts, by simpa [textToken] using nested, by simp⟩
  | cons c lead =>
      have accepted : parse (own ++ [.text (c :: lead)]) = .ok parts := parse_eq_ok_iff.mpr nested
      rw [parse, parseFrom_append_text] at accepted
      cases result : parseFrom [] [] own with
      | error error => rw [result] at accepted; cases accepted
      | ok front =>
          rw [result] at accepted
          cases accepted
          refine ⟨front, parse_eq_ok_iff.mp result, fun scopes => ?_⟩
          rw [shownIn_append, shownIn_text, shownIn_nil, List.append_nil]

theorem Nested.with_text {read : List Token} {parts : List Part} (nested : Nested read parts)
    (lead : List Char) :
    ∃ back, Nested (prependText lead read) back ∧
      ∀ scopes, shownIn scopes back = lead ++ shownIn scopes parts := by
  have before (starts : prependText lead read = textToken lead ++ read) :
      ∃ back, Nested (prependText lead read) back ∧
        ∀ scopes, shownIn scopes back = lead ++ shownIn scopes parts := by
    rw [starts]
    cases lead with
    | nil => exact ⟨parts, nested, fun _ => rfl⟩
    | cons c lead => exact ⟨_, .text _ nested, fun scopes => shownIn_text scopes _ parts⟩
  cases nested with
  | text characters nested =>
      refine ⟨_, .text (lead ++ characters) nested, fun scopes => ?_⟩
      rw [shownIn_text, shownIn_text, List.append_assoc]
  | nil | comment | shown | block | branches => exact before rfl

/-- Two templates without tildes of which the first does not end in the middle of opening braces are
joined to one that shows both. -/
theorem exists_parts_of_append {first second : List Char} {parts others : List Part}
    (accepted : partsOf first = .ok parts) (otherAccepted : partsOf second = .ok others)
    (noTilde : '~' ∉ first) (noOtherTilde : '~' ∉ second)
    (ending : first.getLast? ≠ some '\x7b') :
    ∃ joined, partsOf (first ++ second) = .ok joined ∧
      ∀ scopes, shownIn scopes joined = shownIn scopes parts ++ shownIn scopes others := by
  rcases partsOf_eq_ok_iff.mp accepted with ⟨read, tokenized, nested⟩
  rcases partsOf_eq_ok_iff.mp otherAccepted with ⟨otherRead, otherTokenized, otherNested⟩
  rcases tokenized.readUpTo ending with ⟨own, trims, lead, readUpTo⟩
  have noTrim : trims = false := by
    cases trims with
    | false => rfl
    | true =>
        rcases readUpTo.tilde rfl with impossible | isMember
        · cases impossible
        · exact absurd isMember noTilde
  subst noTrim
  have joinedTokenized := (readUpTo.joins second _).mpr
    ⟨_, otherTokenized.prependText noOtherTilde readUpTo.isLead, rfl⟩
  have isRead : read = own ++ textToken lead := readUpTo.isRead
  rw [isRead] at nested
  rcases nested.without_text with ⟨front, frontNested, frontShown⟩
  rcases otherNested.with_text lead with ⟨back, backNested, backShown⟩
  refine ⟨front ++ back, partsOf_eq_ok_iff.mpr ⟨_, joinedTokenized, frontNested.append backNested⟩,
    fun scopes => ?_⟩
  rw [shownIn_append, frontShown, backShown, List.append_assoc]

theorem partsOf_tagText {inside : List Char} (isExpression : IsExpression inside) :
    partsOf (tagText inside) = .ok [.expression inside] := by
  have printed : printParts (fun _ => false) [.expression inside] = tagText inside := by
    rw [printParts, Part.print, printParts, List.append_nil]
  rw [← printed]
  exact partsOf_print (.expression isExpression .nil) _

theorem getLast?_tagText (inside : List Char) : (tagText inside).getLast? = some '\x7d' := by
  have layout : tagText inside = openTag ++ inside ++ ['\x7d'] ++ ['\x7d'] := by
    simp [tagText, closeTag]
  rw [layout, List.getLast?_concat]

theorem renderChars_tagText {inside : List Char} (isExpression : IsExpression inside)
    (data : Json) :
    renderChars (tagText inside) data = (evaluate [Scope.root data] inside).display.toList := by
  rw [renderChars_of_parts (partsOf_tagText isExpression), shownIn_cons, Part.unfold,
    List.flatMap_singleton, Piece.characters, shownIn_nil, List.append_nil]

/-- The tags of the template are closed and well nested. -/
def IsAccepted (template : String) : Prop := ∃ parts, partsOf template.toList = .ok parts

theorem isAccepted_iff (template : String) :
    IsAccepted template ↔ (partsOf template.toList).isOk = true := by
  unfold IsAccepted
  cases partsOf template.toList <;> simp [Except.isOk, Except.toBool]

instance (template : String) : Decidable (IsAccepted template) :=
  decidable_of_iff _ (isAccepted_iff template).symm

/-- Messages are rendered part by part. If each of two templates without tildes is well formed and the
first does not end in an opening brace, their joint text shows what they show one after the other.
A value that is shown between them stands there as it is, whatever braces it has. -/
theorem messages_are_rendered_part_by_part {first second : String}
    (accepted : IsAccepted first) (otherAccepted : IsAccepted second)
    (noTilde : '~' ∉ first.toList) (noOtherTilde : '~' ∉ second.toList)
    (ending : first.toList.getLast? ≠ some '\x7b') (data : Json) :
    render (first ++ second) data = render first data ++ render second data ∧
    ∀ inside, IsExpression inside → '~' ∉ inside →
      render (first ++ String.ofList (tagText inside) ++ second) data =
        render first data ++ (evaluate [Scope.root data] inside).display ++ render second data := by
  rcases accepted with ⟨parts, accepted⟩
  rcases otherAccepted with ⟨others, otherAccepted⟩
  have shown := renderChars_of_parts accepted data
  have otherShown := renderChars_of_parts otherAccepted data
  constructor
  · rcases exists_parts_of_append accepted otherAccepted noTilde noOtherTilde ending with
      ⟨joined, joinedAccepted, joinedShown⟩
    simp only [render, String.toList_append]
    rw [renderChars_of_parts joinedAccepted, joinedShown, ← shown, ← otherShown, String.ofList_append]
  · intro inside isExpression noInsideTilde
    have tagAccepted := partsOf_tagText isExpression
    have noTagTilde : '~' ∉ tagText inside := by
      simp [tagText, openTag, closeTag, noInsideTilde]
    rcases exists_parts_of_append accepted tagAccepted noTilde noTagTilde ending with
      ⟨front, frontAccepted, frontShown⟩
    have noFrontTilde : '~' ∉ first.toList ++ tagText inside := by simp [noTilde, noTagTilde]
    have frontEnding : (first.toList ++ tagText inside).getLast? ≠ some '\x7b' := by
      simp [List.getLast?_append, getLast?_tagText]
    rcases exists_parts_of_append frontAccepted otherAccepted noFrontTilde noOtherTilde frontEnding
      with ⟨joined, joinedAccepted, joinedShown⟩
    have tagShown := renderChars_tagText isExpression data
    rw [renderChars_of_parts tagAccepted] at tagShown
    simp only [render, String.toList_append, String.toList_ofList]
    rw [renderChars_of_parts joinedAccepted, joinedShown, frontShown, ← shown, ← otherShown,
      tagShown, String.ofList_append, String.ofList_append, String.ofList_toList]

namespace Sample

/-- What a subscriber may enter as a name. -/
def bracedName : Json := .object [("nom", .text "\x7b\x7b#if\x7d\x7d \x7b")]

def openedGreeting : String := "\x7b\x7b#if nom\x7d\x7dBonjour\x7b\x7b/if\x7d\x7d\x7d "

def closedGreeting : String := "\x7b\x7b\x7bnom\x7d\x7d\x7d!"

end Sample

theorem braced_name_is_shown_as_it_is :
    IsAccepted Sample.openedGreeting ∧ IsAccepted Sample.closedGreeting ∧
    '~' ∉ Sample.openedGreeting.toList ∧ '~' ∉ Sample.closedGreeting.toList ∧
    Sample.openedGreeting.toList.getLast? ≠ some '\x7b' ∧ IsExpression "nom".toList ∧
    '~' ∉ "nom".toList ∧
    render (Sample.openedGreeting ++ Sample.closedGreeting) Sample.bracedName =
      "Bonjour\x7d \x7b\x7b#if\x7d\x7d \x7b!" ∧
    render (Sample.openedGreeting ++ String.ofList (tagText "nom".toList) ++ Sample.closedGreeting)
        Sample.bracedName =
      "Bonjour\x7d \x7b\x7b#if\x7d\x7d \x7b\x7b\x7b#if\x7d\x7d \x7b!" := by
  have accepted : IsAccepted Sample.openedGreeting := by decide +kernel
  have otherAccepted : IsAccepted Sample.closedGreeting := by decide +kernel
  have noTilde : '~' ∉ Sample.openedGreeting.toList := by decide +kernel
  have noOtherTilde : '~' ∉ Sample.closedGreeting.toList := by decide +kernel
  have ending : Sample.openedGreeting.toList.getLast? ≠ some '\x7b' := by decide +kernel
  have first : "nom".toList.head? = some 'n' := by decide +kernel
  have isExpression : IsExpression "nom".toList := by
    refine ⟨by constructor <;> decide +kernel, by decide +kernel, by decide +kernel, ?_,
      by decide +kernel⟩
    rw [first]
    rintro c ⟨⟩
    decide
  have noInsideTilde : '~' ∉ "nom".toList := by decide +kernel
  rcases messages_are_rendered_part_by_part accepted otherAccepted noTilde noOtherTilde ending
    Sample.bracedName with ⟨joined, between⟩
  refine ⟨accepted, otherAccepted, noTilde, noOtherTilde, ending, isExpression, noInsideTilde,
    ?_, ?_⟩
  · rw [joined]
    decide +kernel
  · rw [between _ isExpression noInsideTilde]
    decide +kernel

end Ussd.Message
