import Ussd.Message.Render
import Ussd.Proofs.BlockNesting

/-! # Printed templates

A tree of texts, expressions and blocks can be printed as a template. If its texts and tags cannot
be taken for something else, the printed template is read back as the same tree. A template is only
refused for a tag that is not closed or for tags that are not well nested, and is then shown as it
stands. -/

namespace Ussd.Message

/-! ## Printing -/

def tagText (inside : List Char) : List Char := openTag ++ (inside ++ closeTag)

mutual

/-- A part as its author writes it. Where a block has nothing to show otherwise its `else` may be
left out; `spelled` tells which of these blocks have one. -/
def Part.print (spelled : Part → Bool) : Part → List Char
  | .text characters => characters
  | .expression inside => tagText inside
  | .block kind argument body otherwise =>
    tagText ('#' :: (kind.name.toList ++ ' ' :: argument)) ++
      (printParts spelled body ++
        (if otherwise.isEmpty && !spelled (.block kind argument body otherwise) then
          tagText ('/' :: kind.name.toList)
        else
          tagText elseTag ++
            (printParts spelled otherwise ++ tagText ('/' :: kind.name.toList))))

def printParts (spelled : Part → Bool) : List Part → List Char
  | [] => []
  | part :: rest => part.print spelled ++ printParts spelled rest

end

/-- A text that remains one text between two tags. -/
structure IsText (characters : List Char) : Prop where
  nonempty : characters ≠ []
  unopened : ¬openTag <:+: characters
  ending : characters.getLast? ≠ some '\x7b'

/-- The inside of a tag that is closed by the braces after it and drops no blanks around it. -/
structure IsInside (inside : List Char) : Prop where
  noOpening : '\x7b' ∉ inside
  noClosing : '\x7d' ∉ inside
  noTilde : inside.head? ≠ some '~'
  noLastTilde : inside.getLast? ≠ some '~'

structure IsExpression (inside : List Char) : Prop extends IsInside inside where
  trimmed : Text.trim inside = inside
  nonempty : inside ≠ []
  plain : ∀ c ∈ inside.head?, c ∉ ['#', '/', '!']
  notElse : inside ≠ elseTag

structure IsArgument (argument : List Char) : Prop extends IsInside argument where
  trimmed : Text.trim argument = argument

/-- No two texts stand side by side, and every text, expression and argument can be told apart from
the braces around it. -/
inductive WellFormed : List Part → Prop
  | nil : WellFormed []
  | text {characters : List Char} {rest : List Part} (isText : IsText characters)
      (apart : ∀ other, rest.head? ≠ some (.text other)) (wellFormed : WellFormed rest) :
      WellFormed (.text characters :: rest)
  | expression {inside : List Char} {rest : List Part} (isExpression : IsExpression inside)
      (wellFormed : WellFormed rest) : WellFormed (.expression inside :: rest)
  | block (kind : BlockKind) {argument : List Char} {body otherwise rest : List Part}
      (isArgument : IsArgument argument) (bodyFormed : WellFormed body)
      (otherwiseFormed : WellFormed otherwise) (wellFormed : WellFormed rest) :
      WellFormed (.block kind argument body otherwise :: rest)

/-! ## The tokens of a printed template -/

/-- The tokens of a template, under every bound that is large enough. -/
def Reads (template : List Char) (read : List Token) : Prop :=
  ∀ fuel, template.length < fuel → tokensFrom fuel false template = .ok read

/-- A text ends here: the template does, or a tag follows. -/
def Interrupts (after : List Char) : Prop :=
  after = [] ∨ ∃ inside rest, IsInside inside ∧ after = tagText inside ++ rest

theorem takeTildes_of_isInside {inside : List Char} (isInside : IsInside inside) :
    takeTildes inside = (false, false, inside) := by
  have first : Text.startsWith ['~'] inside = false := by
    rw [Text.startsWith_singleton]
    simpa using isInside.noTilde
  have last : Text.endsWith ['~'] inside = false := by
    rw [Text.endsWith_singleton]
    simpa using isInside.noLastTilde
  simp [takeTildes, first, last]

theorem tagInside?_of_isInside {inside : List Char} (isInside : IsInside inside)
    (rest : List Char) :
    tagInside? (inside ++ (closeTag ++ rest)) = some (inside, rest) := by
  have cut := Text.cutFragment?_append isInside.noClosing ['\x7d'] rest
  unfold tagInside?
  split
  · rename_i other starts
    exfalso
    cases inside with
    | nil => cases starts
    | cons c inside =>
        injection starts with same
        exact isInside.noOpening (same ▸ List.mem_cons_self)
  · exact cut

theorem cut_openTag {characters : List Char} (plain : characters = [] ∨ IsText characters)
    (after : List Char) :
    Text.cutFragment? openTag (characters ++ (openTag ++ after)) = some (characters, after) := by
  rw [Text.cutFragment?_eq_some_iff (by decide)]
  refine ⟨rfl, ?_⟩
  rcases plain with rfl | isText
  · decide
  · -- The braces would have to overlap the end of the text.
    intro occurs
    rcases List.infix_concat_iff.mp occurs with isSuffix | earlier
    · rcases List.suffix_concat_iff.mp isSuffix with none | ⟨front, split, ⟨start, ends⟩⟩
      · cases none
      · have braces : ['\x7b'] ++ ['\x7b'] = front ++ ['\x7b'] := split
        apply isText.ending
        rw [← ends, ← List.append_inj_left' braces rfl, List.getLast?_concat]
    · exact isText.unopened earlier

theorem tokensFrom_text {text : List Char} (unopened : ¬openTag <:+: text) (fuel : Nat) :
    tokensFrom (fuel + 1) false text = .ok (textToken text) := by
  rw [tokensFrom, Text.cutFragment?_eq_none_iff.mpr unopened]
  rfl

/-- What precedes a tag and the tag itself. -/
theorem tokensFrom_tag {characters inside : List Char}
    (plain : characters = [] ∨ IsText characters) (isInside : IsInside inside) (fuel : Nat)
    (rest : List Char) :
    tokensFrom (fuel + 1) false (characters ++ (tagText inside ++ rest)) =
      (tokensFrom fuel false rest).map
        (textToken characters ++ .tag (Text.trim inside) :: ·) := by
  rw [tagText, List.append_assoc, List.append_assoc, tokensFrom, cut_openTag plain]
  simp only [tagInside?_of_isInside isInside, takeTildes_of_isInside isInside]
  cases tokensFrom fuel false rest <;> rfl

theorem Reads.tag {inside rest : List Char} {read : List Token} (isInside : IsInside inside)
    (reads : Reads rest read) :
    Reads (tagText inside ++ rest) (.tag (Text.trim inside) :: read) := by
  intro fuel enough
  cases fuel with
  | zero => cases enough
  | succ fuel =>
      have restRead : tokensFrom fuel false rest = .ok read := by
        apply reads
        simp [tagText, openTag, closeTag] at enough
        omega
      have step := tokensFrom_tag (.inl rfl) isInside fuel rest
      rw [List.nil_append, restRead] at step
      exact step

theorem Reads.text {characters after : List Char} {read : List Token} (isText : IsText characters)
    (interrupts : Interrupts after) (reads : Reads after read) :
    Reads (characters ++ after) (.text characters :: read) := by
  have token : textToken characters = [.text characters] := by
    simp [textToken, isText.nonempty]
  intro fuel enough
  cases fuel with
  | zero => cases enough
  | succ fuel =>
      have afterRead : tokensFrom (fuel + 1) false after = .ok read := by
        apply reads
        simp at enough
        omega
      rcases interrupts with rfl | ⟨inside, rest, isInside, rfl⟩
      · rw [tokensFrom_text (by decide)] at afterRead
        cases afterRead
        rw [List.append_nil, tokensFrom_text isText.unopened, token]
        rfl
      · have bare := tokensFrom_tag (.inl rfl) isInside fuel rest
        rw [List.nil_append, afterRead] at bare
        rw [tokensFrom_tag (.inr isText) isInside]
        cases restRead : tokensFrom fuel false rest with
        | error error => rw [restRead] at bare; cases bare
        | ok tokens =>
            rw [restRead] at bare
            cases bare
            rw [token]
            rfl

/-! ## The tags of blocks -/

theorem isInside_elseTag : IsInside elseTag := by
  constructor <;> decide

theorem isInside_opening (kind : BlockKind) {argument : List Char}
    (isArgument : IsArgument argument) :
    IsInside ('#' :: (kind.name.toList ++ ' ' :: argument)) where
  noOpening := by
    have := isArgument.noOpening
    cases kind <;> simp [BlockKind.name, this]
  noClosing := by
    have := isArgument.noClosing
    cases kind <;> simp [BlockKind.name, this]
  noTilde := by simp
  noLastTilde := by
    have last := isArgument.noLastTilde
    rw [← List.cons_append, List.getLast?_append]
    cases argument with
    | nil => simp
    | cons c rest => simpa [List.getLast?_cons_cons, List.getLast?_cons] using last

theorem isInside_closing (kind : BlockKind) : IsInside ('/' :: kind.name.toList) := by
  cases kind <;> constructor <;> decide

/-- The blank after the name is dropped where there is no argument. -/
theorem plays_opening (kind : BlockKind) {argument : List Char}
    (isArgument : IsArgument argument) :
    Plays (Text.trim ('#' :: (kind.name.toList ++ ' ' :: argument)))
      (.opens kind.name.toList argument) := by
  cases argument with
  | nil =>
      have isTag : Text.trim ('#' :: (kind.name.toList ++ [' '])) = '#' :: kind.name.toList := by
        cases kind <;> decide
      have isName : Text.trim kind.name.toList = kind.name.toList ++ [] := by
        cases kind <;> decide
      rw [isTag]
      exact .opens isName kind.name_notBlank (by simp)
  | cons c rest =>
      have ends := (Text.trim_eq_self_iff.mp isArgument.trimmed).2
      have last : (kind.name.toList ++ ' ' :: c :: rest).getLast? = (c :: rest).getLast? := by
        simp [List.getLast?_cons]
      have kept : Text.trim (kind.name.toList ++ ' ' :: c :: rest) =
          kind.name.toList ++ ' ' :: c :: rest := by
        rw [Text.trim_eq_self_iff, last]
        exact ⟨by cases kind <;> simp [BlockKind.name] <;> decide, ends⟩
      have isTag : Text.trim ('#' :: (kind.name.toList ++ ' ' :: c :: rest)) =
          '#' :: (kind.name.toList ++ ' ' :: c :: rest) := by
        rw [Text.trim_of_head (by decide), Text.trimEnd_eq_self_iff.mpr (by rw [last]; exact ends)]
      have opens := Plays.opens kept kind.name_notBlank (by simp; decide)
      rwa [Text.trim_cons_blank (by decide), isArgument.trimmed, ← isTag] at opens

theorem plays_closing (kind : BlockKind) :
    Plays (Text.trim ('/' :: kind.name.toList)) (.closes kind.name.toList) := by
  have isName : Text.trim kind.name.toList = kind.name.toList := by cases kind <;> decide
  have isTag : Text.trim ('/' :: kind.name.toList) = '/' :: kind.name.toList := by
    cases kind <;> decide
  rw [isTag]
  have closes := Plays.closes kind.name.toList
  rwa [isName] at closes

/-! ## Reading what was printed -/

theorem interrupts_print {parts : List Part} (wellFormed : WellFormed parts)
    (noText : ∀ other, parts.head? ≠ some (.text other)) (spelled : Part → Bool)
    {after : List Char} (interrupts : Interrupts after) :
    Interrupts (printParts spelled parts ++ after) := by
  cases wellFormed with
  | nil => exact interrupts
  | text => exact absurd rfl (noText _)
  | expression isExpression =>
      rw [printParts, Part.print, List.append_assoc]
      exact .inr ⟨_, _, isExpression.toIsInside, rfl⟩
  | block kind isArgument =>
      rw [printParts, Part.print, List.append_assoc, List.append_assoc]
      exact .inr ⟨_, _, isInside_opening kind isArgument, rfl⟩

/-- A printed tree is read as tokens that are its writing, and what follows it is read on its own. -/
theorem WellFormed.reads {parts : List Part} (wellFormed : WellFormed parts)
    (spelled : Part → Bool) {after : List Char} {read : List Token}
    (interrupts : Interrupts after) (reads : Reads after read) :
    ∃ own, Nested own parts ∧ Reads (printParts spelled parts ++ after) (own ++ read) := by
  induction wellFormed generalizing after read with
  | nil => exact ⟨[], .nil, reads⟩
  | text isText apart restFormed induction =>
      rcases induction interrupts reads with ⟨own, nested, ownReads⟩
      refine ⟨_, .text _ nested, ?_⟩
      rw [printParts, Part.print, List.append_assoc]
      exact .text isText (interrupts_print restFormed apart spelled interrupts) ownReads
  | @expression inside rest isExpression _ induction =>
      rcases induction interrupts reads with ⟨own, nested, ownReads⟩
      refine ⟨.tag inside :: own, .shown (.shows isExpression.plain isExpression.notElse) nested, ?_⟩
      rw [printParts, Part.print, List.append_assoc]
      have tagReads := ownReads.tag isExpression.toIsInside
      rwa [isExpression.trimmed] at tagReads
  | @block kind argument body otherwise rest isArgument _ _ _ induction otherInduction
      restInduction =>
      rcases restInduction interrupts reads with ⟨own, nested, restReads⟩
      have opens := plays_opening kind isArgument
      have closes := plays_closing kind
      have closingReads := restReads.tag (isInside_closing kind)
      have closing : Interrupts (tagText ('/' :: kind.name.toList) ++
          (printParts spelled rest ++ after)) :=
        .inr ⟨_, _, isInside_closing kind, rfl⟩
      rw [printParts, Part.print]
      split
      · rename_i bare
        have isEmpty : otherwise = [] := by simp at bare; exact bare.1
        subst isEmpty
        rcases induction closing closingReads with ⟨inner, nestedBody, bodyReads⟩
        refine ⟨_, .block opens nestedBody closes nested, ?_⟩
        have blockReads := bodyReads.tag (isInside_opening kind isArgument)
        simpa using blockReads
      · rcases otherInduction closing closingReads with ⟨other, nestedOther, otherReads⟩
        have elseReads := otherReads.tag isInside_elseTag
        rcases induction (.inr ⟨_, _, isInside_elseTag, rfl⟩) elseReads with
          ⟨inner, nestedBody, bodyReads⟩
        refine ⟨_, .branches opens nestedBody nestedOther closes nested, ?_⟩
        have blockReads := bodyReads.tag (isInside_opening kind isArgument)
        simpa [show Text.trim elseTag = elseTag by decide] using blockReads

theorem partsOf_print {parts : List Part} (wellFormed : WellFormed parts)
    (spelled : Part → Bool) : partsOf (printParts spelled parts) = .ok parts := by
  have nothing : Reads [] [] := by
    intro fuel enough
    cases fuel with
    | zero => cases enough
    | succ fuel => exact tokensFrom_text (by decide) fuel
  rcases wellFormed.reads spelled (.inl rfl) nothing with ⟨own, nested, reads⟩
  rw [List.append_nil, List.append_nil] at reads
  have tokensRead : tokens (printParts spelled parts) = .ok own := reads _ (Nat.lt_succ_self _)
  simp only [partsOf, tokensRead]
  exact parse_eq_ok_iff.mpr nested

/-! ## Templates that are shown as they stand -/

/-- The template has an opening tag whose closing braces do not follow; the tags before it are
closed. -/
inductive Unclosed : List Char → Prop
  | here {template text afterOpen : List Char}
      (opened : Text.cutFragment? openTag template = some (text, afterOpen))
      (unclosed : tagInside? afterOpen = none) : Unclosed template
  | later {template text afterOpen inside rest : List Char}
      (opened : Text.cutFragment? openTag template = some (text, afterOpen))
      (closed : tagInside? afterOpen = some (inside, rest)) (unclosed : Unclosed rest) :
      Unclosed template

theorem length_lt_of_cutFragment? {fragment text before after : List Char}
    (nonempty : fragment ≠ []) (cut : Text.cutFragment? fragment text = some (before, after)) :
    after.length < text.length := by
  have length : 0 < fragment.length := List.length_pos_iff.mpr nonempty
  rw [((Text.cutFragment?_eq_some_iff nonempty).mp cut).1]
  simp
  omega

theorem length_lt_of_tagInside? {afterOpen inside rest : List Char}
    (closed : tagInside? afterOpen = some (inside, rest)) : rest.length < afterOpen.length := by
  unfold tagInside? at closed
  split at closed
  · have shorter := length_lt_of_cutFragment? (by decide) closed
    simp
    omega
  · exact length_lt_of_cutFragment? (by decide) closed

/-- A tag that is closed makes no difference to what is not. -/
theorem unclosed_iff_rest {template text afterOpen inside rest : List Char}
    (opened : Text.cutFragment? openTag template = some (text, afterOpen))
    (closed : tagInside? afterOpen = some (inside, rest)) :
    Unclosed template ↔ Unclosed rest := by
  constructor
  · intro unclosed
    cases unclosed with
    | here other notClosed =>
        rw [opened] at other
        cases other
        rw [closed] at notClosed
        cases notClosed
    | later other otherClosed unclosed =>
        rw [opened] at other
        cases other
        rw [closed] at otherClosed
        cases otherClosed
        exact unclosed
  · exact .later opened closed

/-- Templates are cut into tokens unless a tag is not closed. -/
theorem tokensFrom_eq_error_iff {fuel : Nat} {template : List Char}
    (enough : template.length < fuel) (trimming : Bool) (error : TemplateError) :
    tokensFrom fuel trimming template = .error error ↔
      error = .unclosedTag ∧ Unclosed template := by
  induction fuel generalizing trimming template with
  | zero => cases enough
  | succ fuel induction =>
      rw [tokensFrom]
      cases opened : Text.cutFragment? openTag template with
      | none =>
          refine iff_of_false nofun fun ⟨_, unclosed⟩ => ?_
          cases unclosed with
          | here other => rw [opened] at other; cases other
          | later other => rw [opened] at other; cases other
      | some cut =>
          rcases cut with ⟨text, afterOpen⟩
          cases closed : tagInside? afterOpen with
          | none =>
              simp only [closed]
              constructor
              · intro fails
                cases fails
                exact ⟨rfl, .here opened closed⟩
              · rintro ⟨rfl, -⟩
                rfl
          | some tag =>
              rcases tag with ⟨inside, rest⟩
              have shorter := length_lt_of_cutFragment? (by decide) opened
              have shorterRest := length_lt_of_tagInside? closed
              rw [unclosed_iff_rest opened closed,
                ← induction (by omega) (takeTildes inside).2.1]
              simp only [closed]
              cases tokensFrom fuel (takeTildes inside).2.1 rest <;> simp

theorem unclosed_iff_no_tokens (template : List Char) :
    Unclosed template ↔ ∀ read, tokens template ≠ .ok read := by
  have refused := tokensFrom_eq_error_iff (Nat.lt_succ_self template.length) false
  constructor
  · intro unclosed read
    rw [tokens, (refused .unclosedTag).mpr ⟨rfl, unclosed⟩]
    nofun
  · intro none
    cases result : tokens template with
    | error error => exact ((refused error).mp result).2
    | ok read => exact absurd result (none read)

theorem render_of_refused {template : String}
    (refused : ∀ parts, partsOf template.toList ≠ .ok parts) (data : Json) :
    render template data = template := by
  cases result : partsOf template.toList with
  | error error => simp only [render, renderChars, pieces, result, String.ofList_toList]
  | ok parts => exact absurd result (refused parts)

/-- The parser of message templates accepts exactly their block grammar. A printed tree is read
back as that tree; tokens are accepted if and only if their tags are well nested; and a template with
other tags, or with a tag that is not closed, is shown as it stands. -/
theorem templates_are_read_by_their_grammar :
    (∀ (parts : List Part) (spelled : Part → Bool), WellFormed parts →
      partsOf (printParts spelled parts) = .ok parts) ∧
    (∀ tokens, (∃ parts, parse tokens = .ok parts) ↔ WellNested tokens) ∧
    (∀ template : List Char, Unclosed template ↔ ∀ read, tokens template ≠ .ok read) ∧
    (∀ (template : String) (data : Json),
      Unclosed template.toList ∨
        (∃ read, tokens template.toList = .ok read ∧ ¬WellNested read) →
      render template data = template) := by
  refine ⟨fun parts spelled wellFormed => partsOf_print wellFormed spelled,
    fun tokens => exists_congr fun _ => parse_eq_ok_iff, unclosed_iff_no_tokens, ?_⟩
  intro template data faulty
  refine render_of_refused (fun parts accepted => ?_) data
  unfold partsOf at accepted
  rcases faulty with unclosed | ⟨read, isRead, notNested⟩
  · cases result : tokens template.toList with
    | error error => simp [result] at accepted
    | ok read => exact (unclosed_iff_no_tokens _).mp unclosed read result
  · simp only [isRead] at accepted
    exact notNested ⟨parts, parse_eq_ok_iff.mp accepted⟩

namespace Sample

/-- A list with a comma behind every item but the last, and a text for the case that it is empty. -/
def todoList : List Part :=
  [.text "Liste: ".toList,
    .block .each "todos".toList
      [.expression "this.title".toList,
        .block .unless "@last".toList [.text ", ".toList] []]
      [.text "Aucune".toList]]

def todoTemplate : String :=
  "Liste: \x7b\x7b#each todos\x7d\x7d\x7b\x7bthis.title\x7d\x7d\x7b\x7b#unless @last\x7d\x7d, " ++
    "\x7b\x7b/unless\x7d\x7d\x7b\x7belse\x7d\x7dAucune\x7b\x7b/each\x7d\x7d"

/-- Two blocks that cross each other. -/
def crossed : List Token := [.tag "#if a".toList, .tag "/each".toList]

def crossedTemplate : String := "\x7b\x7b#if a\x7d\x7d\x7b\x7b/each\x7d\x7d"

end Sample

theorem todo_list_is_read_back :
    WellFormed Sample.todoList ∧
    printParts (fun _ => false) Sample.todoList = Sample.todoTemplate.toList ∧
    partsOf Sample.todoTemplate.toList = .ok Sample.todoList ∧
    ¬WellNested Sample.crossed ∧ tokens Sample.crossedTemplate.toList = .ok Sample.crossed ∧
    render Sample.crossedTemplate .null = Sample.crossedTemplate := by
  rcases templates_are_read_by_their_grammar with ⟨readBack, nested, -, shown⟩
  have wellFormed : WellFormed Sample.todoList := by
    have heading : IsText "Liste: ".toList := by constructor <;> decide +kernel
    have items : IsArgument "todos".toList := ⟨by constructor <;> decide +kernel, by decide +kernel⟩
    have isLast : IsArgument "@last".toList :=
      ⟨by constructor <;> decide +kernel, by decide +kernel⟩
    have first : "this.title".toList.head? = some 't' := by decide +kernel
    have title : IsExpression "this.title".toList := by
      refine ⟨by constructor <;> decide +kernel, ?_, ?_, ?_, ?_⟩
      case refine_3 =>
        rw [first]
        rintro c ⟨⟩
        decide
      all_goals decide +kernel
    have comma : WellFormed [.text ", ".toList] :=
      .text (by constructor <;> decide +kernel) (by simp) .nil
    have nothing : WellFormed [.text "Aucune".toList] :=
      .text (by constructor <;> decide +kernel) (by simp) .nil
    have body := WellFormed.expression title (.block .unless isLast comma .nil .nil)
    have list := WellFormed.block .each items body nothing .nil
    exact WellFormed.text heading (fun _ => nofun) list
  have printed : printParts (fun _ => false) Sample.todoList = Sample.todoTemplate.toList := by
    decide +kernel
  have misnested : ¬WellNested Sample.crossed := by
    rw [← nested]
    rintro ⟨parts, accepted⟩
    have refused : (parse Sample.crossed).toOption.isNone := by decide +kernel
    rw [accepted] at refused
    cases refused
  have isRead : tokens Sample.crossedTemplate.toList = .ok Sample.crossed := by
    have cut : (tokens Sample.crossedTemplate.toList).toOption = some Sample.crossed := by
      decide +kernel
    cases result : tokens Sample.crossedTemplate.toList with
    | error error => rw [result] at cut; cases cut
    | ok read => rw [result] at cut; rw [Option.some.inj cut]
  refine ⟨wellFormed, printed, ?_, misnested, isRead, ?_⟩
  · rw [← printed]
    exact readBack Sample.todoList _ wellFormed
  · exact shown Sample.crossedTemplate .null (.inr ⟨Sample.crossed, isRead, misnested⟩)

end Ussd.Message
