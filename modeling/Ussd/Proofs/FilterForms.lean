import Mathlib.Data.List.Forall2
import Ussd.Proofs.JoinedTemplates
import Ussd.Proofs.PlainPlaceholders

/-! # Forms of a filter

In a message a filter can be applied as a helper in front of its operand or in a pipe behind it. The
first is cut into arguments at blanks and the second at bars and colons, but both are the same filter
of the same value, so one can stand for the other in any place of a message. -/

namespace Ussd.Message

/-! ## Exchanging an expression -/

/-- What a block shows depends on what its two groups of parts show. -/
theorem unfold_block_congr {body otherwise newBody newOtherwise : List Part}
    (same : ∀ scopes, shownIn scopes newBody = shownIn scopes body)
    (sameOther : ∀ scopes, shownIn scopes newOtherwise = shownIn scopes otherwise)
    (kind : BlockKind) (argument : List Char) (scopes : List Scope) :
    ((Part.block kind argument newBody newOtherwise).unfold scopes).flatMap Piece.characters =
      ((Part.block kind argument body otherwise).unfold scopes).flatMap Piece.characters := by
  simp only [shownIn] at same sameOther
  cases kind with
  | ifTrue =>
      simp only [Part.unfold, List.flatMap_cons]
      split
      · rw [same]
      · rw [sameOther]
  | «unless» =>
      simp only [Part.unfold, List.flatMap_cons]
      split
      · rw [sameOther]
      · rw [same]
  | each =>
      simp only [Part.unfold]
      split
      · rw [sameOther]
      · simp only [List.flatMap_assoc, same]
  | «with» =>
      simp only [Part.unfold]
      split
      · rw [sameOther]
      · rw [sameOther]
      · rw [same]

/-- The same token, or another expression that has the same value everywhere. -/
inductive SameToken : Token → Token → Prop
  | same (token : Token) : SameToken token token
  | shown {inside other : List Char} (plays : Plays inside (.shows inside))
      (otherPlays : Plays other (.shows other))
      (sameValue : ∀ scopes, evaluate scopes other = evaluate scopes inside) :
      SameToken (.tag other) (.tag inside)

/-- Only an expression can be exchanged. -/
theorem SameToken.eq_of_not_shown {token : Token} {tag : List Char} {role : TagRole}
    (same : SameToken token (.tag tag)) (plays : Plays tag role) (notShown : role ≠ .shows tag) :
    token = .tag tag := by
  cases same with
  | same => rfl
  | shown tagPlays => exact absurd (plays.roleOf_eq.symm.trans tagPlays.roleOf_eq) notShown

theorem exists_of_forall₂_append {related : Token → Token → Prop} {others front back : List Token}
    (same : List.Forall₂ related others (front ++ back)) :
    ∃ newFront newBack, others = newFront ++ newBack ∧ List.Forall₂ related newFront front ∧
      List.Forall₂ related newBack back :=
  ⟨_, _, (List.take_append_drop front.length others).symm, List.forall₂_take_append _ _ _ same,
    List.forall₂_drop_append _ _ _ same⟩

theorem Nested.exchange {read others : List Token} {parts : List Part} (nested : Nested read parts)
    (same : List.Forall₂ SameToken others read) :
    ∃ newParts, Nested others newParts ∧
      ∀ scopes, shownIn scopes newParts = shownIn scopes parts := by
  induction nested generalizing others with
  | nil =>
      cases same
      exact ⟨[], .nil, fun _ => rfl⟩
  | text characters _ induction =>
      cases same with
      | cons sameToken sameRest =>
          cases sameToken
          rcases induction sameRest with ⟨newParts, newNested, shown⟩
          refine ⟨_, .text characters newNested, fun scopes => ?_⟩
          rw [shownIn_text, shownIn_text, shown]
  | comment plays _ induction =>
      cases same with
      | cons sameToken sameRest =>
          cases sameToken.eq_of_not_shown plays (by simp)
          rcases induction sameRest with ⟨newParts, newNested, shown⟩
          exact ⟨newParts, .comment plays newNested, shown⟩
  | shown plays _ induction =>
      cases same with
      | cons sameToken sameRest =>
          rcases induction sameRest with ⟨newParts, newNested, shown⟩
          cases sameToken with
          | same =>
              refine ⟨_, .shown plays newNested, fun scopes => ?_⟩
              rw [shownIn_cons, shownIn_cons, shown]
          | shown _ otherPlays sameValue =>
              refine ⟨_, .shown otherPlays newNested, fun scopes => ?_⟩
              rw [shownIn_cons, shownIn_cons, shown]
              simp [Part.unfold, Piece.characters, sameValue]
  | block opens _ closes _ bodyInduction induction =>
      cases same with
      | cons sameOpening sameRest =>
          cases sameOpening.eq_of_not_shown opens (by simp)
          rcases exists_of_forall₂_append sameRest with ⟨inner, rest, rfl, sameInner, sameEnd⟩
          cases sameEnd with
          | cons sameClosing sameAfter =>
              cases sameClosing.eq_of_not_shown closes (by simp)
              rcases bodyInduction sameInner with ⟨body, nestedBody, bodyShown⟩
              rcases induction sameAfter with ⟨newParts, newNested, shown⟩
              refine ⟨_, .block opens nestedBody closes newNested, fun scopes => ?_⟩
              rw [shownIn_cons, shownIn_cons, shown,
                unfold_block_congr bodyShown fun _ => rfl]
  | branches opens _ _ closes _ bodyInduction otherInduction induction =>
      cases same with
      | cons sameOpening sameRest =>
          cases sameOpening.eq_of_not_shown opens (by simp)
          rcases exists_of_forall₂_append sameRest with ⟨inner, middle, rfl, sameInner, sameMiddle⟩
          cases sameMiddle with
          | cons sameElse sameOtherwise =>
              cases sameElse.eq_of_not_shown .orElse (by simp)
              rcases exists_of_forall₂_append sameOtherwise with
                ⟨other, rest, rfl, sameOther, sameEnd⟩
              cases sameEnd with
              | cons sameClosing sameAfter =>
                  cases sameClosing.eq_of_not_shown closes (by simp)
                  rcases bodyInduction sameInner with ⟨body, nestedBody, bodyShown⟩
                  rcases otherInduction sameOther with ⟨otherwise, nestedOther, otherShown⟩
                  rcases induction sameAfter with ⟨newParts, newNested, shown⟩
                  refine ⟨_, .branches opens nestedBody nestedOther closes newNested,
                    fun scopes => ?_⟩
                  rw [shownIn_cons, shownIn_cons, shown, unfold_block_congr bodyShown otherShown]

/-- A tag is read on its own wherever it stands. -/
theorem tokenized_tagText_iff {lead inside after : List Char} {trimming : Bool}
    {read : List Token} (isLead : IsLead lead) (isInside : IsInside inside) :
    Tokenized trimming (lead ++ (tagText inside ++ after)) read ↔
      ∃ behind, Tokenized false after behind ∧
        read = textToken (leftOver trimming false lead) ++ .tag (Text.trim inside) :: behind := by
  have layout : tagText inside ++ after = openTag ++ (inside ++ (closeTag ++ after)) := by
    simp [tagText]
  have opened : Text.cutFragment? openTag (lead ++ (tagText inside ++ after)) =
      some (lead, inside ++ (closeTag ++ after)) := by
    have bare := cut_openTag (.inl rfl) (inside ++ (closeTag ++ after))
    rw [layout]
    simpa using isLead.cut_append bare
  exact tokenized_tag_iff opened (tagInside?_of_isInside isInside after)
    (takeTildes_of_isInside isInside)

/-- Two expressions with one value can stand for each other behind any text that does not reach into
their tags. -/
theorem exists_parts_of_exchange {before after inside other : List Char} {read : List Token}
    {parts : List Part} (tokenized : Tokenized false before read)
    (ending : before.getLast? ≠ some '\x7b') (isExpression : IsExpression inside)
    (otherIsExpression : IsExpression other)
    (sameValue : ∀ scopes, evaluate scopes other = evaluate scopes inside)
    (accepted : partsOf (before ++ (tagText inside ++ after)) = .ok parts) :
    ∃ others, partsOf (before ++ (tagText other ++ after)) = .ok others ∧
      ∀ scopes, shownIn scopes others = shownIn scopes parts := by
  rcases tokenized.readUpTo ending with ⟨own, trims, lead, readUpTo⟩
  rcases partsOf_eq_ok_iff.mp accepted with ⟨joined, joinedTokenized, nested⟩
  rcases (readUpTo.joins _ _).mp joinedTokenized with ⟨rest, restTokenized, rfl⟩
  rcases (tokenized_tagText_iff readUpTo.isLead isExpression.toIsInside).mp restTokenized with
    ⟨behind, behindTokenized, rfl⟩
  rw [isExpression.trimmed] at nested
  have exchanged : SameToken (.tag other) (.tag inside) :=
    .shown (.shows isExpression.plain isExpression.notElse)
      (.shows otherIsExpression.plain otherIsExpression.notElse) sameValue
  have itself (tokens : List Token) : List.Forall₂ SameToken tokens tokens :=
    List.forall₂_same.mpr fun token _ => .same token
  have same : List.Forall₂ SameToken
      (own ++ (textToken (leftOver trims false lead) ++ .tag other :: behind))
      (own ++ (textToken (leftOver trims false lead) ++ .tag inside :: behind)) :=
    List.rel_append (itself own)
      (List.rel_append (itself _) (.cons exchanged (itself behind)))
  rcases nested.exchange same with ⟨others, othersNested, shown⟩
  have otherRest : Tokenized trims (lead ++ (tagText other ++ after))
      (textToken (leftOver trims false lead) ++ .tag other :: behind) :=
    (tokenized_tagText_iff readUpTo.isLead otherIsExpression.toIsInside).mpr
      ⟨behind, behindTokenized, by rw [otherIsExpression.trimmed]⟩
  exact ⟨others, partsOf_eq_ok_iff.mpr
    ⟨_, (readUpTo.joins _ _).mpr ⟨_, otherRest, rfl⟩, othersNested⟩, shown⟩

/-! ## Operands -/

theorem notBlank_of_isQuote {c : Char} (isMark : Pipeline.isQuote c) : Text.isBlank c = false := by
  simp only [Pipeline.isQuote, Bool.or_eq_true, beq_iff_eq] at isMark
  rcases isMark with rfl | rfl <;> decide

/-- Text in which blanks, bars and quotes stand only between two equal quotes. -/
inductive Unbroken : List Char → Prop
  | nil : Unbroken []
  | plain {c : Char} {rest : List Char} (notQuote : Pipeline.isQuote c = false) (notBar : c ≠ '|')
      (notBlank : Text.isBlank c = false) (unbroken : Unbroken rest) : Unbroken (c :: rest)
  | quoted {mark : Char} {text rest : List Char} (isMark : Pipeline.isQuote mark)
      (unquoted : mark ∉ text) (unbroken : Unbroken rest) :
      Unbroken ((mark :: (text ++ [mark])) ++ rest)

theorem unbroken_of_plain {text : List Char}
    (plain : ∀ c ∈ text, Pipeline.isQuote c = false ∧ c ≠ '|' ∧ Text.isBlank c = false) :
    Unbroken text := by
  induction text with
  | nil => exact .nil
  | cons c text induction =>
      rcases List.forall_mem_cons.mp plain with ⟨⟨notQuote, notBar, notBlank⟩, textPlain⟩
      exact .plain notQuote notBar notBlank (induction textPlain)

theorem Unbroken.isPart {text : List Char} (unbroken : Unbroken text) : Pipeline.IsPart text := by
  induction unbroken with
  | nil => exact Pipeline.isPart_of_plain (by simp)
  | @plain c rest notQuote notBar notBlank _ induction =>
      have first : Pipeline.IsPart [c] := Pipeline.isPart_of_plain (by simp [notQuote, notBar])
      exact first.append induction
  | quoted isMark unquoted _ induction =>
      exact (Pipeline.isPart_quoted isMark unquoted).append induction

theorem IsWord.append {text other : List Char} (isWord : IsWord text) (otherIsWord : IsWord other) :
    IsWord (text ++ other) := by
  intro current rest
  rw [List.append_assoc, isWord, otherIsWord]
  simp

theorem isWord_quoted {mark : Char} (isMark : Pipeline.isQuote mark) {text : List Char}
    (unquoted : mark ∉ text) : IsWord (mark :: (text ++ [mark])) := by
  have closed (collected rest : List Char) :
      splitArgumentsFrom (some mark) (some collected) (text ++ mark :: rest) =
        splitArgumentsFrom none (some (mark :: (text.reverse ++ collected))) rest := by
    induction text generalizing collected with
    | nil => simp [splitArgumentsFrom]
    | cons c text induction =>
        rw [List.mem_cons, not_or] at unquoted
        rcases unquoted with ⟨different, absent⟩
        simp [splitArgumentsFrom, Ne.symm different, induction absent]
  intro current rest
  simp [splitArgumentsFrom, isMark, closed]

theorem Unbroken.isWord {text : List Char} (unbroken : Unbroken text) (nonempty : text ≠ []) :
    IsWord text := by
  induction unbroken with
  | nil => exact absurd rfl nonempty
  | @plain c rest notQuote _ notBlank _ induction =>
      have first : IsWord [c] := isWord_of_plain nofun (by simp [notQuote, notBlank])
      by_cases isEnd : rest = []
      · rwa [isEnd]
      · exact first.append (induction isEnd)
  | @quoted mark text rest isMark unquoted _ induction =>
      have first := isWord_quoted isMark unquoted
      by_cases isEnd : rest = []
      · rwa [isEnd, List.append_nil]
      · exact first.append (induction isEnd)

/-- No blank stands at an edge. -/
theorem Unbroken.trim {text : List Char} (unbroken : Unbroken text) : Text.trim text = text := by
  rw [Text.trim_eq_self_iff]
  constructor
  · cases unbroken with
    | nil => simp
    | plain _ _ notBlank => simpa using notBlank
    | quoted isMark => simpa using notBlank_of_isQuote isMark
  · induction unbroken with
    | nil => simp
    | @plain c rest _ _ notBlank _ induction =>
        cases rest with
        | nil => simpa using notBlank
        | cons d rest => simpa using induction
    | @quoted mark text rest isMark _ _ induction =>
        cases rest with
        | nil =>
            have notBlank := notBlank_of_isQuote isMark
            rw [List.append_nil, ← List.cons_append, List.getLast?_concat]
            simpa using notBlank
        | cons d rest =>
            have sameLast := List.getLast?_append_of_ne_nil (mark :: (text ++ [mark]))
              (List.cons_ne_nil d rest)
            rwa [sameLast]

/-- What a filter can be applied to in a tag, such as a path or a text in quotes. -/
structure IsOperand (operand : List Char) : Prop extends IsInside operand where
  unbroken : Unbroken operand
  nonempty : operand ≠ []
  plain : ∀ c ∈ operand.head?, c ∉ ['#', '/', '!']

/-! ## Two forms of a filter -/

open Placeholder

def nameOf (filter : Filter) : Name where
  initial := filter.name.toList.headD '_'
  others := filter.name.toList.tail
  isInitial := by cases filter <;> decide +kernel
  areNameChars := by cases filter <;> exact Text.forall_of_all (by decide +kernel)

theorem text_nameOf (filter : Filter) : (nameOf filter).text = filter.name.toList := by
  cases filter <;> decide +kernel

theorem named?_name (filter : Filter) : Filter.named? filter.name = some filter := by
  cases filter <;> decide +kernel

theorem applyFilter_nameOf (filter : Filter) (argument : Option (List Char)) (value : Json) :
    applyFilter (nameOf filter).text argument value = filter.apply argument value := by
  have isName : Text.trim (nameOf filter).text = (nameOf filter).text :=
    Text.trim_of_forall fun c isMember => isBlank_of_isNameChar (Name.isNameChar isMember)
  rw [applyFilter, isName, text_nameOf, String.ofList_toList, named?_name]

/-- What stands between double quotes. -/
abbrev FilterArgument := { text : Braceless // '"' ∉ text.1 }

def FilterArgument.quoted (argument : FilterArgument) : List Char := '"' :: (argument.1.1 ++ ['"'])

def helperForm (filter : Filter) (argument : Option FilterArgument) (operand : List Char) :
    List Char :=
  match argument with
  | none => (nameOf filter).text ++ ' ' :: operand
  | some argument => (nameOf filter).text ++ ' ' :: (operand ++ ' ' :: argument.quoted)

def pipeForm (filter : Filter) (argument : Option FilterArgument) (operand : List Char) :
    List Char :=
  operand ++ callsText [{ filter := nameOf filter, argument := argument }]

theorem IsWord.splitArguments_blank {text : List Char} (isWord : IsWord text) (rest : List Char) :
    splitArguments (text ++ ' ' :: rest) = text :: splitArguments rest := by
  have blank : Pipeline.isQuote ' ' = false ∧ Text.isBlank ' ' = true := by decide
  rw [splitArguments, isWord, splitArgumentsFrom]
  simp [blank, splitArguments]

theorem splitArguments_helperForm (filter : Filter) (argument : Option FilterArgument)
    {operand : List Char} (isOperand : IsOperand operand) :
    splitArguments (helperForm filter argument operand) =
      (nameOf filter).text :: operand :: (argument.map FilterArgument.quoted).toList := by
  have name : IsWord (nameOf filter).text := by
    refine isWord_of_plain nofun fun c isMember => ?_
    have isName := Name.isNameChar isMember
    exact ⟨(plain_of_isNameChar isName).1, isBlank_of_isNameChar isName⟩
  have word := isOperand.unbroken.isWord isOperand.nonempty
  cases argument with
  | none =>
      rw [helperForm, name.splitArguments_blank, word.splitArguments_self]
      rfl
  | some argument =>
      have quoted : IsWord argument.quoted := isWord_quoted (by decide) argument.2
      rw [helperForm, name.splitArguments_blank, word.splitArguments_blank,
        quoted.splitArguments_self]
      rfl

theorem isPart_helperForm (filter : Filter) (argument : Option FilterArgument) {operand : List Char}
    (isOperand : IsOperand operand) : Pipeline.IsPart (helperForm filter argument operand) := by
  have blank := Pipeline.isPart_blank
  have isPart := isOperand.unbroken.isPart
  cases argument with
  | none => exact (nameOf filter).isPart.append (blank.append isPart)
  | some argument =>
      have quoted : Pipeline.IsPart argument.quoted :=
        Pipeline.isPart_quoted (by decide) argument.2
      exact (nameOf filter).isPart.append (blank.append (isPart.append (blank.append quoted)))

theorem argument_quoted (scopes : List Scope) (filterArgument : FilterArgument) :
    argument scopes filterArgument.quoted = .text (String.ofList filterArgument.1.1) := by
  have isMark : Pipeline.isQuote '"' := by decide
  simp [argument, FilterArgument.quoted, isMark, Pipeline.unquote_quoted]

theorem evaluate_helperForm (filter : Filter) (filterArgument : Option FilterArgument)
    {operand : List Char} (isOperand : IsOperand operand) (scopes : List Scope) :
    evaluate scopes (helperForm filter filterArgument operand) =
      filter.apply (filterArgument.map fun text => text.1.1) (argument scopes operand) := by
  have notAdd : (nameOf filter).text ≠ "add".toList := by
    cases filter <;> decide +kernel
  have isName : String.ofList (nameOf filter).text = filter.name := by
    rw [text_nameOf, String.ofList_toList]
  simp only [evaluate, (isPart_helperForm filter filterArgument isOperand).split_self,
    splitArguments_helperForm filter filterArgument isOperand, if_neg notAdd, isName, named?_name]
  cases filterArgument with
  | none => rfl
  | some text => simp [argument_quoted, Json.display]

theorem evaluate_pipeForm (filter : Filter) (filterArgument : Option FilterArgument)
    {operand : List Char} (isOperand : IsOperand operand) (scopes : List Scope) :
    evaluate scopes (pipeForm filter filterArgument operand) =
      filter.apply (filterArgument.map fun text => text.1.1) (argument scopes operand) := by
  rcases split_callsText isOperand.unbroken.isPart
    [{ filter := nameOf filter, argument := filterArgument }] with
    ⟨blanks, segments, areBlank, isSplit, parsed⟩
  have applied := applySegments_of_parsed parsed (argument scopes operand)
  cases segments with
  | nil => cases parsed
  | cons segment segments =>
      simp only [evaluate, pipeForm, isSplit, Text.trim_append_blank areBlank,
        isOperand.unbroken.trim, applied]
      simp only [applyCalls, List.foldl_cons, List.foldl_nil, applyFilter_nameOf]

theorem FilterArgument.quoted_braceless (argument : FilterArgument) :
    ∀ c ∈ argument.quoted, isBrace c = false := by
  have mark : isBrace '"' = false := by decide
  simp only [FilterArgument.quoted, List.forall_mem_cons, List.forall_mem_append]
  exact ⟨mark, argument.1.2, mark, by simp⟩

theorem IsOperand.braceless {operand : List Char} (isOperand : IsOperand operand) :
    ∀ c ∈ operand, isBrace c = false := by
  intro c isMember
  have notOpening : c ≠ '\x7b' := by
    rintro rfl
    exact isOperand.noOpening isMember
  have notClosing : c ≠ '\x7d' := by
    rintro rfl
    exact isOperand.noClosing isMember
  simp [isBrace, notOpening, notClosing]

theorem IsOperand.endsPlainly {operand : List Char} (isOperand : IsOperand operand) :
    EndsPlainly operand := by
  have last := List.getLast?_eq_some_getLast isOperand.nonempty
  refine ⟨_, last, (Text.trim_eq_self_iff.mp isOperand.unbroken.trim).2 _ last, fun isTilde => ?_⟩
  exact isOperand.noLastTilde (isTilde ▸ last)

/-- A text with a blank in it is an expression if its first and its last character are neither
blanks nor marks of a tag. -/
theorem isExpression_of_edges {text : List Char} {first : Char} (starts : text.head? = some first)
    (firstPlain : first ∉ ['#', '/', '!', '~']) (firstStays : Text.isBlank first = false)
    (endsPlainly : EndsPlainly text) (braceless : ∀ c ∈ text, isBrace c = false)
    (blank : ' ' ∈ text) : IsExpression text := by
  rcases endsPlainly with ⟨last, ends, lastStays, lastNotTilde⟩
  simp only [List.mem_cons, List.not_mem_nil, or_false, not_or] at firstPlain
  refine ⟨⟨fun isMember => ?_, fun isMember => ?_, ?_, ?_⟩, ?_, ?_, ?_, ?_⟩
  · cases braceless _ isMember
  · cases braceless _ isMember
  · simp [starts, firstPlain]
  · simp [ends, lastNotTilde]
  · rw [Text.trim_eq_self_iff, starts, ends]
    simp [firstStays, lastStays]
  · rintro rfl
    cases starts
  · simp [starts, firstPlain]
  · rintro rfl
    revert blank
    decide

theorem isExpression_helperForm (filter : Filter) (argument : Option FilterArgument)
    {operand : List Char} (isOperand : IsOperand operand) :
    IsExpression (helperForm filter argument operand) := by
  have name : ∀ c ∈ (nameOf filter).text, isBrace c = false := fun c isMember =>
    braceless_of_isNameChar (Name.isNameChar isMember)
  have blank : isBrace ' ' = false := by decide
  have isInitial := isNameChar_of_isNameInitial (nameOf filter).isInitial
  have noMark := (initial_not_mem (nameOf filter).isInitial).1
  have notTilde := (plain_of_isNameChar isInitial).2.2.2.1
  have firstPlain : (nameOf filter).initial ∉ ['#', '/', '!', '~'] := by
    simp only [List.mem_cons, not_or] at noMark
    simp [noMark, notTilde]
  cases argument with
  | none =>
      refine isExpression_of_edges rfl firstPlain (isBlank_of_isNameChar isInitial) ?_ ?_ ?_
      · have ends := isOperand.endsPlainly.append ((nameOf filter).text ++ [' '])
        simpa [helperForm] using ends
      · simp only [helperForm, List.forall_mem_append, List.forall_mem_cons]
        exact ⟨name, blank, isOperand.braceless⟩
      · simp [helperForm]
  | some argument =>
      refine isExpression_of_edges rfl firstPlain (isBlank_of_isNameChar isInitial) ?_ ?_ ?_
      · have mark : EndsPlainly ['"'] := ⟨'"', rfl, by decide⟩
        have ends := mark.append
          ((nameOf filter).text ++ ' ' :: (operand ++ ' ' :: '"' :: argument.1.1))
        simpa [helperForm, FilterArgument.quoted] using ends
      · simp only [helperForm, List.forall_mem_append, List.forall_mem_cons]
        exact ⟨name, blank, isOperand.braceless, blank, argument.quoted_braceless⟩
      · simp [helperForm]

theorem isExpression_pipeForm (filter : Filter) (argument : Option FilterArgument)
    {operand : List Char} (isOperand : IsOperand operand) :
    IsExpression (pipeForm filter argument operand) := by
  let call : Call := { filter := nameOf filter, argument := argument }
  have layout : pipeForm filter argument operand = operand ++ [' ', '|', ' '] ++ call.text := by
    simp [pipeForm, callsText, call]
  have first := List.head?_eq_some_head isOperand.nonempty
  have starts : (pipeForm filter argument operand).head? =
      some (operand.head isOperand.nonempty) := by
    rw [pipeForm, List.head?_append, first]
    rfl
  have notTilde : operand.head isOperand.nonempty ≠ '~' := fun isTilde =>
    isOperand.noTilde (isTilde ▸ first)
  have plain := isOperand.plain _ first
  refine isExpression_of_edges starts ?_
    ((Text.trim_eq_self_iff.mp isOperand.unbroken.trim).1 _ first) ?_ ?_ ?_
  · simp only [List.mem_cons, not_or] at plain
    simp [plain, notTilde]
  · rw [layout]
    exact (endsPlainly_call call).append _
  · rw [pipeForm, List.forall_mem_append]
    exact ⟨isOperand.braceless, callsText_braceless _⟩
  · rw [layout]
    simp

/-- A filter can be applied as a helper in front of its operand or in a pipe behind it. The two tags
have one value in all scopes, and in the same place of a message they show the same text. -/
theorem helper_form_equals_pipe_form (filter : Filter) (filterArgument : Option FilterArgument)
    {operand : List Char} (isOperand : IsOperand operand) :
    (∀ scopes,
      evaluate scopes (helperForm filter filterArgument operand) =
        filter.apply (filterArgument.map fun text => text.1.1) (argument scopes operand) ∧
      evaluate scopes (pipeForm filter filterArgument operand) =
        filter.apply (filterArgument.map fun text => text.1.1) (argument scopes operand)) ∧
    ∀ before after : String, (∃ read, tokens before.toList = .ok read) →
      before.toList.getLast? ≠ some '\x7b' →
      let asHelper := String.ofList (tagText (helperForm filter filterArgument operand))
      let asPipe := String.ofList (tagText (pipeForm filter filterArgument operand))
      (IsAccepted (before ++ asHelper ++ after) ↔ IsAccepted (before ++ asPipe ++ after)) ∧
      (IsAccepted (before ++ asHelper ++ after) → ∀ data,
        render (before ++ asHelper ++ after) data = render (before ++ asPipe ++ after) data) := by
  have sameValue (scopes : List Scope) :
      evaluate scopes (helperForm filter filterArgument operand) =
        evaluate scopes (pipeForm filter filterArgument operand) := by
    rw [evaluate_helperForm filter filterArgument isOperand,
      evaluate_pipeForm filter filterArgument isOperand]
  have helper := isExpression_helperForm filter filterArgument isOperand
  have pipe := isExpression_pipeForm filter filterArgument isOperand
  refine ⟨fun scopes => ⟨evaluate_helperForm filter filterArgument isOperand scopes,
    evaluate_pipeForm filter filterArgument isOperand scopes⟩, ?_⟩
  rintro before after ⟨read, isRead⟩ ending
  have tokenized := tokens_eq_ok_iff.mp isRead
  simp only [IsAccepted, render, String.toList_append, String.toList_ofList, List.append_assoc]
  constructor
  · constructor
    · rintro ⟨parts, accepted⟩
      rcases exists_parts_of_exchange tokenized ending helper pipe (fun _ => (sameValue _).symm)
        accepted with ⟨others, otherAccepted, -⟩
      exact ⟨others, otherAccepted⟩
    · rintro ⟨parts, accepted⟩
      rcases exists_parts_of_exchange tokenized ending pipe helper sameValue accepted with
        ⟨others, otherAccepted, -⟩
      exact ⟨others, otherAccepted⟩
  · rintro ⟨parts, accepted⟩ data
    rcases exists_parts_of_exchange tokenized ending helper pipe (fun _ => (sameValue _).symm)
      accepted with ⟨others, otherAccepted, shown⟩
    rw [renderChars_of_parts accepted, renderChars_of_parts otherAccepted, shown]

namespace Sample

/-- What stands in place of a missing name. -/
def missingName : FilterArgument :=
  ⟨⟨"x | y: 'z'".toList, Text.forall_of_all (by decide +kernel)⟩, by decide +kernel⟩

def outerName : List Char := "../nom".toList

def eachTodo : String := "\x7b\x7b#each todos\x7d\x7d"

def endEach : String := " \x7b\x7b/each\x7d\x7d"

def namedTodos : Json := .object [("nom", .text "Awa"), ("todos", .list [.null, .null])]

def unnamedTodos : Json := .object [("todos", .list [.null, .null])]

end Sample

theorem default_helper_equals_default_pipe :
    IsOperand Sample.outerName ∧ (∃ read, tokens Sample.eachTodo.toList = .ok read) ∧
    Sample.eachTodo.toList.getLast? ≠ some '\x7b' ∧
    String.ofList (helperForm .default (some Sample.missingName) Sample.outerName) =
      "default ../nom \"x | y: 'z'\"" ∧
    String.ofList (pipeForm .default (some Sample.missingName) Sample.outerName) =
      "../nom | default:\"x | y: 'z'\"" ∧
    (∀ data, render (Sample.eachTodo ++
          String.ofList (tagText (helperForm .default (some Sample.missingName) Sample.outerName)) ++
          Sample.endEach) data =
        render (Sample.eachTodo ++
          String.ofList (tagText (pipeForm .default (some Sample.missingName) Sample.outerName)) ++
          Sample.endEach) data) ∧
    render (Sample.eachTodo ++
        String.ofList (tagText (pipeForm .default (some Sample.missingName) Sample.outerName)) ++
        Sample.endEach) Sample.namedTodos = "Awa Awa " ∧
    render (Sample.eachTodo ++
        String.ofList (tagText (pipeForm .default (some Sample.missingName) Sample.outerName)) ++
        Sample.endEach) Sample.unnamedTodos = "x | y: 'z' x | y: 'z' " := by
  have isOperand : IsOperand Sample.outerName := by
    have first : Sample.outerName.head? = some '.' := by decide +kernel
    have plain : ∀ c ∈ Sample.outerName,
        (!Pipeline.isQuote c && c != '|' && !Text.isBlank c) = true :=
      Text.forall_of_all (by decide +kernel)
    refine ⟨⟨by decide +kernel, by decide +kernel, by decide +kernel, by decide +kernel⟩,
      unbroken_of_plain fun c isMember => ?_, by decide +kernel, ?_⟩
    · simpa [and_assoc] using plain c isMember
    · rw [first]
      rintro c ⟨⟩
      decide
  have isRead : ∃ read, tokens Sample.eachTodo.toList = .ok read :=
    ⟨[.tag "#each todos".toList], by decide +kernel⟩
  have ending : Sample.eachTodo.toList.getLast? ≠ some '\x7b' := by decide +kernel
  have accepted : IsAccepted (Sample.eachTodo ++
      String.ofList (tagText (helperForm .default (some Sample.missingName) Sample.outerName)) ++
      Sample.endEach) := by decide +kernel
  rcases helper_form_equals_pipe_form .default (some Sample.missingName) isOperand with
    ⟨-, exchange⟩
  refine ⟨isOperand, isRead, ending, by decide +kernel, by decide +kernel,
    (exchange Sample.eachTodo Sample.endEach isRead ending).2 accepted, by decide +kernel,
    by decide +kernel⟩

end Ussd.Message
