import Ussd.Proofs.BodyShape
import Ussd.Proofs.PlainPlaceholders

/-! # Typed rendering

A text leaf that is one bare placeholder is rendered to the value at its path, with its type, and
every other text leaf to a text. Bare placeholders are told by the braces at both ends, and
placeholders by a pattern. If no key of the data has a brace in it, both see the same paths, and what
a leaf is rendered to is shown like the rendered text. -/

namespace Ussd.Text

/-- A text is what trimming leaves, between blanks. -/
theorem exists_blanks_around (text : List Char) :
    ∃ before after, (∀ c ∈ before, isBlank c) ∧ (∀ c ∈ after, isBlank c) ∧
      text = before ++ (trim text ++ after) := by
  have starts : text.takeWhile isBlank ++ trimStart text = text := List.takeWhile_append_dropWhile
  have ends : trim text ++ ((trimStart text).reverse.takeWhile isBlank).reverse = trimStart text := by
    rw [trim, trimEnd, ← List.reverse_append, List.takeWhile_append_dropWhile, List.reverse_reverse]
  refine ⟨_, _, fun c => List.mem_takeWhile_imp, fun c isMember => ?_, by rw [ends, starts]⟩
  exact List.mem_takeWhile_imp (List.mem_reverse.mp isMember)

theorem trim_between_blanks {before after : List Char} (areBlank : ∀ c ∈ before, isBlank c)
    (areBlankAfter : ∀ c ∈ after, isBlank c) (text : List Char) :
    trim (before ++ (text ++ after)) = trim text := by
  rw [trim_blank_append areBlank, trim_append_blank areBlankAfter]

end Ussd.Text

namespace Ussd.Pipeline

/-- Without a bar there is one part, whether the quotes in it are closed or not. -/
theorem split_of_no_bar {text : List Char} (noBar : '|' ∉ text) : split text = [text] := by
  suffices alone : ∀ quote, splitFrom quote text = [text] from alone none
  induction text with
  | nil => exact fun quote => rfl
  | cons c text induction =>
      intro quote
      rw [List.mem_cons, not_or] at noBar
      rcases noBar with ⟨notBar, textNoBar⟩
      have different : (c == '|') = false := beq_eq_false_iff_ne.mpr (Ne.symm notBar)
      simp only [splitFrom, different, Bool.and_false, induction textNoBar]
      rfl

end Ussd.Pipeline

namespace Ussd

theorem Placeholder.isBlank_of_isBrace {c : Char} (isBrace : isBrace c = true) :
    Text.isBlank c = false := by
  simp only [Placeholder.isBrace, Bool.or_eq_true, beq_iff_eq] at isBrace
  rcases isBrace with rfl | rfl <;> decide

namespace Json

/-! ## Filling in texts -/

mutual

/-- The second value is the first with something that `fits` in place of each text: objects keep their
keys, lists keep their lengths, and what is not a text stays. -/
inductive Filled (fits : String → Json → Prop) : Json → Json → Prop
  | null : Filled fits .null .null
  | bool (value : Bool) : Filled fits (.bool value) (.bool value)
  | number (value : Number) : Filled fits (.number value) (.number value)
  | text {text : String} {value : Json} (fit : fits text value) : Filled fits (.text text) value
  | list {templates items : List Json} (filled : FilledItems fits templates items) :
      Filled fits (.list templates) (.list items)
  | object {templates fields : List (String × Json)} (filled : FilledFields fits templates fields) :
      Filled fits (.object templates) (.object fields)

inductive FilledItems (fits : String → Json → Prop) : List Json → List Json → Prop
  | nil : FilledItems fits [] []
  | cons {template item : Json} {templates items : List Json} (filled : Filled fits template item)
      (filledRest : FilledItems fits templates items) :
      FilledItems fits (template :: templates) (item :: items)

inductive FilledFields (fits : String → Json → Prop) :
    List (String × Json) → List (String × Json) → Prop
  | nil : FilledFields fits [] []
  | cons {name : String} {template value : Json} {templates fields : List (String × Json)}
      (filled : Filled fits template value) (filledRest : FilledFields fits templates fields) :
      FilledFields fits ((name, template) :: templates) ((name, value) :: fields)

end

/-! ## Keys without braces -/

mutual

/-- No key of an object in the value has a brace in it, at any depth. -/
def hasBracelessKeys : Json → Bool
  | .list items => itemsHaveBracelessKeys items
  | .object fields => fieldsHaveBracelessKeys fields
  | _ => true

def itemsHaveBracelessKeys : List Json → Bool
  | [] => true
  | item :: rest => item.hasBracelessKeys && itemsHaveBracelessKeys rest

def fieldsHaveBracelessKeys : List (String × Json) → Bool
  | [] => true
  | (name, value) :: rest =>
    name.toList.all (!Placeholder.isBrace ·) && value.hasBracelessKeys &&
      fieldsHaveBracelessKeys rest

end

theorem braceless_of_get? {fields : List (String × Json)}
    (braceless : fieldsHaveBracelessKeys fields = true) {name : String} {value : Json}
    (found : Table.get? fields name = some value) :
    (∀ c ∈ name.toList, Placeholder.isBrace c = false) ∧ value.hasBracelessKeys = true := by
  induction fields with
  | nil => cases found
  | cons field rest induction =>
      rcases field with ⟨known, other⟩
      simp only [fieldsHaveBracelessKeys, Bool.and_eq_true, List.all_eq_true,
        Bool.not_eq_true'] at braceless
      rcases braceless with ⟨⟨bracelessName, bracelessValue⟩, bracelessRest⟩
      rw [Table.get?] at found
      split at found
      · rename_i isKnown
        cases found
        exact ⟨isKnown ▸ bracelessName, bracelessValue⟩
      · exact induction bracelessRest found

theorem braceless_of_walk {data value : Json} (braceless : data.hasBracelessKeys = true)
    {keys : List (List Char)} (found : data.walk keys = some value) :
    ∀ key ∈ keys, ∀ c ∈ key, Placeholder.isBrace c = false := by
  induction keys generalizing data with
  | nil => simp
  | cons key rest induction =>
      rw [walk, Option.bind_eq_some_iff] at found
      rcases found with ⟨next, isNext, found⟩
      cases data with
      | object fields =>
          rcases braceless_of_get? braceless isNext with ⟨bracelessKey, bracelessNext⟩
          rw [String.toList_ofList] at bracelessKey
          exact List.forall_mem_cons.mpr ⟨bracelessKey, induction bracelessNext found⟩
      | null | bool | number | text | list => cases isNext

/-- A path that leads somewhere has no brace in it. -/
theorem braceless_of_lookup {data value : Json} (braceless : data.hasBracelessKeys = true)
    {path : List Char} (found : data.lookup path = some value) :
    Text.trim path ≠ [] ∧ ∀ c ∈ path, Placeholder.isBrace c = false := by
  unfold lookup at found
  dsimp only at found
  split at found
  · cases found
  · rename_i nonempty
    refine ⟨by simpa using nonempty, fun c isMember => ?_⟩
    have ofPieces := Text.forall_of_pieces (fun c => Placeholder.isBrace c = false) (by decide)
      (braceless_of_walk braceless found)
    cases isBrace : Placeholder.isBrace c with
    | false => rfl
    | true =>
        have notBlank := Placeholder.isBlank_of_isBrace isBrace
        rw [← isBrace, ofPieces c (Text.mem_trim isMember notBlank)]

end Json

namespace Placeholder

theorem of_barePath?_eq_some {text path : List Char} (bare : barePath? text = some path) :
    ∃ inside, Text.trim text = Message.tagText inside ∧ '|' ∉ inside ∧ path = Text.trim inside := by
  unfold barePath? at bare
  rcases Option.bind_eq_some_iff.mp bare with ⟨rest, opened, bare⟩
  rcases Option.bind_eq_some_iff.mp bare with ⟨inside, closed, bare⟩
  rw [Text.afterStart?_eq_some_iff] at opened
  rw [Text.beforeEnd?_eq_some_iff] at closed
  split at bare
  · cases bare
  · rename_i plain
    simp only [Bool.or_eq_true, not_or, List.contains_iff_mem] at plain
    exact ⟨inside, by rw [opened, closed]; rfl, plain.2, (Option.some.inj bare).symm⟩

/-- A bare placeholder is rendered to the text of the value at its path, between the blanks around
it. -/
theorem renderChars_of_bare {data value : Json} (braceless : data.hasBracelessKeys = true)
    {text path : List Char} (bare : barePath? text = some path)
    (found : data.lookup path = some value) :
    ∃ before after, (∀ c ∈ before, Text.isBlank c) ∧ (∀ c ∈ after, Text.isBlank c) ∧
      renderChars text data = before ++ (value.display.toList ++ after) := by
  rcases of_barePath?_eq_some bare with ⟨inside, isTag, noBar, rfl⟩
  have foundInside : data.lookup inside = some value := by
    rw [← found, Json.lookup, Json.lookup, Text.trim_idempotent]
  rcases Json.braceless_of_lookup braceless foundInside with ⟨nonempty, insideBraceless⟩
  have insideNonempty : inside ≠ [] := by
    rintro rfl
    exact nonempty rfl
  rcases Text.exists_blanks_around text with ⟨before, after, areBlank, areBlankAfter, layout⟩
  have notBrace {blanks : List Char} (areBlank : ∀ c ∈ blanks, Text.isBlank c) :
      ∀ c ∈ blanks, isBrace c = false := by
    intro c isMember
    cases isBrace : isBrace c with
    | false => rfl
    | true =>
        have notBlank := isBlank_of_isBrace isBrace
        rw [areBlank c isMember] at notBlank
        cases notBlank
  have shown : evaluate inside data = value := by
    simp [evaluate, Pipeline.split_of_no_bar noBar, foundInside, Pipeline.applySegments]
  refine ⟨before, after, areBlank, areBlankAfter, ?_⟩
  rw [renderChars, layout, isTag, segments_append_braceless ⟨before, notBrace areBlank⟩,
    segments_tagText insideNonempty insideBraceless,
    segments_of_braceless ⟨after, notBrace areBlankAfter⟩, List.flatMap_append, flatMap_literals,
    List.flatMap_cons, flatMap_literals, renderSegment, shown]

/-- What may stand for a text: the rendered text, or if the text is a bare placeholder the value at
its path. Blanks around it aside, it is shown like the rendered text. -/
structure StandsFor (data : Json) (text : String) (value : Json) : Prop where
  source : value = .text (render text data) ∨
    ∃ path, barePath? text.toList = some path ∧ data.lookup path = some value
  sameText : trimmed value.display = trimmed (render text data)

theorem renderLeaf_standsFor {data : Json} (braceless : data.hasBracelessKeys = true)
    (text : String) : StandsFor data text (renderLeaf text data) := by
  unfold renderLeaf
  cases found : (barePath? text.toList).bind data.lookup with
  | none => exact ⟨.inl rfl, rfl⟩
  | some value =>
      rcases Option.bind_eq_some_iff.mp found with ⟨path, bare, found⟩
      rcases renderChars_of_bare braceless bare found with
        ⟨before, after, areBlank, areBlankAfter, shown⟩
      refine ⟨.inr ⟨path, bare, found⟩, ?_⟩
      rw [trimmed, trimmed, render, String.toList_ofList, shown,
        Text.trim_between_blanks areBlank areBlankAfter]

mutual

theorem renderValue_filled {data : Json} {fits : String → Json → Prop}
    (fit : ∀ text, fits text (renderLeaf text data)) :
    ∀ template : Json, Json.Filled fits template (renderValue data template)
  | .null => .null
  | .bool value => .bool value
  | .number value => .number value
  | .text value => .text (fit value)
  | .list items => .list (renderItems_filled fit items)
  | .object fields => .object (renderFields_filled fit fields)

theorem renderItems_filled {data : Json} {fits : String → Json → Prop}
    (fit : ∀ text, fits text (renderLeaf text data)) :
    ∀ templates : List Json, Json.FilledItems fits templates (renderItems data templates)
  | [] => .nil
  | template :: rest => .cons (renderValue_filled fit template) (renderItems_filled fit rest)

theorem renderFields_filled {data : Json} {fits : String → Json → Prop}
    (fit : ∀ text, fits text (renderLeaf text data)) :
    ∀ templates : List (String × Json),
      Json.FilledFields fits templates (renderFields data templates)
  | [] => .nil
  | (_, template) :: rest => .cons (renderValue_filled fit template) (renderFields_filled fit rest)

end

/-- Rendering a value replaces its texts and nothing else, and if no key of the data has a brace in
it, what replaces a text is shown like the rendered text but for blanks around it. -/
theorem typed_rendering_agrees_with_text {data : Json} (braceless : data.hasBracelessKeys = true)
    (template : Json) : Json.Filled (StandsFor data) template (renderValue data template) :=
  renderValue_filled (renderLeaf_standsFor braceless) template

namespace Sample

/-- A payment of which the amount is a number. -/
def paid : Json := .object [("paiement", .object [("montant", .number (.whole 1500))])]

def amount : String := " \x7b\x7b paiement.montant \x7d\x7d "

def receipt : Json :=
  .object [("id", .number (.whole 7)), ("lignes", .list [.text amount, .null, .text amount])]

end Sample

theorem amount_keeps_its_type :
    Sample.paid.hasBracelessKeys = true ∧
    Json.Filled (StandsFor Sample.paid) Sample.receipt (renderValue Sample.paid Sample.receipt) ∧
    (renderValue Sample.paid Sample.receipt).writeText =
      "\x7b\"id\":7,\"lignes\":[1500,null,1500]\x7d" ∧
    trimmed (render Sample.amount Sample.paid) = "1500" := by
  have braceless : Sample.paid.hasBracelessKeys = true := by decide +kernel
  have filled := typed_rendering_agrees_with_text braceless (.text Sample.amount)
  have shown : trimmed (renderValue Sample.paid (.text Sample.amount)).display = "1500" := by
    decide +kernel
  refine ⟨braceless, typed_rendering_agrees_with_text braceless Sample.receipt, by decide +kernel, ?_⟩
  cases filled with
  | text standsFor => rw [← standsFor.sameText, shown]

end Placeholder

end Ussd
