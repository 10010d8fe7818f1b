import Mathlib.Data.List.Basic
import Ussd.Proofs.TextPieces
import Ussd.Service.Choice

/-! # Numbered options

The options of a menu are shown with their numbers, and the number of an option selects it unless an
earlier option ends with that number: an input also selects what ends with it as a word. -/

namespace Ussd

namespace Text

theorem isBlank_of_isDigit {c : Char} (isDigit : c.isDigit) : isBlank c = false :=
  isBlank_of_class Char.isDigit (by decide +kernel) isDigit

theorem isDigit_of_mem_numeral {number : Nat} {c : Char}
    (isMember : c ∈ Nat.toDigits 10 number) : c.isDigit :=
  Nat.isDigit_of_mem_toDigits (by decide) (by decide) isMember

theorem point_not_mem_numeral (number : Nat) : '.' ∉ Nat.toDigits 10 number := by
  intro isMember
  have isDigit := isDigit_of_mem_numeral isMember
  revert isDigit
  decide

theorem numeral_injective {left right : Nat} (same : Nat.toDigits 10 left = Nat.toDigits 10 right) :
    left = right := by
  have value := congrArg (Nat.ofDigitChars 10 · 0) same
  simpa only [Nat.ofDigitChars_ten_toDigits] using value

theorem trim_numeral {before after : List Char} (number : Nat)
    (blankBefore : ∀ c ∈ before, isBlank c) (blankAfter : ∀ c ∈ after, isBlank c) :
    trim (before ++ Nat.toDigits 10 number ++ after) = Nat.toDigits 10 number := by
  rw [trim_append_blank blankAfter, trim_blank_append blankBefore]
  exact trim_of_forall fun c isMember => isBlank_of_isDigit (isDigit_of_mem_numeral isMember)

/-- A numeral ends at the first point. -/
theorem numeral_append_inj {left right : Nat} {before after : List Char}
    (same : Nat.toDigits 10 left ++ '.' :: before = Nat.toDigits 10 right ++ '.' :: after) :
    left = right := by
  have passes (number : Nat) : ∀ c ∈ Nat.toDigits 10 number, (c == '.') = false := by
    intro c isMember
    rw [beq_eq_false_iff_ne]
    rintro rfl
    exact point_not_mem_numeral number isMember
  have cutLeft := cutAt?_append (passes left) (beq_self_eq_true '.') before
  have cutRight := cutAt?_append (passes right) (beq_self_eq_true '.') after
  rw [same, cutRight] at cutLeft
  exact numeral_injective (congrArg Prod.fst (Option.some.inj cutLeft)).symm

theorem trim_numbered (number : Nat) (text : List Char) :
    trim (Nat.toDigits 10 number ++ '.' :: text) =
      Nat.toDigits 10 number ++ '.' :: trimEnd text := by
  have notBlank : ∀ c ∈ Nat.toDigits 10 number ++ ['.'], isBlank c = false := by
    intro c isMember
    rcases List.mem_append.mp isMember with isDigit | isPoint
    · exact isBlank_of_isDigit (isDigit_of_mem_numeral isDigit)
    · rw [List.mem_singleton.mp isPoint]
      decide
  have start : trimStart (Nat.toDigits 10 number ++ '.' :: text) =
      Nat.toDigits 10 number ++ '.' :: text := by
    rw [trimStart_eq_self_iff]
    intro c first
    rw [List.append_cons] at first
    apply notBlank
    exact List.mem_of_head? ((List.head?_append_of_ne_nil _ (by simp)).symm.trans first)
  rw [trim, start, List.append_cons, trimEnd_append notBlank, ← List.append_cons]

end Text

/-! ## Labels -/

namespace Transition

/-- The label is the number with a point, a space and a text behind it. -/
def HasNumber (transition : Transition) (number : Nat) : Prop :=
  ∃ text, transition.input = some (toString number ++ ". " ++ text)

theorem label_layout (number : Nat) (text : String) :
    (toString number ++ ". " ++ text).toList =
      Nat.toDigits 10 number ++ '.' :: ' ' :: text.toList := by
  simp

theorem HasNumber.unique {transition : Transition} {left right : Nat}
    (hasLeft : transition.HasNumber left) (hasRight : transition.HasNumber right) :
    left = right := by
  rcases hasLeft with ⟨leftText, isLeft⟩
  rcases hasRight with ⟨rightText, isRight⟩
  have same := congrArg String.toList (Option.some.inj (isLeft.symm.trans isRight))
  rw [label_layout, label_layout] at same
  exact Text.numeral_append_inj same

/-- The label ends with the number as a word, apart from blanks. -/
def EndsWith (transition : Transition) (number : Nat) : Prop :=
  ∃ label, transition.input = some label ∧
    ' ' :: Nat.toDigits 10 number <:+ Text.trim label.toList

end Transition

/-- Every label begins with a number, and no two with the same. -/
structure Numbered (transitions : List Transition) : Prop where
  numbers : ∀ transition ∈ transitions, transition.input.isSome →
    ∃ number, transition.HasNumber number
  distinct : transitions.Pairwise fun left right =>
    ∀ number, left.HasNumber number → ¬right.HasNumber number

def TypedNumber (number : Nat) (input : String) : Prop :=
  ∃ before after, (∀ c ∈ before, Text.isBlank c) ∧ (∀ c ∈ after, Text.isBlank c) ∧
    input.toList = before ++ Nat.toDigits 10 number ++ after

/-! ## Selecting -/

theorem labelMatches_iff {label input : List Char} {number : Nat}
    (typed : Text.trim input = Nat.toDigits 10 number) :
    labelMatches label input ↔
      Text.trim label = Nat.toDigits 10 number ∨
        Nat.toDigits 10 number ++ ['.'] <+: Text.trim label ∨
        ' ' :: Nat.toDigits 10 number <:+ Text.trim label := by
  have someInput : (Nat.toDigits 10 number).isEmpty = false := by
    simp [Nat.toDigits_ne_nil]
  rw [← Text.startsWith_iff, ← Text.endsWith_iff, labelMatches, typed]
  cases trimmedLabel : Text.trim label with
  | nil =>
      have noStart : Text.startsWith (Nat.toDigits 10 number ++ ['.']) [] = false := by
        simp [← Bool.not_eq_true, Text.startsWith_iff]
      have noEnd : Text.endsWith (' ' :: Nat.toDigits 10 number) [] = false := by
        simp [← Bool.not_eq_true, Text.endsWith_iff]
      have noNumeral : [] ≠ Nat.toDigits 10 number := Nat.toDigits_ne_nil.symm
      simp [noStart, noEnd, noNumeral]
  | cons c rest => simp [someInput, or_assoc]

/-- A numbered label is selected by its number, and by a number that it ends with. -/
theorem labelMatches_numbered {input : List Char} {number : Nat}
    (typed : Text.trim input = Nat.toDigits 10 number) (own : Nat) (text : List Char) :
    labelMatches (Nat.toDigits 10 own ++ '.' :: text) input ↔
      own = number ∨
        ' ' :: Nat.toDigits 10 number <:+ Text.trim (Nat.toDigits 10 own ++ '.' :: text) := by
  rw [labelMatches_iff typed, ← or_assoc]
  refine or_congr_left ?_
  rw [Text.trim_numbered]
  constructor
  · rintro (same | ⟨rest, starts⟩)
    · -- the point of the label is no digit
      have isPoint : '.' ∈ Nat.toDigits 10 number := by simp [← same]
      exact absurd isPoint (Text.point_not_mem_numeral number)
    · rw [List.append_assoc] at starts
      exact (Text.numeral_append_inj starts).symm
  · rintro rfl
    exact .inr ⟨_, List.append_assoc _ _ _⟩

namespace TypedNumber

variable {number : Nat} {input : String}

theorem trim (typed : TypedNumber number input) :
    Text.trim input.toList = Nat.toDigits 10 number := by
  rcases typed with ⟨before, after, blankBefore, blankAfter, isInput⟩
  rw [isInput, Text.trim_numeral number blankBefore blankAfter]

/-- The number selects the option that has it and those that end with it. -/
theorem selects_iff (typed : TypedNumber number input) {option : Transition} {own : Nat}
    (has : option.HasNumber own) :
    (option.input.any fun label => labelMatches label.toList input.toList) ↔
      own = number ∨ option.EndsWith number := by
  rcases has with ⟨text, isLabel⟩
  simp only [isLabel, Option.any_some, Transition.label_layout, Transition.EndsWith,
    Option.some.injEq, exists_eq_left', labelMatches_numbered typed.trim]

end TypedNumber

/-- A search that passes over no earlier element finds an element that does not occur before. -/
theorem find?_append_cons_iff {α : Type} {holds : α → Bool} {before : List α} {element : α}
    (isFirst : element ∉ before) (found : holds element) (after : List α) :
    (before ++ element :: after).find? holds = some element ↔
      ∀ earlier ∈ before, ¬holds earlier := by
  rw [List.find?_append, List.find?_cons_of_pos found]
  cases first : before.find? holds with
  | none => exact iff_of_true (Option.none_or ..) (List.find?_eq_none.mp first)
  | some other =>
      have isEarlier := List.mem_of_find?_eq_some first
      refine iff_of_false ?_ fun passes => passes other isEarlier (List.find?_some first)
      rw [Option.some_or, Option.some.injEq]
      rintro rfl
      exact isFirst isEarlier

/-- The number of an option selects it unless an earlier option ends with this number. -/
theorem number_selects_its_option {before after : List Transition} {option : Transition}
    {number : Nat} {input : String} (numbered : Numbered (before ++ option :: after))
    (has : option.HasNumber number) (typed : TypedNumber number input) :
    choose? (before ++ option :: after) input = some option ↔
      ∀ earlier ∈ before, ¬earlier.EndsWith number := by
  have distinct : ∀ earlier ∈ before, ¬earlier.HasNumber number := by
    intro earlier isEarlier hasToo
    have apart := (List.pairwise_append.mp numbered.distinct).2.2 earlier isEarlier option
      List.mem_cons_self
    exact apart number hasToo has
  have selects : ∀ earlier ∈ before,
      (earlier.input.any fun label => labelMatches label.toList input.toList) ↔
        earlier.EndsWith number := by
    intro earlier isEarlier
    cases labelled : earlier.input with
    | none => simp [Transition.EndsWith, labelled]
    | some label =>
        rcases numbered.numbers earlier (List.mem_append_left _ isEarlier)
          (Option.isSome_iff_exists.mpr ⟨label, labelled⟩) with ⟨own, hasOwn⟩
        rw [← labelled, typed.selects_iff hasOwn]
        refine or_iff_right ?_
        rintro rfl
        exact distinct earlier isEarlier hasOwn
  have isFirst : option ∉ before := fun isEarlier => distinct option isEarlier has
  have selected := (typed.selects_iff has).mpr (.inl rfl)
  rw [choose?, find?_append_cons_iff isFirst selected]
  exact forall₂_congr fun earlier isEarlier => not_congr (selects earlier isEarlier)

namespace Sample

def optionTo (label nextState : String) : Transition :=
  { input := some label, condition := none, nextState := nextState, value := none, message := none }

theorem hasNumber_optionTo {label nextState : String} (number : Nat) (text : String)
    (isLabel : label = toString number ++ ". " ++ text) :
    (optionTo label nextState).HasNumber number :=
  ⟨text, congrArg some isLabel⟩

theorem numbered_pair {left right : Transition} {first second : Nat}
    (hasLeft : left.HasNumber first) (hasRight : right.HasNumber second)
    (differ : first ≠ second) : Numbered [left, right] := by
  constructor
  · intro transition isMember _
    rcases List.mem_pair.mp isMember with rfl | rfl
    · exact ⟨first, hasLeft⟩
    · exact ⟨second, hasRight⟩
  · rw [List.pairwise_pair]
    intro number leftToo rightToo
    exact differ ((hasLeft.unique leftToo).trans (rightToo.unique hasRight))

end Sample

theorem number_selects_option_behind_longer_number :
    choose? [Sample.optionTo "1. Offre 12" "first", Sample.optionTo "2. Offre 1" "second"] " 2\n" =
      some (Sample.optionTo "2. Offre 1" "second") := by
  have numbered : Numbered ([Sample.optionTo "1. Offre 12" "first"] ++
      Sample.optionTo "2. Offre 1" "second" :: []) :=
    Sample.numbered_pair (Sample.hasNumber_optionTo 1 "Offre 12" rfl)
      (Sample.hasNumber_optionTo 2 "Offre 1" rfl) (by decide)
  have typed : TypedNumber 2 " 2\n" :=
    ⟨[' '], ['\n'], Text.forall_of_all (by decide), Text.forall_of_all (by decide), by decide⟩
  refine (number_selects_its_option numbered (Sample.hasNumber_optionTo 2 "Offre 1" rfl) typed).mpr ?_
  intro earlier isFirst
  rw [List.mem_singleton.mp isFirst]
  rintro ⟨label, isLabel, ends⟩
  cases isLabel
  rw [← Text.endsWith_iff] at ends
  revert ends
  decide +kernel

/-- The first option ends with the number of the second one. -/
theorem number_may_select_another_option :
    Numbered [Sample.optionTo "1. Forfait 2" "A", Sample.optionTo "2. Solde" "B"] ∧
    (Sample.optionTo "2. Solde" "B").HasNumber 2 ∧ TypedNumber 2 "2" ∧
    choose? [Sample.optionTo "1. Forfait 2" "A", Sample.optionTo "2. Solde" "B"] "2" =
      some (Sample.optionTo "1. Forfait 2" "A") := by
  have second : (Sample.optionTo "2. Solde" "B").HasNumber 2 :=
    Sample.hasNumber_optionTo 2 "Solde" rfl
  refine ⟨?_, second, ⟨[], [], by simp, by simp, by decide⟩, ?_⟩
  · exact Sample.numbered_pair (Sample.hasNumber_optionTo 1 "Forfait 2" rfl) second (by decide)
  · have selected : labelMatches "1. Forfait 2".toList "2".toList := by decide +kernel
    rw [choose?, List.find?_cons]
    simp only [Sample.optionTo, Option.any_some, selected]

end Ussd
