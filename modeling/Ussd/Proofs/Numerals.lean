import Ussd.Text.Numeral

/-! # Numerals

A number has many numerals, with zeros in front and a plus sign before them, and one that it is
written as. -/

namespace Ussd.Text

/-- The text is a numeral of the number: one or more digits, zeros in front included, behind an
optional plus sign. -/
def Denotes (text : List Char) (number : Nat) : Prop :=
  ∃ digits, (text = digits ∨ text = '+' :: digits) ∧ digits ≠ [] ∧ (∀ c ∈ digits, c.isDigit) ∧
    Nat.ofDigitChars 10 digits 0 = number

theorem natural?_eq_some_iff {digits : List Char} {number : Nat} :
    natural? digits = some number ↔
      digits ≠ [] ∧ (∀ c ∈ digits, c.isDigit) ∧ Nat.ofDigitChars 10 digits 0 = number := by
  unfold natural?
  rw [digitsValue_eq]
  by_cases isEmpty : digits = []
  · simp [isEmpty]
  · simp [isEmpty]

theorem unsignedUpTo?_eq_some_iff {limit : Nat} {text : List Char} {number : Nat} :
    unsignedUpTo? limit text = some number ↔ Denotes text number ∧ number ≤ limit := by
  unfold unsignedUpTo?
  rw [Option.filter_eq_some_iff, natural?_eq_some_iff, decide_eq_true_eq]
  apply and_congr_left
  intro _
  constructor
  · intro isNumeral
    split at isNumeral
    · rename_i rest
      exact ⟨rest, .inr rfl, isNumeral⟩
    · exact ⟨text, .inl rfl, isNumeral⟩
  · intro denotes
    rcases denotes with ⟨digits, shape, isNumeral⟩
    split
    · rename_i rest
      rcases shape with same | signed
      · have plus := isNumeral.2.1 '+' (same ▸ List.mem_cons_self)
        cases plus
      · cases signed
        exact isNumeral
    · rename_i noSign
      rcases shape with same | signed
      · rw [same]
        exact isNumeral
      · exact absurd signed (noSign digits)

theorem unsigned?_eq_some_iff {text : List Char} {number : Nat} :
    unsigned? text = some number ↔ Denotes text number ∧ number ≤ greatestWord :=
  unsignedUpTo?_eq_some_iff

/-- A numeral is one of a single number. -/
theorem Denotes.unique {text : List Char} {left right : Nat} (isLeft : Denotes text left)
    (isRight : Denotes text right) : left = right := by
  have readLeft := unsignedUpTo?_eq_some_iff.mpr ⟨isLeft, Nat.le_max_left left right⟩
  have readRight := unsignedUpTo?_eq_some_iff.mpr ⟨isRight, Nat.le_max_right left right⟩
  exact Option.some.inj (readLeft.symm.trans readRight)

theorem isDigit_of_mem_toString {number : Nat} {c : Char}
    (isMember : c ∈ (toString number).toList) : c.isDigit := by
  rw [Nat.toString_eq_repr, Nat.toList_repr] at isMember
  exact Nat.isDigit_of_mem_toDigits (by decide) (by decide) isMember

theorem denotes_toString (number : Nat) : Denotes (toString number).toList number := by
  refine ⟨Nat.toDigits 10 number, .inl ?_, ?_, ?_, ?_⟩
  · simp
  · exact Nat.toDigits_ne_nil
  · exact fun c isMember => Nat.isDigit_of_mem_toDigits (by decide) (by decide) isMember
  · exact Nat.ofDigitChars_ten_toDigits

/-- Only numbers of 64 bits are read. -/
theorem unsigned?_toString (number : Nat) :
    unsigned? (toString number).toList = if number ≤ greatestWord then some number else none := by
  split
  · rename_i fits
    exact unsigned?_eq_some_iff.mpr ⟨denotes_toString number, fits⟩
  · rename_i large
    apply Option.eq_none_iff_forall_ne_some.mpr
    intro other isRead
    rcases unsigned?_eq_some_iff.mp isRead with ⟨denotes, fits⟩
    exact large (denotes.unique (denotes_toString number) ▸ fits)

end Ussd.Text
