import Mathlib.Data.List.TakeWhile
import Mathlib.Data.Option.Basic
import Ussd.Proofs.DoubleValues
import Ussd.Proofs.TextPieces
import Ussd.Validation.Check

/-! # Limits on numbers that are entered

The limits of a rule are doubles, and what is entered is compared with them as a double. For whole
limits this is the comparison of the numbers themselves, although a long numeral is rounded and may
even become infinite: rounding takes no number across a whole limit that is small enough. -/

namespace Ussd

/-! ## Numerals as doubles -/

namespace Text

/-- The text is made of digits, one or more, and denotes the number; zeros may come first. -/
structure IsNumeral (text : List Char) (number : Nat) : Prop where
  nonempty : text ≠ []
  digits : ∀ c ∈ text, c.isDigit = true
  value : Nat.ofDigitChars 10 text 0 = number

variable {text : List Char} {number : Nat}

theorem takeSign_of_digit {c : Char} (isDigit : c.isDigit = true) (rest : List Char) :
    takeSign (c :: rest) = (false, c :: rest) := by
  have notMinus : c ≠ '-' := by rintro rfl; cases isDigit
  have notPlus : c ≠ '+' := by rintro rfl; cases isDigit
  rw [takeSign]
  · exact fun _ same => notMinus (List.cons.inj same).1
  · exact fun _ same => notPlus (List.cons.inj same).1

theorem toLower_of_digit {c : Char} (isDigit : c.isDigit = true) : c.toLower = c := by
  have notUpper : ¬(c.val ≥ 'A'.val ∧ c.val ≤ 'Z'.val) := by
    simp only [Char.isDigit, Bool.and_eq_true, decide_eq_true_eq, ge_iff_le,
      UInt32.le_iff_toNat_le] at isDigit ⊢
    have bounds : 48 ≤ c.val.toNat ∧ c.val.toNat ≤ 57 := isDigit
    rintro ⟨least, -⟩
    have upper : 65 ≤ c.val.toNat := least
    omega
  exact dif_neg notUpper

theorem lower_ne_word {c : Char} (isDigit : c.isDigit = true) (rest : List Char) {word : String}
    {first : Char} (starts : word.toList.head? = some first) (notDigit : first.isDigit = false) :
    String.ofList ((c :: rest).map Char.toLower) ≠ word := by
  rintro rfl
  rw [String.toList_ofList, List.map_cons, List.head?_cons, toLower_of_digit isDigit] at starts
  rw [← Option.some.inj starts, isDigit] at notDigit
  cases notDigit

theorem IsNumeral.double?_eq (isNumeral : IsNumeral text number) :
    double? text = some (.ofDecimal false number 0) := by
  have allTaken : text.takeWhile Char.isDigit = text :=
    List.takeWhile_eq_self_iff.mpr isNumeral.digits
  have noneLeft : text.dropWhile Char.isDigit = [] :=
    List.dropWhile_eq_nil_iff.mpr isNumeral.digits
  have decimal : unsignedDecimal? false text = some (.ofDecimal false number 0) := by
    simp [unsignedDecimal?, allTaken, noneLeft, isNumeral.nonempty, digitsValue_eq, isNumeral.value]
  cases text with
  | nil => exact absurd rfl isNumeral.nonempty
  | cons c rest =>
      have isDigit : c.isDigit = true := isNumeral.digits c List.mem_cons_self
      have notInf : String.ofList ((c :: rest).map Char.toLower) ≠ "inf" :=
        lower_ne_word isDigit rest rfl rfl
      have notInfinity : String.ofList ((c :: rest).map Char.toLower) ≠ "infinity" :=
        lower_ne_word isDigit rest rfl rfl
      have notNan : String.ofList ((c :: rest).map Char.toLower) ≠ "nan" :=
        lower_ne_word isDigit rest rfl rfl
      rw [Text.double?, takeSign_of_digit isDigit]
      simp only [notInf, notInfinity, notNan, if_false]
      exact decimal

/-- Every numeral is read, as its number or as what that is rounded to. -/
theorem IsNumeral.exists_double (isNumeral : IsNumeral text number) :
    ∃ double, double? text = some double ∧ Binary64.RoundedFrom number double :=
  ⟨_, isNumeral.double?_eq, Binary64.roundedFrom_ofDecimal number⟩

end Text

/-! ## Rules for numbers -/

namespace ValidationRule

structure HasLimits (rule : ValidationRule) (least most : Option Int) : Prop where
  min : Option.Rel Binary64.IsSmallWhole rule.min least
  max : Option.Rel Binary64.IsSmallWhole rule.max most

structure AllowsLength (rule : ValidationRule) (length : Nat) : Prop where
  min : ∀ least ∈ rule.minLength, least ≤ length
  max : ∀ most ∈ rule.maxLength, length ≤ most

end ValidationRule

/-- The number is not beyond any of the limits there are. -/
structure IsWithin (least most : Option Int) (number : Int) : Prop where
  min : ∀ limit ∈ least, limit ≤ number
  max : ∀ limit ∈ most, number ≤ limit

namespace Validation

variable {rule : ValidationRule} {text : List Char} {number : Nat} {least most : Option Int}

theorem isNumeric_iff : isNumeric text = true ↔ ∃ number, Text.IsNumeral text number := by
  rw [isNumeric, Bool.and_eq_true, Bool.not_eq_true', List.isEmpty_eq_false_iff, List.all_eq_true]
  constructor
  · rintro ⟨nonempty, digits⟩
    exact ⟨_, nonempty, digits, rfl⟩
  · rintro ⟨number, isNumeral⟩
    exact ⟨isNumeral.nonempty, isNumeral.digits⟩

theorem checkLength_eq_ok_iff :
    checkLength text rule.minLength rule.maxLength = .ok () ↔ rule.AllowsLength text.length := by
  have noneBeyond : rule.AllowsLength text.length ↔
      rule.minLength.filter (text.length < ·) = none ∧
        rule.maxLength.filter (· < text.length) = none := by
    simp only [Option.filter_eq_none_iff, decide_eq_true_eq, not_lt]
    exact ⟨fun allows => ⟨allows.min, allows.max⟩, fun allows => ⟨allows.1, allows.2⟩⟩
  rw [noneBeyond, checkLength]
  cases rule.minLength.filter (text.length < ·) with
  | some least => simp
  | none => cases rule.maxLength.filter (· < text.length) <;> simp

/-- Nothing is beyond a bound just if nothing is beyond the whole number that this is. -/
theorem any_eq_false_iff {bound : Option Binary64} {limit : Option Int}
    (isLimit : Option.Rel Binary64.IsSmallWhole bound limit) {isBeyond : Binary64 → Bool}
    {beyond : Int → Prop}
    (beyond_iff : ∀ {double whole}, double.IsSmallWhole whole →
      (isBeyond double = true ↔ beyond whole)) :
    bound.any isBeyond = false ↔ ∀ whole ∈ limit, ¬beyond whole := by
  cases isLimit with
  | none => simp
  | some isWhole => simp [← beyond_iff isWhole]

/-- Numerals are within the limits of a rule as doubles just if they are as numbers. -/
theorem isInBounds_iff (limits : rule.HasLimits least most)
    (isNumeral : Text.IsNumeral text number) :
    isInBounds text rule.min rule.max = true ↔ IsWithin least most number := by
  rcases isNumeral.exists_double with ⟨double, isDouble, isRounded⟩
  have notBelow : rule.min.any double.lt = false ↔ ∀ limit ∈ least, ¬(number : Int) < limit :=
    any_eq_false_iff limits.min fun isWhole => isRounded.lt_iff isWhole
  have notAbove : (rule.max.any fun max => max.lt double) = false ↔
      ∀ limit ∈ most, ¬limit < (number : Int) :=
    any_eq_false_iff limits.max fun isWhole => isRounded.gt_iff isWhole
  simp only [not_lt] at notBelow notAbove
  rw [isInBounds, isDouble]
  simp only [Bool.and_eq_true, Bool.not_eq_true', notBelow, notAbove]
  exact ⟨fun within => ⟨within.1, within.2⟩, fun within => ⟨within.min, within.max⟩⟩

theorem checkTrimmed_eq_ok_iff (kind : rule.kind = .numeric) :
    checkTrimmed text rule.kind rule.minLength rule.maxLength = .ok () ↔
      (∃ number, Text.IsNumeral text number) ∧ rule.AllowsLength text.length := by
  rw [checkTrimmed, kind, hasKind, ← isNumeric_iff, ← checkLength_eq_ok_iff]
  by_cases numeric : isNumeric text = true
  · have nonempty : text.isEmpty = false := by
      rw [isNumeric, Bool.and_eq_true, Bool.not_eq_true'] at numeric
      exact numeric.1
    simp [nonempty, numeric]
  · split <;> simp [numeric]

theorem checkTrimmed_ne_outOfRange (text : List Char) (kind : InputKind)
    (minLength maxLength : Option Nat) :
    checkTrimmed text kind minLength maxLength ≠ .error .outOfRange := by
  unfold checkTrimmed checkLength
  split
  · simp
  · split
    · split <;> simp
    · simp

/-- A required text without a format is refused for its limits just if nothing else is wrong. -/
theorem checkRule_of_required (required : rule.optional = false) (anyFormat : rule.pattern = none)
    (input : String) :
    (checkRule input rule = .ok () ↔
      checkTrimmed (Text.trim input.toList) rule.kind rule.minLength rule.maxLength = .ok () ∧
        isInBounds (Text.trim input.toList) rule.min rule.max = true) ∧
    (checkRule input rule = .error .outOfRange ↔
      checkTrimmed (Text.trim input.toList) rule.kind rule.minLength rule.maxLength = .ok () ∧
        ¬isInBounds (Text.trim input.toList) rule.min rule.max = true) := by
  have otherRefusal := checkTrimmed_ne_outOfRange (Text.trim input.toList) rule.kind
    rule.minLength rule.maxLength
  simp only [checkRule, required, anyFormat, matchesPattern, Option.map_none, Bool.and_false,
    Bool.not_true, Bool.false_eq_true, if_false]
  cases checked : checkTrimmed (Text.trim input.toList) rule.kind rule.minLength rule.maxLength with
  | error refusal =>
      rw [checked] at otherRefusal
      simpa using otherRefusal
  | ok _ => cases isInBounds (Text.trim input.toList) rule.min rule.max <;> simp

end Validation

/-- A required number without a format passes just if it is a numeral of a length that the rule
allows and within the limits of the rule. Every numeral is compared with these, and one that is
beyond them is refused for that. -/
theorem numeric_limits_are_enforced {rule : ValidationRule} {least most : Option Int}
    (kind : rule.kind = .numeric) (required : rule.optional = false)
    (anyFormat : rule.pattern = none) (limits : rule.HasLimits least most) (input : String) :
    (Validation.checkRule input rule = .ok () ↔
      ∃ number, Text.IsNumeral (Text.trim input.toList) number ∧
        rule.AllowsLength (Text.trim input.toList).length ∧ IsWithin least most number) ∧
    (Validation.checkRule input rule = .error .outOfRange ↔
      ∃ number, Text.IsNumeral (Text.trim input.toList) number ∧
        rule.AllowsLength (Text.trim input.toList).length ∧ ¬IsWithin least most number) ∧
    ∀ number, Text.IsNumeral (Text.trim input.toList) number →
      (Text.double? (Text.trim input.toList)).isSome = true := by
  rcases Validation.checkRule_of_required required anyFormat input with ⟨passes_iff, refused_iff⟩
  have ofNumber {number : Nat} (isNumeral : Text.IsNumeral (Text.trim input.toList) number) :=
    Validation.isInBounds_iff limits isNumeral
  refine ⟨?passes, ?refused, fun number isNumeral => by rw [isNumeral.double?_eq]; rfl⟩
  case passes =>
    rw [passes_iff, Validation.checkTrimmed_eq_ok_iff kind]
    constructor
    · rintro ⟨⟨⟨number, isNumeral⟩, allows⟩, inBounds⟩
      exact ⟨number, isNumeral, allows, (ofNumber isNumeral).mp inBounds⟩
    · rintro ⟨number, isNumeral, allows, within⟩
      exact ⟨⟨⟨number, isNumeral⟩, allows⟩, (ofNumber isNumeral).mpr within⟩
  case refused =>
    rw [refused_iff, Validation.checkTrimmed_eq_ok_iff kind]
    constructor
    · rintro ⟨⟨⟨number, isNumeral⟩, allows⟩, beyond⟩
      exact ⟨number, isNumeral, allows, fun within => beyond ((ofNumber isNumeral).mpr within)⟩
    · rintro ⟨number, isNumeral, allows, beyond⟩
      exact ⟨⟨⟨number, isNumeral⟩, allows⟩, fun within => beyond ((ofNumber isNumeral).mp within)⟩

namespace Sample

/-- A number of up to 24 digits from 1 to 2 ^ 53 - 1. -/
def account : ValidationRule :=
  { kind := .numeric
    minLength := none
    maxLength := some 24
    min := some (.finite false 0x10000000000000 (-52))
    max := some (.finite false 0x1FFFFFFFFFFFFF 0)
    pattern := none
    optional := false }

theorem account_hasLimits : account.HasLimits (some 1) (some 9007199254740991) where
  min := .some
    ⟨by norm_num [account, Binary64.value?, Binary64.finiteValue, Binary64.signed], by decide⟩
  max := .some
    ⟨by norm_num [account, Binary64.value?, Binary64.finiteValue, Binary64.signed], by decide⟩

end Sample

/-- Leading zeros do not count, and the number that follows the most does not pass for this. -/
theorem account_numbers_are_limited :
    Sample.account.HasLimits (some 1) (some 9007199254740991) ∧
    Validation.checkRule " 00009007199254740991 " Sample.account = .ok () ∧
    Validation.checkRule "00009007199254740992" Sample.account = .error .outOfRange := by
  have limits := Sample.account_hasLimits
  have most : Text.IsNumeral (Text.trim " 00009007199254740991 ".toList) 9007199254740991 :=
    ⟨by decide, Text.forall_of_all (by decide), by decide⟩
  have next : Text.IsNumeral (Text.trim "00009007199254740992".toList) 9007199254740992 :=
    ⟨by decide, Text.forall_of_all (by decide), by decide⟩
  refine ⟨limits, ?_, ?_⟩
  · refine (numeric_limits_are_enforced rfl rfl rfl limits _).1.mpr ⟨_, most, ?_, ?_⟩
    · exact ⟨by simp [Sample.account], by decide⟩
    · exact ⟨by simp, by simp⟩
  · refine (numeric_limits_are_enforced rfl rfl rfl limits _).2.1.mpr ⟨_, next, ?_, ?_⟩
    · exact ⟨by simp [Sample.account], by decide⟩
    · exact fun within => absurd (within.max _ rfl) (by decide)

end Ussd
