import Ussd.Proofs.DoubleValues
import Ussd.Proofs.TextPieces
import Ussd.Template.Filter

/-! # Grouped numbers

A number is shown with the digits of its decimal with a fixed number of places: blanks stand between
groups of three whole digits, a comma stands for the point, and of the zeros at the end as many are
left out as the least number of places allows. The sign is that of the number, unless all digits that
are shown are zeros. -/

namespace Ussd

/-! ## Digits of a fixed number of places -/

namespace Binary64

/-- Digits in front of the point, at least one, and as many behind it as there are places. -/
structure AreFixedDigits (places : Nat) (parts : List Char × List Char) : Prop where
  nonempty : parts.1 ≠ []
  wholeDigits : ∀ c ∈ parts.1, c.isDigit
  fractionDigits : ∀ c ∈ parts.2, c.isDigit
  length : parts.2.length = places

theorem areFixedDigits_fixedDigits (numerator denominator places : Nat) :
    AreFixedDigits places (fixedDigits numerator denominator places) := by
  have isDigit {number : Nat} {c : Char} (isMember : c ∈ Nat.toDigits 10 number) : c.isDigit :=
    Nat.isDigit_of_mem_toDigits (by decide) (by decide) isMember
  refine ⟨Nat.toDigits_ne_nil, fun c => isDigit, ?_, ?_⟩
  · intro c isMember
    rcases List.mem_append.mp isMember with inZeros | inFraction
    · rw [List.eq_of_mem_replicate inZeros]
      decide
    · split at inFraction
      · cases inFraction
      · exact isDigit inFraction
  · by_cases isWhole : places = 0
    · simp [fixedDigits, isWhole]
    · have short : (Nat.toDigits 10 (roundQuotient (numerator * Nat.pow 10 places) denominator %
          Nat.pow 10 places)).length ≤ places := by
        rw [Nat.length_toDigits_le_iff (by decide) (Nat.pos_of_ne_zero isWhole)]
        exact Nat.mod_lt _ (Nat.pow_pos (by decide))
      simp only [fixedDigits, isWhole, if_false, List.length_append, List.length_replicate]
      omega

variable {value : Binary64} {number : ℚ}

theorem areFixedDigits_fixedMagnitude (isNumber : value.value? = some number) (places : Nat) :
    AreFixedDigits places (value.fixedMagnitude places) := by
  cases value with
  | nan => cases isNumber
  | infinite negative => cases isNumber
  | finite negative mantissa exponent => exact areFixedDigits_fixedDigits _ _ _

theorem lt_zero_iff (isNumber : value.value? = some number) :
    value.lt (.zero false) = true ↔ number < 0 := by
  have isZero : (zero false).value? = some 0 := by simp [zero, value?, finiteValue, signed]
  exact lt_iff_value_lt isNumber isZero

end Binary64

namespace Filter

/-! ## Groups of three -/

/-- The digits with blanks between them, three digits behind each blank and one to three in front of
the first one. -/
structure IsGrouped (digits shown : List Char) : Prop where
  withoutBlanks : shown.filter (· != ' ') = digits
  first : ∀ group ∈ (Text.splitOn ' ' shown).head?, 1 ≤ group.length ∧ group.length ≤ 3
  others : ∀ group ∈ (Text.splitOn ' ' shown).tail, group.length = 3

theorem length_flatten_of_threes {groups : List (List Char)}
    (threes : ∀ group ∈ groups, group.length = 3) : groups.flatten.length = 3 * groups.length := by
  induction groups with
  | nil => rfl
  | cons group groups induction =>
      rcases List.forall_mem_cons.mp threes with ⟨three, threes⟩
      rw [List.flatten_cons, List.length_append, three, induction threes, List.length_cons]
      omega

/-- A digit joins the first group of the digits behind it, unless that group is full. -/
theorem exists_groups {digits : List Char} (nonempty : digits ≠ []) :
    ∃ first others, groupDigits digits = Text.join [' '] (first :: others) ∧
      first ++ others.flatten = digits ∧ 1 ≤ first.length ∧ first.length ≤ 3 ∧
      ∀ group ∈ others, group.length = 3 := by
  induction digits with
  | nil => exact absurd rfl nonempty
  | cons c rest induction =>
      by_cases isLast : rest = []
      · subst isLast
        exact ⟨[c], [], rfl, rfl, by simp, by simp, by simp⟩
      · rcases induction isLast with ⟨first, others, isJoined, rfl, atLeast, atMost, threes⟩
        have total : (first ++ others.flatten).length = first.length + 3 * others.length := by
          rw [List.length_append, length_flatten_of_threes threes]
        rw [groupDigits, isJoined]
        -- the first group is full just if the digits behind come in threes
        split
        · rename_i full
          have three : first.length = 3 := by omega
          exact ⟨[c], first :: others, rfl, rfl, by simp, by simp,
            List.forall_mem_cons.mpr ⟨three, threes⟩⟩
        · rename_i notFull
          have room : first.length < 3 := by omega
          exact ⟨c :: first, others, (Text.join_cons_cons _ _ _ _).symm, rfl, by simp,
            Nat.succ_le_of_lt room, threes⟩

theorem isGrouped_groupDigits {digits : List Char} (nonempty : digits ≠ [])
    (areDigits : ∀ c ∈ digits, c.isDigit) : IsGrouped digits (groupDigits digits) := by
  rcases exists_groups nonempty with ⟨first, others, isJoined, rfl, atLeast, atMost, threes⟩
  have noBlank : ∀ group ∈ first :: others, ' ' ∉ group := by
    intro group isGroup isBlank
    have isMember : ' ' ∈ (first :: others).flatten := List.mem_flatten_of_mem isGroup isBlank
    exact absurd (areDigits ' ' isMember) (by decide)
  have isSplit := Text.splitOn_join (List.cons_ne_nil first others) noBlank
  rw [← isJoined] at isSplit
  refine ⟨?_, ?_, ?_⟩
  · rw [isJoined, Text.filter_join noBlank, List.flatten_cons]
  · rw [isSplit]
    simpa using ⟨atLeast, atMost⟩
  · rw [isSplit]
    exact threes

theorem IsGrouped.mem_iff {digits shown : List Char} (isGrouped : IsGrouped digits shown) {c : Char}
    (notBlank : c ≠ ' ') : c ∈ shown ↔ c ∈ digits := by
  rw [← isGrouped.withoutBlanks, List.mem_filter]
  simp [notBlank]

/-! ## Zeros at the end -/

/-- The digits without zeros at their end: none is left out if that leaves less than `least` digits,
and all others are. -/
structure IsShortened (least : Nat) (digits shown : List Char) : Prop where
  zeros : ∃ count, digits = shown ++ List.replicate count '0' ∧ (count ≠ 0 → least ≤ shown.length)
  ending : least < shown.length → shown.getLast? ≠ some '0'

theorem le_length_dropZeros {least : Nat} {reversed : List Char} (enough : least ≤ reversed.length) :
    least ≤ (dropZeros least reversed).length := by
  induction reversed with
  | nil => exact enough
  | cons c rest induction =>
      rw [dropZeros]
      split
      · rename_i dropped
        exact induction dropped.1
      · exact enough

theorem exists_dropped_zeros (least : Nat) (reversed : List Char) :
    ∃ count, reversed = List.replicate count '0' ++ dropZeros least reversed ∧
      (count ≠ 0 → least ≤ (dropZeros least reversed).length) := by
  induction reversed with
  | nil => exact ⟨0, rfl, by simp⟩
  | cons c rest induction =>
      rw [dropZeros]
      split
      · rename_i dropped
        rcases dropped with ⟨enough, rfl⟩
        rcases induction with ⟨count, isSplit, -⟩
        refine ⟨count + 1, ?_, fun _ => le_length_dropZeros enough⟩
        rw [List.replicate_succ, List.cons_append, ← isSplit]
      · exact ⟨0, rfl, by simp⟩

theorem head?_dropZeros {least : Nat} {reversed : List Char}
    (more : least < (dropZeros least reversed).length) :
    (dropZeros least reversed).head? ≠ some '0' := by
  induction reversed with
  | nil => simp [dropZeros]
  | cons c rest induction =>
      rw [dropZeros] at more ⊢
      split at more
      · rename_i dropped
        rw [if_pos dropped]
        exact induction more
      · rename_i kept
        rw [if_neg kept, List.head?_cons, ne_eq, Option.some.injEq]
        rw [List.length_cons] at more
        exact fun isZero => kept ⟨Nat.lt_succ_iff.mp more, isZero⟩

theorem isShortened_dropZeros (least : Nat) (digits : List Char) :
    IsShortened least digits (dropZeros least digits.reverse).reverse := by
  rcases exists_dropped_zeros least digits.reverse with ⟨count, isSplit, enough⟩
  refine ⟨⟨count, ?_, ?_⟩, ?_⟩
  · rw [← List.reverse_replicate, ← List.reverse_append, ← isSplit, List.reverse_reverse]
  · rwa [List.length_reverse]
  · rw [List.length_reverse, List.getLast?_reverse]
    exact head?_dropZeros

theorem IsShortened.subset {least : Nat} {digits shown : List Char}
    (isShortened : IsShortened least digits shown) : shown ⊆ digits := by
  rcases isShortened.zeros with ⟨count, rfl, -⟩
  exact List.subset_append_left _ _

/-! ## The number as a whole -/

/-- The parts of a number as it is shown. -/
structure ShownNumber where
  isNegative : Bool
  whole : List Char
  fraction : List Char

def ShownNumber.text (shown : ShownNumber) : List Char :=
  (if shown.isNegative then ['-'] else []) ++ shown.whole ++
    (if shown.fraction.isEmpty then [] else ',' :: shown.fraction)

/-- What a formatted number is put together of. -/
def shownNumber (value : Binary64) (least most : Nat) : ShownNumber :=
  let digits := value.fixedMagnitude most
  let fraction := (dropZeros least digits.2.reverse).reverse
  { isNegative := value.lt (.zero false) &&
      !(digits.1.all (· == '0') && fraction.all (· == '0'))
    whole := groupDigits digits.1
    fraction := fraction }

theorem formatGrouped_eq_text (value : Binary64) (least most : Nat) :
    formatGrouped value least most = (shownNumber value least most).text := rfl

theorem notAllZero_iff {whole grouped fraction : List Char} (isGrouped : IsGrouped whole grouped)
    (wholeDigits : ∀ c ∈ whole, c.isDigit) (fractionDigits : ∀ c ∈ fraction, c.isDigit) :
    (!(whole.all (· == '0') && fraction.all (· == '0'))) = true ↔
      ∃ c ∈ grouped ++ fraction, c.isDigit ∧ c ≠ '0' := by
  have notBlank {c : Char} (isDigit : c.isDigit) : c ≠ ' ' := by
    rintro rfl
    cases isDigit
  rw [← List.all_append, Bool.not_eq_true', List.all_eq_false]
  constructor
  · rintro ⟨c, isMember, notZero⟩
    have isDigit : c.isDigit := List.forall_mem_append.mpr ⟨wholeDigits, fractionDigits⟩ c isMember
    refine ⟨c, ?_, isDigit, by simpa using notZero⟩
    exact List.mem_append.mpr
      ((List.mem_append.mp isMember).imp_left (isGrouped.mem_iff (notBlank isDigit)).mpr)
  · rintro ⟨c, isMember, isDigit, notZero⟩
    refine ⟨c, ?_, by simpa using notZero⟩
    exact List.mem_append.mpr
      ((List.mem_append.mp isMember).imp_left (isGrouped.mem_iff (notBlank isDigit)).mp)

/-- A number is shown with the digits of its decimal with `most` places, grouped in front of the
comma and shortened behind it. -/
theorem grouped_number_is_faithful {value : Binary64} {number : ℚ}
    (isNumber : value.value? = some number) (least most : Nat) :
    ∃ shown : ShownNumber,
      formatGrouped value least most = shown.text ∧
      Binary64.AreFixedDigits most (value.fixedMagnitude most) ∧
      IsGrouped (value.fixedMagnitude most).1 shown.whole ∧
      IsShortened least (value.fixedMagnitude most).2 shown.fraction ∧
      (shown.isNegative = true ↔
        number < 0 ∧ ∃ c ∈ shown.whole ++ shown.fraction, c.isDigit ∧ c ≠ '0') := by
  have areFixed := Binary64.areFixedDigits_fixedMagnitude isNumber most
  have isGrouped := isGrouped_groupDigits areFixed.nonempty areFixed.wholeDigits
  have isShortened := isShortened_dropZeros least (value.fixedMagnitude most).2
  have fractionDigits : ∀ c ∈ (dropZeros least (value.fixedMagnitude most).2.reverse).reverse,
      c.isDigit := fun c isMember => areFixed.fractionDigits c (isShortened.subset isMember)
  have someDigit := notAllZero_iff isGrouped areFixed.wholeDigits fractionDigits
  exact ⟨shownNumber value least most, formatGrouped_eq_text value least most, areFixed, isGrouped,
    isShortened, Bool.and_eq_true_iff.trans (and_congr (Binary64.lt_zero_iff isNumber) someDigit)⟩

namespace Sample

/-- A debt that is rounded up to the next million. -/
def debt : Binary64 := .ofDecimal true 999999996 (-3)

def debtNumber : ℚ := Binary64.finiteValue true 8589934557640262 (-33)

end Sample

theorem rounded_debt_is_grouped :
    Sample.debt.value? = some Sample.debtNumber ∧
    formatGrouped Sample.debt 1 2 = "-1 000 000,0".toList ∧
    ∃ shown : ShownNumber,
      formatGrouped Sample.debt 1 2 = shown.text ∧
      Binary64.AreFixedDigits 2 ("1000000".toList, "00".toList) ∧
      IsGrouped "1000000".toList shown.whole ∧
      IsShortened 1 "00".toList shown.fraction ∧
      shown.isNegative = true := by
  have isDebt : Sample.debt = .finite true 8589934557640262 (-33) := by decide +kernel
  have isNumber : Sample.debt.value? = some Sample.debtNumber := by
    rw [isDebt]
    rfl
  have digits : Sample.debt.fixedMagnitude 2 = ("1000000".toList, "00".toList) := by decide +kernel
  rcases grouped_number_is_faithful isNumber 1 2 with
    ⟨shown, isText, areFixed, isGrouped, isShortened, isNegative⟩
  rw [digits] at areFixed isGrouped isShortened
  have below : Sample.debtNumber < 0 :=
    (Binary64.lt_zero_iff isNumber).mp (by decide +kernel)
  have isOne : '1' ∈ shown.whole := (isGrouped.mem_iff (by decide)).mpr (by decide +kernel)
  refine ⟨isNumber, by decide +kernel, shown, isText, areFixed, isGrouped, isShortened, ?_⟩
  exact isNegative.mpr ⟨below, '1', List.mem_append_left _ isOne, by decide, by decide⟩

end Filter

end Ussd
