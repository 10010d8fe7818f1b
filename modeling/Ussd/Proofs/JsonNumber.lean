import Ussd.Json.Reader
import Ussd.Json.Writer

/-! # Legible numbers

A number is legible if the numeral that it is written as is read as this number. A numeral ends
where no character goes on with it, so that a legible number is read wherever it stands. All whole
numbers of 64 bits are legible. Of the doubles some are not, since the reader rounds more than
once. -/

namespace Ussd

namespace Json

/-! ## Numerals -/

/-- A text that does not go on with a numeral. -/
def AfterNumeral (text : List Char) : Prop :=
  ∀ c ∈ text.head?, c.isDigit = false ∧ c ≠ '.' ∧ c ≠ 'e' ∧ c ≠ 'E'

theorem takeDigits_append (text : List Char) {rest : List Char} (after : AfterNumeral rest) :
    (text ++ rest).takeWhile Char.isDigit = text.takeWhile Char.isDigit ∧
      (text ++ rest).dropWhile Char.isDigit = text.dropWhile Char.isDigit ++ rest := by
  induction text with
  | nil =>
      cases rest with
      | nil => exact ⟨rfl, rfl⟩
      | cons c rest => simp [(after c rfl).1]
  | cons c text induction =>
      cases digit : c.isDigit <;> simp [digit, induction]

theorem takeSign_append (sign : Char) (text rest : List Char) :
    Text.takeSign (sign :: text ++ rest) =
      ((Text.takeSign (sign :: text)).1, (Text.takeSign (sign :: text)).2 ++ rest) := by
  by_cases minus : sign = '-'
  · simp [Text.takeSign, minus]
  · by_cases plus : sign = '+' <;> simp [Text.takeSign, minus, plus]

theorem readExponent_append {text rest left : List Char} {exponent : Option (Bool × Nat)}
    (after : AfterNumeral rest) (reads : readExponent text = some (exponent, left)) :
    readExponent (text ++ rest) = some (exponent, left ++ rest) := by
  cases text with
  | nil =>
      cases reads
      cases rest with
      | nil => rfl
      | cons c rest =>
          have notMark := (after c rfl).2.2
          simp [readExponent, notMark]
  | cons mark text =>
      simp only [List.cons_append, readExponent] at reads ⊢
      split at reads
      case isFalse notMark =>
        cases reads
        rw [if_neg notMark]
        rfl
      case isTrue isMark =>
        cases text with
        | nil => cases reads
        | cons sign text =>
            have digits := takeDigits_append (Text.takeSign (sign :: text)).2 after
            rw [if_pos isMark, takeSign_append, digits.1, digits.2]
            split at reads
            case isTrue => cases reads
            case isFalse some =>
              cases reads
              rw [if_neg some]

/-- What is read of a numeral after its digits: an exponent, and then the number is complete. -/
def readRest (negative : Bool) (whole fraction text : List Char) : Node × List Char :=
  match readExponent text with
  | none => (.malformed, [])
  | some (exponent, rest) =>
    let number : Option Number :=
      if fraction.isEmpty && exponent.isNone then readWhole negative whole
      else (readDouble negative whole fraction exponent).map .double
    match number with
    | some number => (.number number, rest)
    | none => (.unread, rest)

theorem readRest_append {negative : Bool} {whole fraction text rest left : List Char}
    {number : Number} (after : AfterNumeral rest)
    (reads : readRest negative whole fraction text = (.number number, left)) :
    readRest negative whole fraction (text ++ rest) = (.number number, left ++ rest) := by
  unfold readRest at reads ⊢
  cases readsExponent : readExponent text with
  | none =>
      rw [readsExponent] at reads
      cases reads
  | some parts =>
      obtain ⟨exponent, tail⟩ := parts
      rw [readsExponent] at reads
      rw [readExponent_append after readsExponent]
      simp only at reads ⊢
      split at reads
      · cases reads
        rfl
      · cases reads

/-- A numeral is read alike if something follows it that does not go on with it. -/
theorem readNumeral_append {negative : Bool} {text rest left : List Char} {number : Number}
    (after : AfterNumeral rest) (reads : readNumeral negative text = (.number number, left)) :
    readNumeral negative (text ++ rest) = (.number number, left ++ rest) := by
  have digits := takeDigits_append text after
  unfold readNumeral at reads ⊢
  rw [digits.1, digits.2]
  simp only at reads ⊢
  split at reads
  case isTrue => cases reads
  case isFalse wellFormed =>
    rw [if_neg wellFormed]
    cases afterDigits : text.dropWhile Char.isDigit with
    | nil =>
        rw [afterDigits] at reads
        have done := readRest_append after
          (show readRest negative _ [] [] = (.number number, left) from reads)
        cases rest with
        | nil => exact done
        | cons c rest =>
            have notPoint := (after c rfl).2.1
            rw [List.nil_append]
            split
            case h_1 isPoint => exact absurd (List.cons.inj isPoint).1 notPoint
            case h_2 => exact done
    | cons c tail =>
        rw [afterDigits] at reads
        by_cases point : c = '.'
        · subst point
          have fraction := takeDigits_append tail after
          simp only [List.cons_append, fraction.1, fraction.2] at reads ⊢
          split at reads
          case isTrue => cases reads
          case isFalse some =>
            rw [if_neg some]
            exact readRest_append after reads
        · split at reads
          case h_1 isPoint => exact absurd (List.cons.inj isPoint).1 point
          case h_2 =>
            have done := readRest_append after
              (show readRest negative _ [] (c :: tail) = (.number number, left) from reads)
            rw [List.cons_append]
            split
            case h_1 isPoint => exact absurd (List.cons.inj isPoint).1 point
            case h_2 => exact done

/-! ### In front of a numeral -/

theorem not_isSpace_of_isDigit {c : Char} (digit : c.isDigit) : isSpace c = false := by
  cases space : isSpace c with
  | false => rfl
  | true =>
      simp only [isSpace, Bool.or_eq_true, beq_iff_eq] at space
      rcases space with ((rfl | rfl) | rfl) | rfl <;> cases digit

theorem skipSpace_append {text tail : List Char} {c : Char} (starts : skipSpace text = c :: tail)
    (rest : List Char) : skipSpace (text ++ rest) = c :: (tail ++ rest) := by
  simp only [skipSpace] at starts ⊢
  rw [List.dropWhile_append, starts]
  rfl

theorem limitDepth_ne_number {node : Node} {number : Number} (different : node ≠ .number number)
    (depth : Nat) : limitDepth depth node ≠ .number number := by
  unfold limitDepth
  split
  · exact different
  · simp

/-- A value that is a number begins with a sign or a digit. -/
theorem readNumeral_of_readValue {fuel depth : Nat} {text left : List Char} {number : Number}
    (reads : readValue fuel depth text = (.number number, left)) :
    ∃ c tail, skipSpace text = c :: tail ∧
      (c = '-' ∧ readNumeral true tail = (.number number, left) ∨
        c.isDigit ∧ readNumeral false (c :: tail) = (.number number, left)) := by
  cases fuel with
  | zero => cases reads
  | succ fuel =>
      unfold readValue at reads
      split at reads
      case h_1 => cases reads
      case h_2 =>
        split at reads
        all_goals cases reads
      case h_3 =>
        split at reads
        all_goals exact absurd (congrArg Prod.fst reads) (limitDepth_ne_number (by simp) depth)
      case h_4 =>
        split at reads
        all_goals exact absurd (congrArg Prod.fst reads) (limitDepth_ne_number (by simp) depth)
      case h_5 => cases reads
      case h_6 => cases reads
      case h_7 => cases reads
      case h_8 tail starts => exact ⟨'-', tail, starts, .inl ⟨rfl, reads⟩⟩
      case h_9 c tail _ _ _ _ _ _ _ starts =>
        split at reads
        case isTrue digit => exact ⟨c, tail, starts, .inr ⟨digit, reads⟩⟩
        case isFalse => cases reads

theorem readValue_of_minus {text tail : List Char} (starts : skipSpace text = '-' :: tail)
    (fuel depth : Nat) : readValue (fuel + 1) depth text = readNumeral true tail := by
  unfold readValue
  rw [starts]
  rfl

theorem readValue_of_digit {text tail : List Char} {c : Char} (digit : c.isDigit)
    (starts : skipSpace text = c :: tail) (fuel depth : Nat) :
    readValue (fuel + 1) depth text = readNumeral false (c :: tail) := by
  unfold readValue
  rw [starts]
  split
  case h_9 c tail _ _ _ _ _ _ _ starts =>
    cases starts
    rw [if_pos digit]
  all_goals
    rename_i starts
    cases starts
    try cases digit

end Json

/-! ## Legible numbers -/

/-- The number that a document is. -/
def Node.number? : Node → Option Number
  | .number value => some value
  | _ => none

theorem Node.number?_eq_some {node : Node} {number : Number} :
    node.number? = some number ↔ node = .number number := by
  cases node <;> simp [number?]

namespace Number

variable {number : Number}

/-- The numeral of a number is read as this number. -/
def Legible (number : Number) : Prop := Json.readNode number.write = (.number number, [])

instance (number : Number) : Decidable number.Legible :=
  decidable_of_iff ((Json.readNode number.write).1.number? = some number ∧
    (Json.readNode number.write).2 = []) (by rw [Node.number?_eq_some, Legible, Prod.ext_iff])

/-- The first double is written as `1.5`, the second one as `5.0000000000000004e+32`. -/
example : (Number.double (.finite false 6755399441055744 (-52))).Legible ∧
    ¬(Number.double (.finite false 6938893903907229 56)).Legible := by
  decide +kernel

/-- A legible number is read wherever it stands. -/
theorem Legible.readValue (legible : number.Legible) (fuel depth : Nat) {rest : List Char}
    (after : Json.AfterNumeral rest) :
    Json.readValue (fuel + 1) depth (number.write ++ rest) = (.number number, rest) := by
  obtain ⟨c, tail, starts, numeral⟩ := Json.readNumeral_of_readValue legible
  have startsHere := Json.skipSpace_append starts rest
  rcases numeral with ⟨rfl, reads⟩ | ⟨digit, reads⟩
  · rw [Json.readValue_of_minus startsHere]
    exact Json.readNumeral_append after reads
  · rw [Json.readValue_of_digit digit startsHere]
    exact Json.readNumeral_append after reads

theorem Legible.starts (legible : number.Legible) (rest : List Char) :
    ∃ c tail, Json.skipSpace (number.write ++ rest) = c :: tail ∧ c ≠ ']' := by
  obtain ⟨c, tail, starts, numeral⟩ := Json.readNumeral_of_readValue legible
  refine ⟨c, tail ++ rest, Json.skipSpace_append starts rest, ?_⟩
  rintro rfl
  rcases numeral with ⟨isMinus, _⟩ | ⟨isDigit, _⟩
  · cases isMinus
  · cases isDigit

/-! ### Whole numbers -/

theorem head?_toDigits_of_pos (value : Nat) (positive : 0 < value) :
    (Nat.toDigits 10 value).head? ≠ some '0' := by
  induction value using Nat.strongRecOn with
  | ind value induction =>
      rcases Nat.lt_or_ge value 10 with small | large
      · rw [Nat.toDigits_of_lt_base small]
        have digits : ∀ digit < 10, 0 < digit → [digit.digitChar].head? ≠ some '0' := by decide
        exact digits value small positive
      · rw [Nat.toDigits_of_base_le (by decide) large, List.head?_append]
        have leading := induction (value / 10) (by omega) (by omega)
        cases digits : (Nat.toDigits 10 (value / 10)).head? with
        | none => exact absurd (List.head?_eq_none_iff.mp digits) Nat.toDigits_ne_nil
        | some digit =>
            rw [digits] at leading
            exact leading

theorem digitsValue_toDigits (value : Nat) :
    Text.digitsValue (Nat.toDigits 10 value) = value := by
  rw [Text.digitsValue_eq, Nat.ofDigitChars_ten_toDigits]

theorem readNumeral_toDigits (negative : Bool) (value : Nat) :
    Json.readNumeral negative (Nat.toDigits 10 value) =
      match Json.readWhole negative (Nat.toDigits 10 value) with
      | some number => (.number number, [])
      | none => (.unread, []) := by
  have allDigits : ∀ c ∈ Nat.toDigits 10 value, c.isDigit :=
    fun c member => Nat.isDigit_of_mem_toDigits (by decide) (by decide) member
  have taken : (Nat.toDigits 10 value ++ []).takeWhile Char.isDigit = Nat.toDigits 10 value ++ [] :=
    List.takeWhile_append_of_pos allDigits
  have dropped : (Nat.toDigits 10 value ++ []).dropWhile Char.isDigit = [] :=
    List.dropWhile_append_of_pos allDigits
  rw [List.append_nil] at taken dropped
  have wellFormed : ((Nat.toDigits 10 value).isEmpty ||
      (Nat.toDigits 10 value).head? == some '0' && (Nat.toDigits 10 value).length != 1) = false := by
    rcases Nat.eq_zero_or_pos value with rfl | positive
    · rfl
    · have noZero := head?_toDigits_of_pos value positive
      simp [noZero, Nat.toDigits_ne_nil]
  unfold Json.readNumeral
  rw [taken, dropped]
  simp only [wellFormed]
  rfl

/-- A whole number of 64 bits, signed or not. -/
def IsWord : Number → Prop
  | .whole value => -(Text.signedLimit : Int) ≤ value ∧ value ≤ Text.greatestWord
  | .double _ => False

instance : (number : Number) → Decidable number.IsWord
  | .whole _ => inferInstanceAs (Decidable (_ ∧ _))
  | .double _ => .isFalse id

private theorem legible_whole {value : Int} (notBelow : -(Text.signedLimit : Int) ≤ value)
    (notAbove : value ≤ Text.greatestWord) : (whole value).Legible := by
  have number : Json.readNumeral (decide (value < 0)) (Nat.toDigits 10 value.natAbs) =
      (.number (.whole value), []) := by
    rw [readNumeral_toDigits, Json.readWhole, digitsValue_toDigits]
    by_cases negative : value < 0
    · have within : value.natAbs ≠ 0 ∧ value.natAbs ≤ Text.signedLimit := by omega
      have isValue : -(value.natAbs : Int) = value := by omega
      simp only [decide_eq_true negative, if_true, if_pos within, isValue]
    · have within : value.natAbs ≤ Text.greatestWord := by omega
      have isValue : (value.natAbs : Int) = value := by omega
      simp only [decide_eq_false negative, Bool.false_eq_true, if_false, if_pos within, isValue]
  by_cases negative : value < 0
  · have written : (whole value).write = '-' :: Nat.toDigits 10 value.natAbs := by
      simp [write, wholeText, negative]
    rw [Legible, written, Json.readNode, Json.readValue_of_minus rfl]
    simpa [negative] using number
  · have written : (whole value).write = Nat.toDigits 10 value.natAbs := by
      simp [write, wholeText, negative]
    have isFalse : decide (value < 0) = false := by simp [negative]
    rw [isFalse] at number
    rw [Legible, written, Json.readNode]
    cases digits : Nat.toDigits 10 value.natAbs with
    | nil => exact absurd digits Nat.toDigits_ne_nil
    | cons c tail =>
        have isDigit : c.isDigit :=
          Nat.isDigit_of_mem_toDigits (by decide) (by decide) (digits ▸ List.mem_cons_self)
        have starts : Json.skipSpace (c :: tail) = c :: tail :=
          List.dropWhile_cons_of_neg (by simp [Json.not_isSpace_of_isDigit isDigit])
        rw [digits] at number
        rw [Json.readValue_of_digit isDigit starts]
        exact number

/-- Whole numbers of 64 bits are read exactly. -/
theorem IsWord.legible {number : Number} (isWord : number.IsWord) : number.Legible := by
  cases number with
  | whole value => exact legible_whole isWord.1 isWord.2
  | double value => exact isWord.elim

end Number

end Ussd
