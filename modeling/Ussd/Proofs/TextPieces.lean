import Mathlib.Data.List.DropRight
import Ussd.Text.Blank
import Ussd.Text.Pieces

/-! # Laws of cutting and trimming

A text is cut at the first occurrence of a fragment: the fragment does not occur earlier, not even
where it would overlap the occurrence that is found. -/

namespace Ussd.Text

/-! ## Known beginnings and ends -/

theorem afterStart?_eq_some_iff {start text rest : List Char} :
    afterStart? start text = some rest ↔ text = start ++ rest := by
  induction start generalizing text with
  | nil => simp [afterStart?]
  | cons expected start induction =>
      cases text with
      | nil => simp [afterStart?]
      | cons c text =>
          by_cases equal : c = expected
          · simp [afterStart?, equal, induction]
          · simp [afterStart?, equal]

theorem afterStart?_eq_none_iff {start text : List Char} :
    afterStart? start text = none ↔ ¬start <+: text := by
  rw [Option.eq_none_iff_forall_ne_some]
  constructor
  · rintro missing ⟨rest, rfl⟩
    exact missing rest (afterStart?_eq_some_iff.mpr rfl)
  · intro notStart rest found
    exact notStart ⟨rest, (afterStart?_eq_some_iff.mp found).symm⟩

theorem beforeEnd?_eq_some_iff {ending text front : List Char} :
    beforeEnd? ending text = some front ↔ text = front ++ ending := by
  rw [beforeEnd?, Option.map_eq_some_iff]
  constructor
  · intro found
    rcases found with ⟨rest, isRest, isFront⟩
    have reversed := congrArg List.reverse (afterStart?_eq_some_iff.mp isRest)
    rw [List.reverse_reverse, List.reverse_append, List.reverse_reverse, isFront] at reversed
    exact reversed
  · intro same
    refine ⟨front.reverse, ?_, List.reverse_reverse front⟩
    rw [afterStart?_eq_some_iff, same, List.reverse_append]

theorem startsWith_iff {start text : List Char} : startsWith start text ↔ start <+: text := by
  rw [startsWith, Option.isSome_iff_ne_none, ne_eq, afterStart?_eq_none_iff, not_not]

theorem endsWith_iff {ending text : List Char} : endsWith ending text ↔ ending <:+ text := by
  rw [endsWith, beforeEnd?, Option.isSome_map, ← startsWith, startsWith_iff, List.reverse_prefix]

theorem startsWith_singleton (c : Char) (text : List Char) :
    startsWith [c] text = (text.head? == some c) := by
  cases text with
  | nil => rfl
  | cons head tail => by_cases equal : head = c <;> simp [startsWith, afterStart?, equal]

theorem endsWith_singleton (c : Char) (text : List Char) :
    endsWith [c] text = (text.getLast? == some c) := by
  have reversed := startsWith_singleton c text.reverse
  rw [List.head?_reverse] at reversed
  simpa [endsWith, beforeEnd?, startsWith] using reversed

/-! ## Fragments around a character -/

/-- What a text begins with ends before a character that it does not have. -/
theorem prefix_of_prefix_append_cons {fragment before after : List Char} {c : Char}
    (isStart : fragment <+: before ++ c :: after) (absent : c ∉ fragment) :
    fragment <+: before := by
  have toCharacter : before ++ [c] <+: before ++ c :: after := ⟨after, by simp⟩
  rcases List.prefix_or_prefix_of_prefix isStart toCharacter with shorter | longer
  · rcases List.prefix_concat_iff.mp shorter with rfl | shorter
    · exact absurd (List.mem_append_right _ List.mem_cons_self) absent
    · exact shorter
  · exact absurd (longer.subset (List.mem_append_right _ List.mem_cons_self)) absent

/-- A fragment occurs on one side of a character that it does not have. -/
theorem infix_append_cons_iff {fragment before after : List Char} {c : Char}
    (nonempty : fragment ≠ []) (absent : c ∉ fragment) :
    fragment <:+: before ++ c :: after ↔ fragment <:+: before ∨ fragment <:+: after := by
  have notStart : ¬fragment <+: c :: after := by
    intro isStart
    have empty : fragment <+: [] := prefix_of_prefix_append_cons isStart absent
    exact nonempty (List.prefix_nil.mp empty)
  induction before with
  | nil => simp [List.infix_cons_iff, notStart, nonempty]
  | cons head before induction =>
      have start : fragment <+: head :: before ++ c :: after ↔ fragment <+: head :: before :=
        ⟨fun isStart => prefix_of_prefix_append_cons isStart absent,
          fun isStart => isStart.trans (List.prefix_append _ _)⟩
      rw [List.cons_append, List.infix_cons_iff, ← List.cons_append, start,
        List.infix_cons_iff, or_assoc]
      exact or_congr_right induction

/-! ## Cutting at a fragment -/

theorem cutFragment?_eq_none_iff {fragment text : List Char} :
    cutFragment? fragment text = none ↔ ¬fragment <:+: text := by
  induction text with
  | nil => cases fragment <;> simp [cutFragment?]
  | cons c rest induction =>
      rw [cutFragment?, List.infix_cons_iff, not_or, ← induction, ← afterStart?_eq_none_iff]
      cases afterStart? fragment (c :: rest) <;> simp

/-- A fragment that a longer text begins with occurs in what that text begins with. -/
private theorem infix_of_prefix_append {fragment before after : List Char} {c : Char}
    (nonempty : fragment ≠ []) (isStart : fragment <+: c :: before ++ (fragment ++ after)) :
    fragment <:+: c :: before ++ fragment.dropLast := by
  have shorter : c :: before ++ fragment.dropLast <+: c :: before ++ (fragment ++ after) :=
    (List.prefix_append_right_inj _).mpr
      ((List.dropLast_prefix fragment).trans (List.prefix_append _ _))
  have length : 0 < fragment.length := List.length_pos_iff.mpr nonempty
  apply List.IsPrefix.isInfix
  apply List.prefix_of_prefix_length_le isStart shorter
  simp
  omega

/-- The cut is made at the first occurrence. -/
theorem cutFragment?_eq_some_iff {fragment text before after : List Char}
    (nonempty : fragment ≠ []) :
    cutFragment? fragment text = some (before, after) ↔
      text = before ++ (fragment ++ after) ∧ ¬fragment <:+: before ++ fragment.dropLast := by
  induction text generalizing before with
  | nil => cases fragment <;> simp_all [cutFragment?]
  | cons c rest induction =>
      have length : 0 < fragment.length := List.length_pos_iff.mpr nonempty
      rw [cutFragment?]
      cases start : afterStart? fragment (c :: rest) with
      | some tail =>
          have split := afterStart?_eq_some_iff.mp start
          constructor
          · intro cut
            cases cut
            refine ⟨split, fun occurs => ?_⟩
            have bound := occurs.length_le
            simp at bound
            omega
          · rintro ⟨other, first⟩
            cases before with
            | nil =>
                rw [List.nil_append, split] at other
                rw [List.append_cancel_left other]
            | cons head before =>
                have isStart : fragment <+: head :: before ++ (fragment ++ after) :=
                  ⟨tail, by rw [← split, other]⟩
                exact absurd (infix_of_prefix_append nonempty isStart) first
      | none =>
          have notStart := afterStart?_eq_none_iff.mp start
          constructor
          · intro cut
            rcases Option.map_eq_some_iff.mp cut with ⟨⟨front, back⟩, found, same⟩
            cases same
            rcases induction.mp found with ⟨rfl, first⟩
            refine ⟨rfl, fun occurs => ?_⟩
            rcases List.infix_cons_iff.mp occurs with isStart | later
            · apply notStart
              apply isStart.trans
              exact (List.prefix_append_right_inj (c :: front)).mpr
                ((List.dropLast_prefix fragment).trans (List.prefix_append _ _))
            · exact first later
          · rintro ⟨split, first⟩
            cases before with
            | nil => exact absurd ⟨after, split.symm⟩ notStart
            | cons head before =>
                rcases List.cons.inj split with ⟨rfl, restSplit⟩
                have found := induction.mpr
                  ⟨restSplit, fun occurs => first (List.infix_cons occurs)⟩
                rw [found]
                rfl

/-- What follows does not matter to the first occurrence. -/
theorem cutFragment?_append_right {fragment text before after : List Char}
    (nonempty : fragment ≠ []) (cut : cutFragment? fragment text = some (before, after))
    (rest : List Char) : cutFragment? fragment (text ++ rest) = some (before, after ++ rest) := by
  rw [cutFragment?_eq_some_iff nonempty] at cut ⊢
  rcases cut with ⟨rfl, first⟩
  exact ⟨by simp, first⟩

/-- A fragment is found behind a text without its first character. -/
theorem cutFragment?_append {first : Char} {before : List Char} (absent : first ∉ before)
    (fragment after : List Char) :
    cutFragment? (first :: fragment) (before ++ (first :: fragment ++ after)) =
      some (before, after) := by
  have found : afterStart? fragment (fragment ++ after) = some after :=
    afterStart?_eq_some_iff.mpr rfl
  induction before with
  | nil => simp [cutFragment?, afterStart?, found]
  | cons c tail induction =>
      simp only [List.mem_cons, not_or] at absent
      rcases absent with ⟨different, tailAbsent⟩
      have behind := induction tailAbsent
      simp only [List.cons_append] at behind ⊢
      simp [cutFragment?, afterStart?, Ne.symm different, behind]

/-! ## Cutting at a character -/

theorem cutAt?_eq_none_iff {stop : Char → Bool} {text : List Char} :
    cutAt? stop text = none ↔ ∀ c ∈ text, stop c = false := by
  induction text with
  | nil => simp [cutAt?]
  | cons c rest induction => cases stops : stop c <;> simp [cutAt?, stops, induction]

theorem cutAt?_append {stop : Char → Bool} {before : List Char}
    (passes : ∀ c ∈ before, stop c = false) {c : Char} (stops : stop c) (after : List Char) :
    cutAt? stop (before ++ c :: after) = some (before, after) := by
  induction before with
  | nil => simp [cutAt?, stops]
  | cons head tail induction =>
      rcases List.forall_mem_cons.mp passes with ⟨headPasses, tailPasses⟩
      simp [cutAt?, headPasses, induction tailPasses]

theorem of_cutAt?_eq_some {stop : Char → Bool} {text before after : List Char}
    (cut : cutAt? stop text = some (before, after)) :
    ∃ c, text = before ++ c :: after ∧ stop c ∧ ∀ c ∈ before, stop c = false := by
  induction text generalizing before with
  | nil => cases cut
  | cons head tail induction =>
      rw [cutAt?] at cut
      split at cut
      · rename_i stops
        cases cut
        exact ⟨head, rfl, stops, by simp⟩
      · rename_i passes
        rcases Option.map_eq_some_iff.mp cut with ⟨⟨front, back⟩, found, same⟩
        cases same
        rcases induction found with ⟨c, rfl, stops, frontPasses⟩
        exact ⟨c, rfl, stops, List.forall_mem_cons.mpr ⟨by simpa using passes, frontPasses⟩⟩

/-! ## Splitting at a character -/

theorem splitOn_of_not_mem {separator : Char} {text : List Char} (absent : separator ∉ text) :
    splitOn separator text = [text] := by
  induction text with
  | nil => rfl
  | cons c text induction =>
      rw [List.mem_cons, not_or] at absent
      simp [splitOn, Ne.symm absent.1, induction absent.2]

theorem splitOn_append {separator : Char} {before : List Char} (absent : separator ∉ before)
    (after : List Char) :
    splitOn separator (before ++ separator :: after) = before :: splitOn separator after := by
  induction before with
  | nil => simp [splitOn]
  | cons c before induction =>
      rw [List.mem_cons, not_or] at absent
      simp [splitOn, Ne.symm absent.1, induction absent.2]

/-- The first piece ends at the first separator. -/
theorem exists_first_piece (separator : Char) (text : List Char) :
    ∃ first others, splitOn separator text = first :: others ∧ separator ∉ first := by
  rcases Decidable.em (separator ∈ text) with isMember | absent
  · rcases List.eq_append_cons_of_mem isMember with ⟨before, after, rfl, absent⟩
    exact ⟨before, _, splitOn_append absent after, absent⟩
  · exact ⟨text, [], splitOn_of_not_mem absent, absent⟩

/-- What holds in all pieces and of the separator holds in the text. -/
theorem forall_of_pieces {separator : Char} (holds : Char → Prop) (ofSeparator : holds separator)
    {text : List Char} (pieces : ∀ piece ∈ splitOn separator text, ∀ c ∈ piece, holds c) :
    ∀ c ∈ text, holds c := by
  induction text with
  | nil => simp
  | cons head text induction =>
      rw [splitOn] at pieces
      split at pieces
      · rename_i isSeparator
        rcases List.forall_mem_cons.mp pieces with ⟨-, others⟩
        exact List.forall_mem_cons.mpr ⟨isSeparator ▸ ofSeparator, induction others⟩
      · split at pieces
        · rename_i none
          rcases exists_first_piece separator text with ⟨first, others, some, -⟩
          rw [none] at some
          cases some
        · rename_i first others same
          rcases List.forall_mem_cons.mp pieces with ⟨ofFirst, ofOthers⟩
          rcases List.forall_mem_cons.mp ofFirst with ⟨ofHead, ofFirst⟩
          rw [same] at induction
          exact List.forall_mem_cons.mpr
            ⟨ofHead, induction (List.forall_mem_cons.mpr ⟨ofFirst, ofOthers⟩)⟩

/-! ## Classes of characters -/

/-- The class of all characters of a given text can be computed. -/
theorem forall_of_all {text : List Char} {classify : Char → Bool} {value : Bool}
    (all : text.all (classify · == value)) : ∀ c ∈ text, classify c = value := by
  intro c isMember
  have same := List.all_eq_true.mp all c isMember
  exact beq_iff_eq.mp same

/-- The blank characters by their codes. -/
def blankCodes : List Nat :=
  [9, 10, 11, 12, 13, 0x20, 0x85, 0xA0, 0x1680] ++ List.range' 0x2000 11 ++
    [0x2028, 0x2029, 0x202F, 0x205F, 0x3000]

/-- A class of characters without a blank. -/
theorem isBlank_of_class (holds : Char → Bool)
    (none : ∀ code ∈ blankCodes, holds (Char.ofNat code) = false) {c : Char} (isHeld : holds c) :
    isBlank c = false := by
  cases blank : isBlank c with
  | false => rfl
  | true =>
      have isCode : c.toNat ∈ blankCodes := by
        simp only [isBlank, Bool.or_eq_true, Bool.and_eq_true, decide_eq_true_eq,
          beq_iff_eq] at blank
        simp only [blankCodes, List.mem_append, List.mem_cons, List.not_mem_nil, or_false,
          List.mem_range'_1]
        omega
      have notHeld := none c.toNat isCode
      rw [Char.ofNat_toNat, isHeld] at notHeld
      cases notHeld

/-! ## Reading up to a character -/

section Stops

variable {holds : Char → Bool} {stop : Char}

theorem bne_of_not_mem {text : List Char} (absent : stop ∉ text) :
    ∀ c ∈ text, (c != stop) = true := by
  intro c isMember
  rw [bne_iff_ne]
  rintro rfl
  exact absent isMember

theorem takeWhile_append_cons (stops : holds stop = false) (front back : List Char) :
    (front ++ stop :: back).takeWhile holds = front.takeWhile holds := by
  induction front with
  | nil => simp [stops]
  | cons c front induction => cases isHeld : holds c <;> simp [isHeld, induction]

theorem dropWhile_append_cons (stops : holds stop = false) (front back : List Char) :
    (front ++ stop :: back).dropWhile holds = front.dropWhile holds ++ stop :: back := by
  induction front with
  | nil => simp [stops]
  | cons c front induction => cases isHeld : holds c <;> simp [isHeld, induction]

end Stops

/-! ## Joining -/

theorem join_cons_cons (separator : List Char) (c : Char) (text : List Char)
    (rest : List (List Char)) :
    join separator ((c :: text) :: rest) = c :: join separator (text :: rest) := by
  cases rest with
  | nil => rfl
  | cons next rest => rfl

section JoinedPieces

variable {separator : Char} {pieces : List (List Char)}

/-- Pieces without the separator are told apart by it. -/
theorem splitOn_join (nonempty : pieces ≠ []) (absent : ∀ piece ∈ pieces, separator ∉ piece) :
    splitOn separator (join [separator] pieces) = pieces := by
  induction pieces with
  | nil => exact absurd rfl nonempty
  | cons piece rest induction =>
      rcases List.forall_mem_cons.mp absent with ⟨pieceAbsent, restAbsent⟩
      cases rest with
      | nil => exact splitOn_of_not_mem pieceAbsent
      | cons next rest =>
          have tail := induction (List.cons_ne_nil next rest) restAbsent
          simp only [join, List.append_assoc, List.singleton_append]
          rw [splitOn_append pieceAbsent, tail]

theorem filter_join (absent : ∀ piece ∈ pieces, separator ∉ piece) :
    (join [separator] pieces).filter (· != separator) = pieces.flatten := by
  induction pieces with
  | nil => rfl
  | cons piece rest induction =>
      rcases List.forall_mem_cons.mp absent with ⟨pieceAbsent, restAbsent⟩
      have kept : piece.filter (· != separator) = piece :=
        List.filter_eq_self.mpr (bne_of_not_mem pieceAbsent)
      cases rest with
      | nil => simpa [join] using kept
      | cons next rest =>
          have tail := induction restAbsent
          simp only [join, List.filter_append, kept, tail]
          simp

end JoinedPieces

/-! ## Trimming -/

theorem trimStart_of_head {c : Char} (notBlank : isBlank c = false) (rest : List Char) :
    trimStart (c :: rest) = c :: rest :=
  List.dropWhile_cons_of_neg (by simp [notBlank])

theorem trimStart_append_cons {c : Char} (notBlank : isBlank c = false) (before after : List Char) :
    trimStart (before ++ c :: after) = trimStart before ++ c :: after :=
  dropWhile_append_cons notBlank before after

theorem trim_of_head {c : Char} (notBlank : isBlank c = false) (rest : List Char) :
    trim (c :: rest) = c :: trimEnd rest := by
  rw [trim, trimStart_of_head notBlank, trimEnd_cons notBlank]

theorem trim_cons_blank {c : Char} (blank : isBlank c) (rest : List Char) :
    trim (c :: rest) = trim rest := by
  rw [trim, trim, trimStart, List.dropWhile_cons_of_pos blank, trimStart]

theorem trimEnd_append_blank {blanks : List Char} (areBlank : ∀ c ∈ blanks, isBlank c)
    (text : List Char) : trimEnd (text ++ blanks) = trimEnd text := by
  have dropped : (blanks.reverse).dropWhile isBlank = [] := by simpa using areBlank
  simp [trimEnd, List.dropWhile_append, dropped]

theorem trim_append_blank {blanks : List Char} (areBlank : ∀ c ∈ blanks, isBlank c)
    (text : List Char) : trim (text ++ blanks) = trim text := by
  have dropped : blanks.dropWhile isBlank = [] := by simpa using areBlank
  rw [trim, trim, trimStart, trimStart, List.dropWhile_append]
  split
  · rename_i empty
    rw [dropped, List.isEmpty_iff.mp empty]
  · exact trimEnd_append_blank areBlank _

theorem trim_blank_append {blanks : List Char} (areBlank : ∀ c ∈ blanks, isBlank c)
    (text : List Char) : trim (blanks ++ text) = trim text := by
  induction blanks with
  | nil => rfl
  | cons c rest induction =>
      rcases List.forall_mem_cons.mp areBlank with ⟨blank, areBlank⟩
      rw [List.cons_append, trim_cons_blank blank, induction areBlank]

theorem trimEnd_append {front : List Char} (notBlank : ∀ c ∈ front, isBlank c = false)
    (text : List Char) : trimEnd (front ++ text) = front ++ trimEnd text := by
  induction front with
  | nil => rfl
  | cons c rest induction =>
      rcases List.forall_mem_cons.mp notBlank with ⟨first, notBlank⟩
      rw [List.cons_append, trimEnd_cons first, induction notBlank, List.cons_append]

/-- Only blanks are trimmed. -/
theorem mem_trim {text : List Char} {c : Char} (isMember : c ∈ text) (notBlank : isBlank c = false) :
    c ∈ trim text := by
  have keeps {text : List Char} (isMember : c ∈ text) : c ∈ text.dropWhile isBlank := by
    rw [← List.takeWhile_append_dropWhile (p := isBlank) (l := text)] at isMember
    rcases List.mem_append.mp isMember with dropped | kept
    · rw [List.mem_takeWhile_imp dropped] at notBlank
      cases notBlank
    · exact kept
  rw [trim, trimEnd, List.mem_reverse]
  exact keeps (List.mem_reverse.mpr (keeps isMember))

theorem trim_infix (text : List Char) : trim text <:+: text := by
  have isSuffix : trimStart text <:+ text := List.dropWhile_suffix _
  have isPrefix : trim text <+: trimStart text := List.rdropWhile_prefix _ _
  exact isPrefix.isInfix.trans isSuffix.isInfix

theorem trimStart_eq_self_iff {text : List Char} :
    trimStart text = text ↔ ∀ c ∈ text.head?, isBlank c = false := by
  cases text with
  | nil => simp [trimStart]
  | cons c rest => simp [trimStart, List.dropWhile_eq_self_iff]

theorem trimEnd_eq_self_iff {text : List Char} :
    trimEnd text = text ↔ ∀ c ∈ text.getLast?, isBlank c = false := by
  rw [trimEnd, ← List.rdropWhile, List.rdropWhile_eq_self_iff]
  constructor
  · intro notBlank c last
    rcases List.getLast?_eq_some_iff.mp last with ⟨front, rfl⟩
    simpa using notBlank (by simp)
  · intro notBlank nonempty
    simpa using notBlank _ (List.getLast?_eq_some_getLast nonempty)

theorem trim_eq_self_iff {text : List Char} :
    trim text = text ↔
      (∀ c ∈ text.head?, isBlank c = false) ∧ ∀ c ∈ text.getLast?, isBlank c = false := by
  rw [← trimStart_eq_self_iff, ← trimEnd_eq_self_iff]
  constructor
  · intro kept
    have isSuffix : trimStart text <:+ text := List.dropWhile_suffix _
    have isPrefix : trimEnd (trimStart text) <+: trimStart text := List.rdropWhile_prefix _ _
    have length := isPrefix.length_le
    rw [← trim, kept] at length
    have start := isSuffix.eq_of_length_le length
    exact ⟨start, by rwa [trim, start] at kept⟩
  · rintro ⟨start, ending⟩
    rw [trim, start, ending]

/-- A text with a first and a last character that are not blank. -/
theorem trim_enclosed {first last : Char} (firstStays : isBlank first = false)
    (lastStays : isBlank last = false) (text : List Char) :
    trim (first :: (text ++ [last])) = first :: (text ++ [last]) := by
  rw [trim_eq_self_iff, ← List.cons_append, List.getLast?_concat]
  simp [firstStays, lastStays]

theorem trim_of_forall {text : List Char} (notBlank : ∀ c ∈ text, isBlank c = false) :
    trim text = text := by
  rw [trim_eq_self_iff]
  exact ⟨fun c first => notBlank c (List.mem_of_head? first),
    fun c last => notBlank c (List.mem_of_getLast? last)⟩

end Ussd.Text
