import Ussd.Calendar.Instant

/-! # The order of instants

Instants are ordered by their seconds and then by the fraction. A shift keeps the order of its sizes,
also out of a leap second; the order of the instants themselves it keeps where no leap second is
left. -/

namespace Ussd

namespace Instant

theorem lt_iff {left right : Instant} : left.lt right = true ↔
    left.seconds < right.seconds ∨
      left.seconds = right.seconds ∧ left.nanoseconds < right.nanoseconds := by
  simp [lt]

theorem not_lt_iff {left right : Instant} : left.lt right = false ↔
    right.seconds < left.seconds ∨
      left.seconds = right.seconds ∧ right.nanoseconds ≤ left.nanoseconds := by
  rw [← Bool.not_eq_true, lt_iff]
  omega

theorem lt_irrefl (instant : Instant) : instant.lt instant = false := by
  simp [lt]

theorem not_lt_of_lt {left right : Instant} (less : left.lt right = true) :
    right.lt left = false := by
  rw [lt_iff] at less
  rw [not_lt_iff]
  omega

theorem not_lt_trans {first second third : Instant} (notFirst : first.lt second = false)
    (notSecond : second.lt third = false) : first.lt third = false := by
  rw [not_lt_iff] at notFirst notSecond ⊢
  omega

theorem lt_of_lt_of_not_lt {first second third : Instant} (less : first.lt second = true)
    (notLess : third.lt second = false) : first.lt third = true := by
  rw [not_lt_iff] at notLess
  rw [lt_iff] at less ⊢
  omega

theorem lt_of_not_lt_of_ne {left right : Instant} (notLess : right.lt left = false)
    (different : right ≠ left) : left.lt right = true := by
  rw [ne_eq, Instant.mk.injEq] at different
  rw [not_lt_iff] at notLess
  rw [lt_iff]
  omega

/-! ## Shifts -/

theorem shift_zero (instant : Instant) : instant.shift 0 = instant := by
  simp [shift]

/-- To go further does not lead to an earlier instant. -/
theorem not_shift_lt_shift (instant : Instant) {less more : Int} (ordered : less ≤ more) :
    (instant.shift more).lt (instant.shift less) = false := by
  simp only [not_lt_iff, shift, nanosecondsPerSecond]
  grind

theorem lt_shift (instant : Instant) {seconds : Int} (positive : 0 < seconds) :
    instant.lt (instant.shift seconds) = true := by
  simp only [lt_iff, shift, nanosecondsPerSecond]
  grind

theorem shift_lt (instant : Instant) {seconds : Int} (negative : seconds < 0) :
    (instant.shift seconds).lt instant = true := by
  simp only [lt_iff, shift, nanosecondsPerSecond]
  grind

theorem not_lt_minusDays (now : Instant) {days : Int} (notNegative : 0 ≤ days) :
    now.lt (now.minusDays days) = false := by
  have back : -days * secondsPerDay ≤ 0 := by
    rw [secondsPerDay]
    omega
  simpa only [shift_zero, minusDays] using now.not_shift_lt_shift back

/-- The instant is in no leap second. -/
def IsPlain (instant : Instant) : Prop := instant.nanoseconds < nanosecondsPerSecond

instance (instant : Instant) : Decidable instant.IsPlain :=
  inferInstanceAs (Decidable (_ < _))

theorem IsPlain.shift_lt_shift {left right : Instant} (leftIsPlain : left.IsPlain)
    (rightIsPlain : right.IsPlain) (less : left.lt right = true) (seconds : Int) :
    (left.shift seconds).lt (right.shift seconds) = true := by
  rw [shift, shift, if_pos (.inl leftIsPlain), if_pos (.inl rightIsPlain)]
  rw [lt_iff] at less ⊢
  dsimp only
  omega

/-! ## Unsigned numbers of seconds -/

theorem plusSeconds_of_lt (instant : Instant) {seconds : Nat} (unsigned : seconds < Text.signedLimit) :
    instant.plusSeconds seconds = instant.shift seconds := by
  rw [plusSeconds, signedWord, if_pos unsigned]

theorem plusSeconds_of_le (instant : Instant) {seconds : Nat} (signed : Text.signedLimit ≤ seconds) :
    instant.plusSeconds seconds = instant.shift (seconds - 2 * Text.signedLimit) := by
  rw [plusSeconds, signedWord, if_neg (Nat.not_lt.mpr signed)]

end Instant

end Ussd
