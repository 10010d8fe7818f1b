import Ussd.Proofs.Instants
import Ussd.Session.Basic
import Ussd.Settings.Sections

/-! # When sessions expire

A session expires a number of seconds after it has begun or been touched. The number is an unsigned
word that is added as a signed one, so that the numbers with the highest bit lead into the past.
Other activities are recorded too, but the session expires no later for them. -/

namespace Ussd

/-! ## Timeouts -/

namespace Instant

/-- The calendar has an instant an unsigned number of seconds after this one. -/
def Admits (now : Instant) (seconds : Nat) : Prop :=
  if seconds < Text.signedLimit then now.seconds + seconds < endSecond
  else leastSecond ≤ (now.plusSeconds seconds).seconds

variable {now : Instant} (isPresent : now.isInCalendar = true) {seconds : Int}

include isPresent

theorem isInCalendar_shift_of_nonneg (forwards : 0 ≤ seconds) :
    (now.shift seconds).isInCalendar = true ↔ now.seconds + seconds < endSecond := by
  simp only [isInCalendar, Bool.and_eq_true, decide_eq_true_eq, shift] at isPresent ⊢
  grind

theorem isInCalendar_shift_of_neg (backwards : seconds < 0) :
    (now.shift seconds).isInCalendar = true ↔ leastSecond ≤ (now.shift seconds).seconds := by
  simp only [isInCalendar, Bool.and_eq_true, decide_eq_true_eq, shift] at isPresent ⊢
  grind

theorem isInCalendar_plusSeconds {seconds : Nat} (isWord : seconds ≤ Text.greatestWord) :
    (now.plusSeconds seconds).isInCalendar = true ↔ now.Admits seconds := by
  rw [Admits]
  split
  · rename_i unsigned
    rw [now.plusSeconds_of_lt unsigned]
    exact isInCalendar_shift_of_nonneg isPresent (Int.natCast_nonneg _)
  · rename_i signed
    have backwards : (seconds : Int) - 2 * Text.signedLimit < 0 := by
      rw [Text.greatestWord] at isWord
      rw [Text.signedLimit]
      omega
    rw [now.plusSeconds_of_le (Nat.not_lt.mp signed)]
    exact isInCalendar_shift_of_neg isPresent backwards

end Instant

namespace Session

variable {timeout : Nat} {now : Instant} {session : Session}

/-- The session has just begun or been touched. -/
inductive Prolonged (timeout : Nat) (now : Instant) : Session → Prop
  | begun (id phoneNumber serviceCode stateId : String) :
      Prolonged timeout now (.begin id phoneNumber serviceCode stateId timeout now)
  | touched (session : Session) : Prolonged timeout now (session.touch timeout now)

theorem Prolonged.expiresAt_eq (prolonged : session.Prolonged timeout now) :
    session.expiresAt = now.plusSeconds timeout := by
  cases prolonged <;> rfl

theorem isLive_of_lt (before : now.lt session.expiresAt = true) :
    session.isLive now = session.isActive := by
  rw [isLive, before, Bool.and_true]

theorem not_isLive_of_lt (expired : session.expiresAt.lt now = true) :
    session.isLive now = false := by
  rw [isLive, Instant.not_lt_of_lt expired, Bool.and_false]

end Session

/-- Below the highest bit of a word, a session that begins or is touched expires a second later or
more, the later the larger its timeout; from the highest bit on it has expired before, and earlier
than with any timeout below. The calendar may end before the session does. -/
theorem expiry_is_ahead_below_the_highest_bit {now : Instant} (isPresent : now.isInCalendar = true)
    {timeout : Nat} (positive : 0 < timeout) (isWord : timeout ≤ Text.greatestWord)
    {session : Session} (prolonged : session.Prolonged timeout now) :
    (timeout < Text.signedLimit →
      session.expiresAt = now.shift timeout ∧
      (session.expiresAt.isInCalendar = true ↔ now.seconds + timeout < Instant.endSecond) ∧
      session.expiresAt.lt (now.plusSeconds (min timeout 1)) = false ∧
      session.isLive now = session.isActive ∧
      ∀ shorter ≤ timeout, session.expiresAt.lt (now.plusSeconds shorter) = false) ∧
    (Text.signedLimit ≤ timeout →
      session.expiresAt = now.shift (timeout - 2 * Text.signedLimit) ∧
      (session.expiresAt.isInCalendar = true ↔
        Instant.leastSecond ≤ session.expiresAt.seconds) ∧
      session.expiresAt.lt now = true ∧
      session.isLive now = false ∧
      (∀ shorter ≤ timeout, Text.signedLimit ≤ shorter →
        session.expiresAt.lt (now.plusSeconds shorter) = false) ∧
      ∀ shorter < Text.signedLimit, session.expiresAt.lt (now.plusSeconds shorter) = true) := by
  constructor
  · intro unsigned
    have expires : session.expiresAt = now.shift timeout := by
      rw [prolonged.expiresAt_eq, now.plusSeconds_of_lt unsigned]
    have later (shorter : Nat) (isShorter : shorter ≤ timeout) :
        session.expiresAt.lt (now.plusSeconds shorter) = false := by
      rw [expires, now.plusSeconds_of_lt (Nat.lt_of_le_of_lt isShorter unsigned)]
      exact now.not_shift_lt_shift (Int.ofNat_le.mpr isShorter)
    have ahead : now.lt session.expiresAt = true := by
      rw [expires]
      exact now.lt_shift (Int.natCast_pos.mpr positive)
    refine ⟨expires, ?_, later _ (Nat.min_le_left _ _), Session.isLive_of_lt ahead, later⟩
    rw [expires]
    exact Instant.isInCalendar_shift_of_nonneg isPresent (Int.natCast_nonneg _)
  · intro signed
    have expires : session.expiresAt = now.shift (timeout - 2 * Text.signedLimit) := by
      rw [prolonged.expiresAt_eq, now.plusSeconds_of_le signed]
    have backwards : (timeout : Int) - 2 * Text.signedLimit < 0 := by
      rw [Text.greatestWord] at isWord
      rw [Text.signedLimit]
      omega
    have expired : session.expiresAt.lt now = true := by
      rw [expires]
      exact now.shift_lt backwards
    refine ⟨expires, ?calendar, expired, Session.not_isLive_of_lt expired, ?ordered, ?unsigned⟩
    case calendar =>
      rw [expires]
      exact Instant.isInCalendar_shift_of_neg isPresent backwards
    case ordered =>
      intro shorter isShorter shorterIsSigned
      rw [expires, now.plusSeconds_of_le shorterIsSigned]
      exact now.not_shift_lt_shift (Int.sub_le_sub_right (Int.ofNat_le.mpr isShorter) _)
    case unsigned =>
      intro shorter unsigned
      have notEarlier := now.not_shift_lt_shift (Int.natCast_nonneg shorter)
      rw [now.shift_zero, ← now.plusSeconds_of_lt unsigned] at notEarlier
      exact Instant.lt_of_lt_of_not_lt expired notEarlier

namespace Sample

def newYear : Instant := { seconds := 1704067200, nanoseconds := 0 }

def begun (timeout : Nat) : Session := .begin "call" "237" "bank" "menu" timeout newYear

end Sample

theorem usual_session_is_live_and_endless_one_is_not :
    (Sample.begun 300).expiresAt.isInCalendar = true ∧
    (Sample.begun 300).isLive Sample.newYear = true ∧
    (Sample.begun Text.greatestWord).isLive Sample.newYear = false := by
  have isPresent : Sample.newYear.isInCalendar = true := by decide
  have usual := (expiry_is_ahead_below_the_highest_bit isPresent (by decide) (by decide)
    (.begun "call" "237" "bank" "menu" : (Sample.begun 300).Prolonged 300 Sample.newYear)).1
    (by decide)
  have endless := (expiry_is_ahead_below_the_highest_bit isPresent (by decide) (by decide)
    (.begun "call" "237" "bank" "menu" :
      (Sample.begun Text.greatestWord).Prolonged Text.greatestWord Sample.newYear)).2 (by decide)
  exact ⟨usual.2.1.mpr (by decide), usual.2.2.2.1, endless.2.2.2.1⟩

theorem accepted_timeout_may_end_sessions_at_once :
    ¬∀ settings : SessionSettings, settings.validate = .ok () →
      settings.timeout ≤ Text.greatestWord →
      (Sample.begun settings.timeout).isLive Sample.newYear = true := by
  intro always
  have endless := always { SessionSettings.standard with timeout := Text.greatestWord } rfl
    (Nat.le_refl _)
  exact absurd endless (by decide)

/-! ## Activities -/

/-- What is recorded on a session. -/
inductive Activity where
  | begun (id phoneNumber serviceCode stateId : String)
  | touched
  | moved (stateId : String)
  | merged (entries : List (String × Json))

namespace Activity

/-- Whether the session expires later for it. -/
def prolongs : Activity → Bool
  | .begun .. => true
  | .touched => true
  | .moved _ => false
  | .merged _ => false

def record (timeout : Nat) (session : Session) (now : Instant) : Activity → Session
  | .begun id phoneNumber serviceCode stateId =>
    .begin id phoneNumber serviceCode stateId timeout now
  | .touched => session.touch timeout now
  | .moved stateId => session.moveTo stateId now
  | .merged entries => session.merge entries now

end Activity

/-- Activities in the order in which they have been recorded, each with its instant. -/
abbrev History := List (Activity × Instant)

namespace History

/-- Time does not go backwards from the start on. -/
def InOrder (start : Instant) (history : History) : Prop :=
  (start :: history.map Prod.snd).Pairwise fun earlier later => later.lt earlier = false

instance (start : Instant) (history : History) : Decidable (history.InOrder start) :=
  inferInstanceAs (Decidable (List.Pairwise _ _))

def record (timeout : Nat) (session : Session) (history : History) : Session :=
  history.foldl (fun session entry => entry.1.record timeout session entry.2) session

def latest (start : Instant) (history : History) : Instant :=
  history.foldl (fun _ entry => entry.2) start

/-- The instant of the last activity that has prolonged the session. -/
def lastProlonged (start : Instant) (history : History) : Instant :=
  history.foldl (fun known entry => if entry.1.prolongs then entry.2 else known) start

end History

/-- An active session of the timeout, as it is after its latest activity and the last one that has
prolonged it. -/
structure Recorded (timeout : Nat) (prolonged latest : Instant) (session : Session) : Prop where
  isActive : session.isActive = true
  expires : session.expiresAt = prolonged.plusSeconds timeout
  lastActivity : session.lastActivity = latest
  inOrder : latest.lt prolonged = false

namespace Recorded

variable {timeout : Nat} {prolonged latest now : Instant} {session : Session}

theorem begun (id phoneNumber serviceCode stateId : String) (timeout : Nat) (now : Instant) :
    Recorded timeout now now (.begin id phoneNumber serviceCode stateId timeout now) where
  isActive := rfl
  expires := rfl
  lastActivity := rfl
  inOrder := now.lt_irrefl

theorem record (recorded : Recorded timeout prolonged latest session)
    (notEarlier : now.lt latest = false) (activity : Activity) :
    Recorded timeout (if activity.prolongs then now else prolonged) now
      (activity.record timeout session now) := by
  have inOrder := Instant.not_lt_trans notEarlier recorded.inOrder
  cases activity with
  | begun id phoneNumber serviceCode stateId =>
      exact .begun id phoneNumber serviceCode stateId timeout now
  | touched => exact ⟨recorded.isActive, rfl, rfl, now.lt_irrefl⟩
  | moved stateId => exact ⟨recorded.isActive, recorded.expires, rfl, inOrder⟩
  | merged entries => exact ⟨recorded.isActive, recorded.expires, rfl, inOrder⟩

theorem recordAll {history : History} (recorded : Recorded timeout prolonged latest session)
    (inOrder : history.InOrder latest) :
    Recorded timeout (history.lastProlonged prolonged) (history.latest latest)
      (history.record timeout session) := by
  induction history generalizing prolonged latest session with
  | nil => exact recorded
  | cons entry rest induction =>
      rcases List.pairwise_cons.mp inOrder with ⟨notEarlier, inOrder⟩
      exact induction (recorded.record (notEarlier entry.2 List.mem_cons_self) entry.1) inOrder

theorem isLive_eq (recorded : Recorded timeout prolonged latest session) (now : Instant) :
    session.isLive now = now.lt (prolonged.plusSeconds timeout) := by
  rw [Session.isLive, recorded.isActive, recorded.expires, Bool.true_and]

end Recorded

/-- A session is live until its timeout has passed since it last began or was touched. That is its
timeout after the last activity if nothing has been recorded since; otherwise it expires earlier. -/
theorem inactivity_counts_from_last_prolongation {start : Instant} {history : History}
    (inOrder : history.InOrder start) (timeout : Nat)
    (id phoneNumber serviceCode stateId : String) :
    let prolonged := history.lastProlonged start
    let session :=
      history.record timeout (.begin id phoneNumber serviceCode stateId timeout start)
    session.lastActivity = history.latest start ∧
    session.lastActivity.lt prolonged = false ∧
    session.expiresAt = prolonged.plusSeconds timeout ∧
    (∀ now, session.isLive now = now.lt (prolonged.plusSeconds timeout)) ∧
    (session.lastActivity = prolonged →
      ∀ now, session.isLive now = now.lt (session.lastActivity.plusSeconds timeout)) ∧
    (session.lastActivity ≠ prolonged → prolonged.IsPlain → session.lastActivity.IsPlain →
      session.expiresAt.lt (session.lastActivity.plusSeconds timeout) = true ∧
      session.isLive session.expiresAt = false) := by
  intro prolonged session
  have recorded : Recorded timeout prolonged (history.latest start) session :=
    (Recorded.begun id phoneNumber serviceCode stateId timeout start).recordAll inOrder
  have inOrder : session.lastActivity.lt prolonged = false := by
    rw [recorded.lastActivity]
    exact recorded.inOrder
  refine ⟨recorded.lastActivity, inOrder, recorded.expires, recorded.isLive_eq, ?kept, ?missed⟩
  case kept =>
    intro same now
    rw [same]
    exact recorded.isLive_eq now
  case missed =>
    intro different isPlain latestIsPlain
    have before := Instant.lt_of_not_lt_of_ne inOrder different
    constructor
    · rw [recorded.expires]
      exact isPlain.shift_lt_shift latestIsPlain before _
    · rw [recorded.isLive_eq, recorded.expires]
      exact Instant.lt_irrefl _

namespace Sample

def after (seconds : Nat) : Instant := newYear.plusSeconds seconds

/-- A turn that calls a backend for half a minute. -/
def slowTurn : History :=
  [(.touched, after 60), (.merged [("balance", .natural 1)], after 90), (.moved "b", after 90)]

end Sample

theorem slow_turn_shortens_window :
    Sample.slowTurn.InOrder Sample.newYear ∧
    (Sample.slowTurn.record 60 (Sample.begun 60)).isLive (Sample.after 120) = false ∧
    (Sample.slowTurn.record 60 (Sample.begun 60)).expiresAt.lt
      ((Sample.slowTurn.record 60 (Sample.begun 60)).lastActivity.plusSeconds 60) = true := by
  have inOrder : Sample.slowTurn.InOrder Sample.newYear := by decide
  rcases inactivity_counts_from_last_prolongation inOrder 60 "call" "237" "bank" "menu" with
    ⟨-, -, -, isLive, -, missed⟩
  have shortened := missed (by decide) (by decide) (by decide)
  exact ⟨inOrder, isLive (Sample.after 120), shortened.1⟩

theorem session_may_expire_within_inactivity_window :
    ¬∀ (history : History), history.InOrder Sample.newYear →
      (history.record 60 (Sample.begun 60)).expiresAt.lt
        ((history.record 60 (Sample.begun 60)).lastActivity.plusSeconds 60) = false := by
  intro always
  have kept := always Sample.slowTurn (by decide)
  exact absurd kept (by decide)

end Ussd
