import Ussd.Gateway.Actions

/-! # What computations do

`Run.on` gives the result of a computation and the gateway that it leaves. A computation respects a
relation between gateways when related gateways give it one result and stay related. A relation
that holds a gateway to itself (`Alone`) makes this a statement about a single run, so that
invariants, frames and comparisons of two runs share their lemmas. -/

namespace Ussd

variable {β ε ε' α γ : Type}

namespace Run

/-- The result of a computation, and the gateway afterwards. -/
def on (run : Run β ε α) (gateway : Gateway β) : Except ε α × Gateway β :=
  (ExceptT.run run).run gateway

/-! ## Results of the building blocks -/

@[simp] theorem on_pure (value : α) (gateway : Gateway β) :
    on (pure value : Run β ε α) gateway = (.ok value, gateway) := rfl

@[simp] theorem on_throw (error : ε) (gateway : Gateway β) :
    on (throw error : Run β ε α) gateway = (.error error, gateway) := rfl

@[simp] theorem on_get (gateway : Gateway β) :
    on (get : Run β ε (Gateway β)) gateway = (.ok gateway, gateway) := rfl

@[simp] theorem on_modify (change : Gateway β → Gateway β) (gateway : Gateway β) :
    on (modify change : Run β ε Unit) gateway = (.ok (), change gateway) := rfl

@[simp] theorem on_note (event : Event) (gateway : Gateway β) :
    on (note event : Run β ε Unit) gateway =
      (.ok (), { gateway with log := gateway.log ++ [event] }) := rfl

@[simp] theorem on_noteAll (events : List Event) (gateway : Gateway β) :
    on (noteAll events : Run β ε Unit) gateway =
      (.ok (), { gateway with log := gateway.log ++ events }) := rfl

theorem on_bind (run : Run β ε α) (next : α → Run β ε γ) (gateway : Gateway β) :
    on (run >>= next) gateway =
      match run.on gateway with
      | (.ok value, after) => (next value).on after
      | (.error error, after) => (.error error, after) := by
  unfold on
  simp only [ExceptT.run_bind, StateT.run_bind]
  rcases StateT.run (ExceptT.run run) gateway with ⟨_ | _, after⟩ <;> rfl

theorem on_bind_of_ok {run : Run β ε α} {next : α → Run β ε γ} {gateway after : Gateway β}
    {value : α} (first : run.on gateway = (.ok value, after)) :
    on (run >>= next) gateway = (next value).on after := by
  rw [on_bind, first]

/-- What follows a computation counts only where the computation succeeds. -/
theorem on_bind_congr {run : Run β ε α} {next other : α → Run β ε γ}
    {gateway : Gateway β}
    (same : ∀ value after, run.on gateway = (.ok value, after) →
      (next value).on after = (other value).on after) :
    on (run >>= next) gateway = on (run >>= other) gateway := by
  rw [on_bind, on_bind]
  rcases ran : run.on gateway with ⟨error | value, after⟩
  · rfl
  · exact same value after ran

/-- A sequence that succeeds is one of two successes. -/
theorem on_bind_eq_ok {run : Run β ε α} {next : α → Run β ε γ} {gateway after : Gateway β}
    {value : γ} :
    on (run >>= next) gateway = (.ok value, after) ↔
      ∃ first middle, run.on gateway = (.ok first, middle) ∧
        (next first).on middle = (.ok value, after) := by
  rw [on_bind]
  constructor
  · intro succeeds
    rcases equal : run.on gateway with ⟨_ | first, middle⟩
    · simp [equal] at succeeds
    · exact ⟨first, middle, rfl, by simpa [equal] using succeeds⟩
  · rintro ⟨first, middle, equal, succeeds⟩
    simpa [equal] using succeeds

@[simp] theorem on_inTurn (run : Run β Fault α) (gateway : Gateway β) :
    on (inTurn run) gateway = ((run.on gateway).1.mapError .store, (run.on gateway).2) :=
  rfl

theorem on_inTurn_eq_ok {run : Run β Fault α} {gateway after : Gateway β} {value : α} :
    on (inTurn run) gateway = (.ok value, after) ↔ run.on gateway = (.ok value, after) := by
  rw [on_inTurn]
  rcases run.on gateway with ⟨fault | first, middle⟩
  · exact iff_of_false (fun equal => nomatch (Prod.mk.inj equal).1) nofun
  · constructor
    · intro equal
      rcases Prod.mk.inj equal with ⟨results, rfl⟩
      rw [Except.ok.inj results]
    · intro equal
      cases equal
      rfl

@[simp] theorem on_attemptRun (run : Run β ε α) (gateway : Gateway β) :
    on (attemptRun run : Run β ε' (Except ε α)) gateway =
      (.ok (run.on gateway).1, (run.on gateway).2) := by
  rfl

/-! ## Computations that respect a relation -/

/-- Related gateways give one result and stay related. -/
def Respects (related : Gateway β → Gateway β → Prop) (run : Run β ε α) : Prop :=
  ∀ left right, related left right →
    (run.on left).1 = (run.on right).1 ∧ related (run.on left).2 (run.on right).2

/-- What holds of a gateway before the computation also holds afterwards. -/
def Keeps (property : Gateway β → Prop) (run : Run β ε α) : Prop :=
  ∀ gateway, property gateway → property (run.on gateway).2

/-- The relation of a gateway with a property to itself. -/
def Alone (property : Gateway β → Prop) (left right : Gateway β) : Prop :=
  left = right ∧ property left

variable {related : Gateway β → Gateway β → Prop}

namespace Respects

theorem keeps {property : Gateway β → Prop} {run : Run β ε α}
    (respects : run.Respects (Alone property)) : run.Keeps property := by
  intro gateway holds
  exact (respects gateway gateway ⟨rfl, holds⟩).2.2

theorem of_keeps {property : Gateway β → Prop} {run : Run β ε α} (keeps : run.Keeps property) :
    run.Respects (Alone property) := by
  rintro left _ ⟨rfl, holds⟩
  exact ⟨rfl, rfl, keeps left holds⟩

theorem pure (value : α) : (Pure.pure value : Run β ε α).Respects related :=
  fun _ _ holds => ⟨rfl, holds⟩

theorem throw (error : ε) : (MonadExcept.throw error : Run β ε α).Respects related :=
  fun _ _ holds => ⟨rfl, holds⟩

/-- A sequence whose second part has to respect the relation only for results with a property. -/
theorem bindWhere {run : Run β ε α} {next : α → Run β ε γ} {holds : α → Prop}
    (first : run.Respects related)
    (gives : ∀ left right, related left right → ∀ value final,
      run.on left = (.ok value, final) → holds value)
    (second : ∀ value, holds value → (next value).Respects related) :
    (run >>= next).Respects related := by
  intro left right relatesBefore
  rcases first left right relatesBefore with ⟨results, relates⟩
  rw [on_bind, on_bind]
  rcases onLeft : run.on left with ⟨_ | value, afterLeft⟩ <;>
    rcases onRight : run.on right with ⟨_ | other, afterRight⟩ <;>
    simp only [onLeft, onRight] at results relates ⊢
  · cases results
    exact ⟨rfl, relates⟩
  · cases results
  · cases results
  · cases results
    have given := gives left right relatesBefore value afterLeft onLeft
    exact second value given afterLeft afterRight relates

theorem bind {run : Run β ε α} {next : α → Run β ε γ} (first : run.Respects related)
    (second : ∀ value, (next value).Respects related) : (run >>= next).Respects related :=
  first.bindWhere (fun _ _ _ _ _ _ => trivial) fun value _ => second value

theorem inTurn {run : Run β Fault α} (respects : run.Respects related) :
    (Ussd.inTurn run).Respects related := by
  intro left right holds
  rcases respects left right holds with ⟨results, relates⟩
  simp only [on_inTurn]
  exact ⟨by rw [results], relates⟩

theorem attemptRun {run : Run β ε α} (respects : run.Respects related) :
    (Ussd.attemptRun run : Run β ε' (Except ε α)).Respects related := by
  intro left right holds
  rcases respects left right holds with ⟨results, relates⟩
  simp only [on_attemptRun]
  exact ⟨by rw [results], relates⟩

theorem requireOrder (setting : Setting) (operation : StoreOperation) :
    (Ussd.requireOrder setting operation : Run β Fault Unit).Respects related := by
  unfold Ussd.requireOrder
  cases setting.outage operation with
  | none => exact pure ()
  | some reason => exact throw _

end Respects

/-! ## Computations that succeed -/

/-- Where the computation succeeds from a gateway with the first property, its result and the
gateway afterwards have the second. -/
def Leads (before : Gateway β → Prop) (run : Run β ε α) (after : α → Gateway β → Prop) : Prop :=
  ∀ gateway, before gateway → ∀ value final, run.on gateway = (.ok value, final) →
    after value final

namespace Leads

variable {before : Gateway β → Prop}

theorem pure {after : α → Gateway β → Prop} (value : α)
    (holds : ∀ gateway, before gateway → after value gateway) :
    Leads before (Pure.pure value : Run β ε α) after := by
  intro gateway first _ _ succeeds
  cases succeeds
  exact holds gateway first

theorem throw {after : α → Gateway β → Prop} (error : ε) :
    Leads before (MonadExcept.throw error : Run β ε α) after := by
  intro _ _ _ _ succeeds
  cases succeeds

theorem bind {run : Run β ε α} {next : α → Run β ε γ} {between : α → Gateway β → Prop}
    {after : γ → Gateway β → Prop} (first : Leads before run between)
    (second : ∀ value, Leads (between value) (next value) after) :
    Leads before (run >>= next) after := by
  intro gateway holds value final succeeds
  rcases on_bind_eq_ok.mp succeeds with ⟨middleValue, middle, firstSucceeds, nextSucceeds⟩
  exact second middleValue middle (first gateway holds _ _ firstSucceeds) value final nextSucceeds

/-- A fact that is known before may be used. -/
theorem given {fact : Prop} {run : Run β ε α} {after : α → Gateway β → Prop}
    (leads : fact → Leads before run after) :
    Leads (fun gateway => fact ∧ before gateway) run after :=
  fun gateway ⟨known, holds⟩ => leads known gateway holds

theorem inTurn {run : Run β Fault α} {after : α → Gateway β → Prop}
    (leads : Leads before run after) : Leads before (Ussd.inTurn run) after :=
  fun gateway holds value final succeeds =>
    leads gateway holds value final (on_inTurn_eq_ok.mp succeeds)

theorem of_keeps {property : Gateway β → Prop} {run : Run β ε α} (keeps : run.Keeps property) :
    Leads property run fun _ => property := by
  intro gateway holds _ _ succeeds
  have kept := keeps gateway holds
  rwa [succeeds] at kept

end Leads

/-! ## Computations that fail -/

/-- Where the computation fails, the error is one of those expected. -/
def FailsOnly (expected : ε → Prop) (run : Run β ε α) : Prop :=
  ∀ gateway error final, run.on gateway = (.error error, final) → expected error

namespace FailsOnly

variable {expected : ε → Prop}

theorem pure (value : α) : (Pure.pure value : Run β ε α).FailsOnly expected := by
  intro _ _ _ fails
  cases fails

theorem throw {error : ε} (isExpected : expected error) :
    (MonadExcept.throw error : Run β ε α).FailsOnly expected := by
  intro _ _ _ fails
  cases fails
  exact isExpected

theorem get : (MonadState.get : Run β ε (Gateway β)).FailsOnly expected := by
  intro _ _ _ fails
  cases fails

theorem modify (change : Gateway β → Gateway β) :
    (modifyGet fun gateway => ((), change gateway) : Run β ε Unit).FailsOnly expected := by
  intro _ _ _ fails
  cases fails

theorem noteAll (events : List Event) : (Ussd.noteAll events : Run β ε Unit).FailsOnly expected :=
  modify _

theorem note (event : Event) : (Ussd.note event : Run β ε Unit).FailsOnly expected :=
  noteAll [event]

theorem attemptRun (run : Run β ε' α) :
    (Ussd.attemptRun run : Run β ε (Except ε' α)).FailsOnly expected := by
  intro _ _ _ fails
  cases fails

/-- A sequence whose second part has to fail as expected only for results with a property. -/
theorem bindWhere {run : Run β ε α} {next : α → Run β ε γ} {holds : α → Prop}
    (first : run.FailsOnly expected)
    (gives : ∀ gateway value final, run.on gateway = (.ok value, final) → holds value)
    (second : ∀ value, holds value → (next value).FailsOnly expected) :
    (run >>= next).FailsOnly expected := by
  intro gateway error final fails
  rw [on_bind] at fails
  rcases ran : run.on gateway with ⟨failed | value, middle⟩
  · rw [ran] at fails
    cases fails
    exact first _ _ _ ran
  · rw [ran] at fails
    exact second value (gives _ _ _ ran) middle error final fails

theorem bind {run : Run β ε α} {next : α → Run β ε γ} (first : run.FailsOnly expected)
    (second : ∀ value, (next value).FailsOnly expected) : (run >>= next).FailsOnly expected :=
  first.bindWhere (fun _ _ _ _ => trivial) fun value _ => second value

theorem inTurn {expected : TurnError → Prop} (stores : ∀ fault, expected (.store fault))
    (run : Run β Fault α) : (Ussd.inTurn run).FailsOnly expected := by
  intro gateway error final fails
  rw [on_inTurn] at fails
  rcases ran : (run.on gateway).1 with fault | value
  · rw [ran] at fails
    cases fails
    exact stores fault
  · rw [ran] at fails
    cases fails

end FailsOnly

/-! ## Computations that end either way -/

/-- From a gateway with the first property, a success leads to the second one and a failure to the
third. -/
def Ends (before : Gateway β → Prop) (run : Run β ε α) (after : α → Gateway β → Prop)
    (failed : ε → Gateway β → Prop) : Prop :=
  ∀ gateway, before gateway → match run.on gateway with
    | (.ok value, final) => after value final
    | (.error error, final) => failed error final

namespace Ends

variable {before : Gateway β → Prop} {after : α → Gateway β → Prop} {failed : ε → Gateway β → Prop}

theorem pure (value : α) (holds : ∀ gateway, before gateway → after value gateway) :
    Ends before (Pure.pure value : Run β ε α) after failed := holds

theorem throw (error : ε) (holds : ∀ gateway, before gateway → failed error gateway) :
    Ends before (MonadExcept.throw error : Run β ε α) after failed := holds

theorem note (event : Event) {next : Gateway β → Prop}
    (holds : ∀ gateway, before gateway → next { gateway with log := gateway.log ++ [event] }) :
    Ends before (Ussd.note event : Run β ε Unit) (fun _ => next) failed := holds

theorem bind {run : Run β ε α} {next : α → Run β ε γ} {between : α → Gateway β → Prop}
    {after : γ → Gateway β → Prop} (first : Ends before run between failed)
    (second : ∀ value, Ends (between value) (next value) after failed) :
    Ends before (run >>= next) after failed := by
  intro gateway holds
  have ended := first gateway holds
  rw [on_bind]
  rcases ran : run.on gateway with ⟨error | value, middle⟩ <;> rw [ran] at ended
  · exact ended
  · exact second value middle ended

theorem of_ok {run : Run β ε α} (ends : Ends before run after failed) {gateway final : Gateway β}
    (holds : before gateway) {value : α} (succeeds : run.on gateway = (.ok value, final)) :
    after value final := by
  have ended := ends gateway holds
  rwa [succeeds] at ended

theorem mono {run : Run β ε α} {later : α → Gateway β → Prop} {lost : ε → Gateway β → Prop}
    (ends : Ends before run after failed)
    (succeeded : ∀ value gateway, after value gateway → later value gateway)
    (broken : ∀ error gateway, failed error gateway → lost error gateway) :
    Ends before run later lost := by
  intro gateway holds
  have ended := ends gateway holds
  rcases ran : run.on gateway with ⟨error | value, final⟩ <;> rw [ran] at ended
  · exact broken error final ended
  · exact succeeded value final ended

/-- A fact that is known before may be used. -/
theorem given {fact : Prop} {run : Run β ε α} (ends : fact → Ends before run after failed) :
    Ends (fun gateway => fact ∧ before gateway) run after failed :=
  fun gateway ⟨known, holds⟩ => ends known gateway holds

/-- More may be known before than is used. -/
theorem left {other : Gateway β → Prop} {run : Run β ε α} (ends : Ends before run after failed) :
    Ends (fun gateway => before gateway ∧ other gateway) run after failed :=
  fun gateway holds => ends gateway holds.1

theorem of_keeps {property : Gateway β → Prop} {expected : ε → Prop} {run : Run β ε α}
    (keeps : run.Keeps property) (fails : run.FailsOnly expected) :
    Ends property run (fun _ => property) fun error gateway =>
      expected error ∧ property gateway := by
  intro gateway holds
  have kept := keeps gateway holds
  rcases ran : run.on gateway with ⟨error | value, final⟩ <;> rw [ran] at kept
  · exact ⟨fails gateway error final ran, kept⟩
  · exact kept

theorem keeps_iff {property : Gateway β → Prop} {run : Run β ε α} :
    run.Keeps property ↔ Ends property run (fun _ => property) fun _ => property := by
  refine forall₂_congr fun gateway _ => ?_
  rcases run.on gateway with ⟨error | value, final⟩ <;> rfl

theorem inTurn {run : Run β Fault α} {lost : Gateway β → Prop}
    (ends : Ends before run after fun _ => lost) :
    Ends before (Ussd.inTurn run) after fun _ => lost := by
  intro gateway holds
  have ended := ends gateway holds
  rw [on_inTurn]
  rcases ran : run.on gateway with ⟨fault | value, final⟩ <;> rw [ran] at ended <;> exact ended

/-- Both ways to end become results. -/
theorem attemptRun {run : Run β ε α} {never : ε' → Gateway β → Prop}
    (ends : Ends before run after failed) :
    Ends before (Ussd.attemptRun run : Run β ε' (Except ε α))
      (fun result gateway => match result with
        | .ok value => after value gateway
        | .error error => failed error gateway) never := by
  intro gateway holds
  have ended := ends gateway holds
  rw [on_attemptRun]
  rcases ran : run.on gateway with ⟨error | value, final⟩ <;> rw [ran] at ended <;> exact ended

theorem requireOrder (setting : Setting) (operation : StoreOperation) {lost : Gateway β → Prop}
    (loses : ∀ gateway, before gateway → lost gateway) :
    Ends before (Ussd.requireOrder setting operation : Run β Fault Unit) (fun _ => before)
      fun _ => lost := by
  unfold Ussd.requireOrder
  cases setting.outage operation with
  | none => exact pure () fun _ holds => holds
  | some reason => exact throw _ loses

end Ends

end Run

/-! ## Operations that are in order -/

/-- Only work on records may be out of order. -/
def Setting.InOrder (setting : Setting) : Prop :=
  ∀ operation : StoreOperation, operation.faultCode ≠ .storageError →
    setting.outage operation = none

variable {setting : Setting}

theorem on_requireOrder_of_none {operation : StoreOperation}
    (inOrder : setting.outage operation = none) (gateway : Gateway β) :
    (requireOrder setting operation : Run β Fault Unit).on gateway = (.ok (), gateway) := by
  simp [requireOrder, inOrder]

theorem on_requireOrder_of_some {operation : StoreOperation} {reason : String}
    (outage : setting.outage operation = some reason) (gateway : Gateway β) :
    (requireOrder setting operation : Run β Fault Unit).on gateway =
      (.error (.of operation.faultCode reason), gateway) := by
  simp [requireOrder, outage]

theorem of_requireOrder_eq_ok {operation : StoreOperation} {gateway after : Gateway β} {done : Unit}
    (passes : (requireOrder setting operation).on gateway = (.ok done, after)) :
    after = gateway := by
  cases outage : setting.outage operation with
  | some reason =>
      rw [on_requireOrder_of_some outage] at passes
      cases passes
  | none =>
      rw [on_requireOrder_of_none outage] at passes
      cases passes
      rfl

end Ussd
