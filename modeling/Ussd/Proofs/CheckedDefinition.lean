import Ussd.Proofs.TurnFailure
import Ussd.Proofs.TurnOutcome

/-! # Definitions that pass the check

The check of a definition looks at its states one by one and never runs them. What it says about
targets and input states is nevertheless enough for every turn: a turn only goes to targets of the
state it is at, and a session that turns have led somewhere is at a state of the definition. -/

namespace Ussd

/-- The issues that a turn may stumble over. -/
def DefinitionIssue.breaksTurns : DefinitionIssue → Bool
  | .noStates => true
  | .unknownTarget .. => true
  | .missingValidTransition _ => true
  | _ => false

/-- The failures that such an issue announces. -/
def TurnError.isForeseen : TurnError → Bool
  | .emptyDefinition _ => true
  | .unknownState _ => true
  | .missingTransition _ .valid => true
  | _ => false

/-- The check for screens of the given size finds nothing that a turn may stumble over. -/
def Definition.Passes (definition : Definition) (mostCharacters : Nat) : Prop :=
  ∀ issue ∈ definition.issues mostCharacters, issue.breaksTurns = false

theorem Definition.issues_of_ne_nil {definition : Definition} (nonempty : definition.states ≠ [])
    (mostCharacters : Nat) :
    definition.issues mostCharacters =
      definition.initialIssues ++ duplicateIssues [] definition.states ++
        definition.states.flatMap (stateIssues (definition.states.map State.id) mostCharacters) ++
        definition.graphIssues := by
  unfold issues
  rw [if_neg (by simpa using nonempty)]

namespace Definition.Passes

variable {definition : Definition} {mostCharacters : Nat}
  (passes : definition.Passes mostCharacters)

include passes

theorem states_ne_nil : definition.states.isEmpty = false := by
  cases empty : definition.states.isEmpty with
  | false => rfl
  | true =>
      have reported : .noStates ∈ definition.issues mostCharacters := by simp [issues, empty]
      exact passes .noStates reported

theorem initialState? : ∃ initial, definition.initialState? = some initial := by
  apply exists_initialState?
  rw [ne_eq, ← List.isEmpty_iff, passes.states_ne_nil]
  exact Bool.false_ne_true

theorem of_stateIssues {state : State} (isKnown : state ∈ definition.states)
    {issue : DefinitionIssue}
    (reported : issue ∈ stateIssues (definition.states.map State.id) mostCharacters state) :
    issue.breaksTurns = false := by
  refine passes issue ?_
  have ofState : issue ∈ definition.states.flatMap
      (stateIssues (definition.states.map State.id) mostCharacters) :=
    List.mem_flatMap.mpr ⟨state, isKnown, reported⟩
  rw [issues_of_ne_nil (List.ne_nil_of_mem isKnown)]
  exact List.mem_append_left _ (List.mem_append_right _ ofState)

theorem resolves {state : State} (isKnown : state ∈ definition.states) {target : String}
    (isTarget : target ∈ state.targets) : definition.state? target ≠ none := by
  intro unknown
  have notId : (definition.states.map State.id).contains target = false := by
    simpa [state?, List.contains_iff_exists_mem_beq] using unknown
  have reported : .unknownTarget state.id target ∈
      stateIssues (definition.states.map State.id) mostCharacters state := by
    refine List.mem_append_left _ (List.mem_append_left _ (List.mem_map_of_mem ?_))
    exact List.mem_filter.mpr ⟨isTarget, by rw [notId]; rfl⟩
  cases passes.of_stateIssues isKnown reported

theorem accepts {state : State} (isKnown : state ∈ definition.states)
    (isInput : state.type = .input) : state.transitionFor? .valid ≠ none := by
  intro missing
  have reported : .missingValidTransition state.id ∈
      stateIssues (definition.states.map State.id) mostCharacters state := by
    refine List.mem_append_right _ ?_
    simp [isInput, missing]
  cases passes.of_stateIssues isKnown reported

theorem isForeseen_of_mayFail {error : TurnError} (fails : definition.MayFail error) :
    error.isForeseen = false := by
  cases fails with
  | store | looped | undecided | unanswered => rfl
  | dangling isKnown isTarget unknown => exact absurd unknown (passes.resolves isKnown isTarget)
  | unaccepted isKnown isInput missing => exact absurd missing (passes.accepts isKnown isInput)

end Definition.Passes

/-! ## Sessions on their way -/

variable {β : Type} [Backend β]

/-- The sessions that turns of the service lead to, one after the other, each with stores, a backend
and an input of its own. Between two turns a session may change as long as it stays at its state. -/
inductive Reached (β : Type) [Backend β] (definition : Definition) : Session → Prop
  | begun {initial : State} {session : Session}
      (isInitial : definition.initialState? = some initial)
      (begins : session.stateId = initial.id) : Reached β definition session
  | started {session after : Session} {setting : Setting} {gateway : Gateway β}
      (reached : Reached β definition session)
      (stored : Table.get? gateway.sessions session.id = some session)
      (left : Table.get? ((startTurn setting definition session).on gateway).2.sessions
        session.id = some after) : Reached β definition after
  | answered {session after : Session} {setting : Setting} {gateway : Gateway β} {input : String}
      (reached : Reached β definition session)
      (stored : Table.get? gateway.sessions session.id = some session)
      (left : Table.get? ((answerTurn setting definition session input).on gateway).2.sessions
        session.id = some after) : Reached β definition after
  | waited {session later : Session} (reached : Reached β definition session)
      (stays : later.stateId = session.stateId) : Reached β definition later

namespace Definition

def Holds (definition : Definition) (session : Session) : Prop :=
  ∃ state, definition.state? session.stateId = some state

/-- Only states whose ids stand for a state may be entered. -/
def moves (definition : Definition) : Permit :=
  { Permit.actions with enters state := ∃ found, definition.state? state.id = some found }

theorem moves_covers (definition : Definition) {state : State}
    (isKnown : state ∈ definition.states) : definition.moves.Covers state where
  entered := by
    refine Option.isSome_iff_exists.mp (List.find?_isSome.mpr ⟨state, isKnown, ?_⟩)
    exact beq_self_eq_true _
  started _ _ := trivial
  chosen _ _ _ _ _ _ _ := trivial
  answered _ _ _ _ _ := trivial

theorem holds_scope (definition : Definition) (id phoneNumber serviceCode : String) :
    WorkScope definition.moves (Run.Alone fun gateway : Gateway β => ∀ session,
      Table.get? gateway.sessions id = some session → definition.Holds session)
      id phoneNumber serviceCode := by
  apply WorkScope.alone
  case noted => exact fun _ holds _ _ => holds
  case started => exact fun _ holds _ _ => holds
  case entered => exact fun _ holds _ _ => holds
  case sent => exact fun _ holds _ => holds
  case recorded => exact fun _ holds _ => holds
  case merged =>
    intro gateway holds stored found entries _ now session saved
    rcases SessionStore.get?_save_cases saved with rfl | kept
    · exact holds stored found
    · exact holds session kept
  case moved =>
    intro gateway holds stored found state entered now session saved
    rcases SessionStore.get?_save_cases saved with rfl | kept
    · exact entered
    · exact holds session kept

end Definition

theorem Reached.holds {definition : Definition} {session : Session}
    (reached : Reached β definition session) : definition.Holds session := by
  induction reached with
  | @begun initial session isInitial begins =>
      have isKnown := Definition.mem_of_initialState? isInitial
      rw [Definition.Holds, begins]
      exact (definition.moves_covers isKnown).entered
  | @started session after setting gateway _ stored left holds =>
      have keeps : (startTurn setting definition session : Run β _ _).Keeps _ :=
        ((definition.holds_scope _ _ _).respects_startTurn fun _ => definition.moves_covers).keeps
      refine keeps gateway (fun other found => ?_) after left
      rwa [← Option.some.inj (stored.symm.trans found)]
  | @answered session after setting gateway input _ stored left holds =>
      have keeps : (answerTurn setting definition session input : Run β _ _).Keeps _ :=
        ((definition.holds_scope _ _ _).respects_answerTurn
          (fun _ => definition.moves_covers) input).keeps
      refine keeps gateway (fun other found => ?_) after left
      rwa [← Option.some.inj (stored.symm.trans found)]
  | waited _ stays holds => rwa [Definition.Holds, stays]

/-- A definition without issues that break turns never makes one fail for what the check looks at,
neither the first turn of a session nor a later one, however they were reached. -/
theorem checked_definition_breaks_no_turn {definition : Definition} {mostCharacters : Nat}
    (passes : definition.Passes mostCharacters) :
    (∀ (setting : Setting) (session : Session) (gateway final : Gateway β) (error : TurnError),
      (startTurn setting definition session).on gateway = (.error error, final) →
        error.isForeseen = false) ∧
    (∀ session : Session, Reached β definition session →
      ∀ (setting : Setting) (input : String) (gateway final : Gateway β) (error : TurnError),
        (answerTurn setting definition session input).on gateway = (.error error, final) →
          error.isForeseen = false) := by
  constructor
  · intro setting session gateway final error fails
    rcases passes.initialState? with ⟨initial, isInitial⟩
    exact passes.isForeseen_of_mayFail (failsOnly_startTurn isInitial gateway error final fails)
  · intro session reached setting input gateway final error fails
    rcases reached.holds with ⟨state, resolved⟩
    exact passes.isForeseen_of_mayFail
      (failsOnly_answerTurn resolved input gateway error final fails)

/-! ## Samples -/

namespace Sample

/-- A menu, a question and a processing state that leads nowhere. -/
def deadEnd : Definition :=
  definition [
    state "menu" .menu none
      [{ input := some "1", condition := none, nextState := "ask", value := none,
         message := none }],
    state "ask" .input none
      [{ input := none, condition := some (.on .valid), nextState := "work", value := none,
         message := none }],
    state "work" .processing none []]

def asked : Session := session.moveTo "ask" setting.now

def asking : Gateway ScriptedBackend := ((answerTurn setting deadEnd session "1").on gateway).2

end Sample

theorem dead_end_is_no_broken_target :
    Sample.deadEnd.Passes 160 ∧
    Reached ScriptedBackend Sample.deadEnd Sample.asked ∧
    ∃ final,
      (answerTurn Sample.setting Sample.deadEnd Sample.asked "Ana").on Sample.asking =
        (.error (.noConditionHolds "work"), final) ∧
      (TurnError.noConditionHolds "work").isForeseen = false := by
  have passes : Sample.deadEnd.Passes 160 := by unfold Definition.Passes; decide +kernel
  have stored : Table.get? Sample.gateway.sessions Sample.session.id = some Sample.session := rfl
  have asks : Table.get? ((answerTurn Sample.setting Sample.deadEnd Sample.session "1").on
      Sample.gateway).2.sessions Sample.session.id = some Sample.asked := rfl
  have reached : Reached ScriptedBackend Sample.deadEnd Sample.asked :=
    .answered (.begun rfl rfl) stored asks
  have fails : (answerTurn Sample.setting Sample.deadEnd Sample.asked "Ana").on Sample.asking =
      (.error (.noConditionHolds "work"), _) := Prod.ext rfl rfl
  exact ⟨passes, reached, _, fails,
    (checked_definition_breaks_no_turn passes).2 _ reached _ _ _ _ _ fails⟩

end Ussd
