import Ussd.Proofs.ActionOrder

/-! # The limit of a chain

A turn may pass a number of processing states and no more, counted with repetition and with the one
that it starts at. The functions that pass them call each other and begin to count differently; that
they agree on the limit is what the induction over the course of a turn has shown. -/

namespace Ussd

variable {β : Type} [Backend β]

/-- The processing states that a turn enters, its first state among them, are as many as the limit
allows, or there is one more. In that case the turn fails for it: the session has been moved there,
and that is the last thing to have happened. -/
structure ChainOf (setting : Setting) (definition : Definition) (session : Session)
    (first : State) (visits : List State) (last : State) (gateway : Gateway β)
    (ended : Except TurnError Screen × Gateway β) : Prop where
  route : Route definition first visits last
  entered : enteredIds ended.2.trail = enteredIds gateway.trail ++ visits.map State.id
  bounded : processed (first :: visits) ≤ setting.engine.maxProcessingChain + 1
  loops : (∃ stateId limit, ended.1 = .error (.processingLoop stateId limit)) ↔
    processed (first :: visits) = setting.engine.maxProcessingChain + 1
  refused : processed (first :: visits) = setting.engine.maxProcessingChain + 1 →
    ended.1 = .error (.processingLoop last.id setting.engine.maxProcessingChain) ∧
      last.type = .processing ∧
      (Table.get? ended.2.sessions session.id).map Session.stateId = some last.id ∧
      ended.2.log.getLast? = some (.stateEntered session.id last.id)

theorem processed_cons (state : State) (states : List State) :
    processed (state :: states) = processed [state] + processed states := by
  rw [← List.singleton_append]
  exact List.countP_append

omit [Backend β] in
theorem Part.chain {setting : Setting} {definition : Definition} {session : Session} {first : State}
    {gateway : Gateway β} {around : List Mark → List Mark} {run : Run β TurnError Screen}
    (allows : 0 < setting.engine.maxProcessingChain) (keyed : SessionStore.Keyed gateway.sessions)
    (part : Part gateway.sessions setting ⟨definition, session⟩ (setting.roomAfter first) first
      gateway.trail around run) :
    ∃ visits last,
      ChainOf setting definition session first visits last gateway (run.on gateway) := by
  have one : processed [first] ≤ 1 := List.countP_le_length
  have ended := part gateway (.refl gateway)
  unfold Setting.roomAfter at ended
  rcases ran : run.on gateway with ⟨error | screen, final⟩ <;> rw [ran] at ended
  · rcases ended with ⟨visits, last, route, entered, ⟨noLoop, short⟩ | ⟨refused, full⟩⟩
    · have within : processed (first :: visits) ≤ setting.engine.maxProcessingChain := by
        rw [processed_cons]
        omega
      refine ⟨visits, last, route, entered, by omega, ⟨?_, by omega⟩, by omega⟩
      rintro ⟨stateId, limit, isLoop⟩
      cases isLoop
      cases noLoop
    · have exceeds : processed (first :: visits) = setting.engine.maxProcessingChain + 1 := by
        rw [processed_cons]
        omega
      rcases refused with ⟨rfl, processing, noted, stored⟩
      refine ⟨visits, last, route, entered, by omega, ⟨fun _ => exceeds, fun _ => ⟨_, _, rfl⟩⟩, ?_⟩
      exact fun _ => ⟨rfl, processing, stored keyed, noted⟩
  · rcases ended with ⟨visits, last, route, entered, short, shown, -⟩
    have within : processed (first :: visits) ≤ setting.engine.maxProcessingChain := by
      rw [processed_cons]
      omega
    refine ⟨visits, last, route, entered, by omega, ⟨?_, by omega⟩, by omega⟩
    rintro ⟨stateId, limit, isLoop⟩
    cases isLoop

/-- Whatever the definition, the input and the backend do, a turn comes to an end, and with a limit
of one or more it passes no more processing states than that. It fails for the limit exactly where
it would pass one more. -/
theorem turn_keeps_chain_limit {setting : Setting} (allows : 0 < setting.engine.maxProcessingChain)
    (definition : Definition) (session : Session) {gateway : Gateway β}
    (keyed : SessionStore.Keyed gateway.sessions) :
    (∀ input,
      (∃ first visits last, definition.state? session.stateId = some first ∧
        ChainOf setting definition session first visits last gateway
          ((answerTurn setting definition session input).on gateway)) ∨
      (definition.state? session.stateId = none ∧
        (answerTurn setting definition session input).on gateway =
          (.error (.unknownState session.stateId), gateway))) ∧
    ((∃ initial visits last, definition.initialState? = some initial ∧
        ChainOf setting definition session initial visits last gateway
          ((startTurn setting definition session).on gateway)) ∨
      (definition.initialState? = none ∧
        (startTurn setting definition session).on gateway =
          (.error (.emptyDefinition definition.serviceCode), gateway))) := by
  constructor
  · intro input
    cases resolved : definition.state? session.stateId with
    | none => exact .inr ⟨rfl, on_answerTurn_of_none resolved input gateway⟩
    | some first =>
        rcases (part_answerTurn resolved input).chain allows keyed with ⟨visits, last, chain⟩
        exact .inl ⟨first, visits, last, rfl, chain⟩
  · cases isInitial : definition.initialState? with
    | none => exact .inr ⟨rfl, on_startTurn_of_none isInitial gateway⟩
    | some initial =>
        rcases (part_startTurn isInitial fun _ => allows).chain allows keyed with
          ⟨visits, last, chain⟩
        exact .inl ⟨initial, visits, last, rfl, chain⟩

namespace Sample

/-- Two processing states that lead to each other. -/
def circle : Definition :=
  definition [
    state "menu" .menu none
      [{ input := some "1", condition := none, nextState := "there", value := none,
         message := none }],
    state "there" .processing (some (drop "there")) [onSuccess "back"],
    state "back" .processing (some (drop "back")) [onSuccess "there"]]

def narrow : Setting := { setting with engine := { setting.engine with maxProcessingChain := 3 } }

def failure? : Except TurnError Screen → Option TurnError
  | .error error => some error
  | .ok _ => none

end Sample

theorem circle_is_left_at_limit :
    0 < Sample.narrow.engine.maxProcessingChain ∧ SessionStore.Keyed Sample.gateway.sessions ∧
    ∃ first visits last, Sample.circle.state? Sample.session.stateId = some first ∧
      ChainOf Sample.narrow Sample.circle Sample.session first visits last Sample.gateway
        ((answerTurn Sample.narrow Sample.circle Sample.session "1").on Sample.gateway) ∧
      processed (first :: visits) = 4 ∧ last.id = "back" := by
  have allows : 0 < Sample.narrow.engine.maxProcessingChain := by decide
  have empty : SessionStore.Keyed [] := fun _ _ stored => nomatch stored
  have keyed : SessionStore.Keyed Sample.gateway.sessions := empty.save Sample.session
  have fails : Sample.failure? ((answerTurn Sample.narrow Sample.circle Sample.session "1").on
      Sample.gateway).1 = some (.processingLoop "back" 3) := by decide +kernel
  have looped : ((answerTurn Sample.narrow Sample.circle Sample.session "1").on
      Sample.gateway).1 = .error (.processingLoop "back" 3) := by
    rcases ran : ((answerTurn Sample.narrow Sample.circle Sample.session "1").on
      Sample.gateway).1 with error | screen
    · rw [ran] at fails
      rw [Option.some.inj fails]
    · rw [ran] at fails
      cases fails
  rcases (turn_keeps_chain_limit allows Sample.circle Sample.session keyed).1 "1" with
    ⟨first, visits, last, isFirst, chain⟩ | ⟨unresolved, -⟩
  · have full := chain.loops.mp ⟨_, _, looped⟩
    have isLast := (chain.refused full).1
    rw [looped] at isLast
    injection isLast with sameError
    injection sameError with sameId
    exact ⟨allows, keyed, first, visits, last, isFirst, chain, full, sameId.symm⟩
  · cases unresolved

end Ussd
