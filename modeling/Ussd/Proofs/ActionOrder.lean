import Ussd.Proofs.Course

/-! # The order of actions

What a turn starts is nested like the visits of its route: a state on the way starts its side
actions around its own action and around everything that is done at the states after it. The log of
a turn that succeeds is enough to tell, since nothing is left out of it. -/

namespace Ussd

variable {β : Type} [Backend β]

/-- A turn that succeeds starts its actions in the order of its route. The side actions of the
first state stand around all others, those of a processing state on the way around its own action
and around what is done at the states after it. No action is left out, whatever the others come
to. -/
theorem turn_starts_actions_in_order (setting : Setting) (definition : Definition)
    (session : Session) (gateway : Gateway β) :
    (∀ input screen final,
      (answerTurn setting definition session input).on gateway = (.ok screen, final) →
        ∃ state visits last, definition.state? session.stateId = some state ∧
          Route definition state visits last ∧ screen.stateId = last.id ∧
          final.trail = gateway.trail ++ startMarks state.preActions
            ++ state.answerMarks (visitMarks visits) ++ startMarks state.postActions) ∧
    (∀ screen final,
      (startTurn setting definition session).on gateway = (.ok screen, final) →
        ∃ initial visits last, definition.initialState? = some initial ∧
          Route definition initial visits last ∧ (initial.type = .processing ∨ visits = []) ∧
          screen.stateId = last.id ∧
          final.trail = gateway.trail ++ initial.arrivalMarks (visitMarks visits)) := by
  constructor
  · intro input screen final succeeds
    cases resolved : definition.state? session.stateId with
    | none =>
        rw [on_answerTurn_of_none resolved] at succeeds
        cases succeeds
    | some state =>
        rcases Run.Ends.of_ok (part_answerTurn resolved input) (.refl gateway) succeeds with
          ⟨visits, last, route, -, -, shown, seen⟩
        exact ⟨state, visits, last, rfl, route, shown, seen.trail⟩
  · intro screen final succeeds
    cases isInitial : definition.initialState? with
    | none =>
        rw [on_startTurn_of_none isInitial] at succeeds
        cases succeeds
    | some initial =>
        have allows (processing : initial.type = .processing) :
            0 < setting.engine.maxProcessingChain := by
          refine Nat.pos_of_ne_zero fun noRoom => ?_
          exact (ends_startTurn_of_zero isInitial processing noRoom).of_ok (.refl gateway) succeeds
        rcases Run.Ends.of_ok (part_startTurn isInitial allows) (.refl gateway) succeeds with
          ⟨visits, last, route, entered, -, shown, seen⟩
        refine ⟨initial, visits, last, rfl, route, ?_, shown, seen.trail⟩
        rw [seen.trail, enteredIds_append, enteredIds_arrivalMarks] at entered
        rcases Decidable.em (initial.type = .processing) with processing | notProcessing
        · exact .inl processing
        · rw [if_neg notProcessing] at entered
          exact .inr (List.map_eq_nil_iff.mp (List.append_cancel_left entered).symm)

namespace Sample

def drop (key : String) : Action :=
  .access .delete { storageKey := key, storeAs := none, value := none }

def onSuccess (nextState : String) : Transition :=
  { input := none, condition := some (.on .success), nextState := nextState, value := none,
    message := none }

/-- A menu, a processing state and a last screen, all of them with actions; the first side action
of the menu fails, since it has no key. -/
def nested : Definition :=
  definition [
    { state "menu" .menu none
        [{ input := some "1", condition := none, nextState := "work", value := none,
           message := none }] with
      preActions := [drop "", drop "before"]
      postActions := [drop "after"] },
    { state "work" .processing (some (drop "work")) [onSuccess "end"] with
      preActions := [drop "opening"]
      postActions := [drop "closing"] },
    { state "end" .final (some (drop "last")) [] with preActions := [drop "never"] }]

def label : Mark → String
  | .entered stateId => "at " ++ stateId
  | .started (.access _ target) => target.storageKey
  | .started _ => ""

end Sample

theorem nested_actions_start_in_order :
    ∃ screen final,
      (answerTurn Sample.setting Sample.nested Sample.session "1").on Sample.gateway =
        (.ok screen, final) ∧
      final.trail.map Sample.label =
        ["", "before", "at work", "opening", "work", "at end", "last", "closing", "after"] ∧
      ∃ state visits last, Sample.nested.state? Sample.session.stateId = some state ∧
        Route Sample.nested state visits last ∧ screen.stateId = last.id ∧
        final.trail = Sample.gateway.trail ++ startMarks state.preActions
          ++ state.answerMarks (visitMarks visits) ++ startMarks state.postActions := by
  have evaluated : ((answerTurn Sample.setting Sample.nested Sample.session "1").on
        Sample.gateway).1.toOption = some (.leave "Bonjour" "end") ∧
      ((answerTurn Sample.setting Sample.nested Sample.session "1").on
        Sample.gateway).2.trail.map Sample.label =
          ["", "before", "at work", "opening", "work", "at end", "last", "closing", "after"] := by
    decide +kernel
  rcases ran : (answerTurn Sample.setting Sample.nested Sample.session "1").on Sample.gateway
    with ⟨error | screen, final⟩
  · rw [ran] at evaluated
    cases evaluated.1
  · rw [ran] at evaluated
    have ordered := (turn_starts_actions_in_order Sample.setting Sample.nested Sample.session
      Sample.gateway).1 "1" screen final ran
    exact ⟨screen, final, rfl, evaluated.2, ordered⟩

end Ussd
