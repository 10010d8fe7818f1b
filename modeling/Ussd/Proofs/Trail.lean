import Ussd.Gateway.Turn

/-! # The trail of a turn

The log shows in which order a turn enters states and starts actions. Only these two events leave a
mark; the others say how the work between them went. -/

namespace Ussd

inductive Mark where
  | entered (stateId : String)
  | started (action : Action)

/-- The mark of an event, if it leaves one. -/
def Event.mark? : Event → Option Mark
  | .stateEntered _ stateId => some (.entered stateId)
  | .actionStarted _ action => some (.started action)
  | _ => none

variable {β : Type}

/-- What a gateway has been seen to do, in order. -/
def Gateway.trail (gateway : Gateway β) : List Mark := gateway.log.filterMap Event.mark?

/-- The events leave no marks. -/
def Quiet (events : List Event) : Prop := ∀ event ∈ events, event.mark? = none

namespace Quiet

theorem nil : Quiet [] := List.forall_mem_nil _

theorem single {event : Event} (silent : event.mark? = none) : Quiet [event] := by
  intro other member
  rwa [List.mem_singleton.mp member]

theorem map {α : Type} {event : α → Event} (silent : ∀ value, (event value).mark? = none)
    (values : List α) : Quiet (values.map event) := by
  intro other member
  rcases List.mem_map.mp member with ⟨value, -, rfl⟩
  exact silent value

theorem append {first second : List Event} (left : Quiet first) (right : Quiet second) :
    Quiet (first ++ second) := by
  intro event member
  exact (List.mem_append.mp member).elim (left event) (right event)

theorem retryEvents (request : Request) (index : Nat) (failed : List FailedAttempt) :
    Quiet (Ussd.retryEvents request index failed) := by
  induction failed generalizing index with
  | nil => exact nil
  | cons attempt rest induction =>
      exact (single rfl).append ((single rfl).append (induction (index + 1)))

theorem exchangeEvents (request : Request) (exchange : Exchange β) :
    Quiet (Ussd.exchangeEvents request exchange) :=
  (retryEvents request 0 exchange.failed).append ((single rfl).append (single rfl))

theorem trail_eq {events : List Event} (quiet : Quiet events) (gateway : Gateway β) :
    Gateway.trail { gateway with log := gateway.log ++ events } = gateway.trail := by
  unfold Gateway.trail
  rw [List.filterMap_append, List.filterMap_eq_nil_iff.mpr quiet, List.append_nil]

end Quiet

theorem trail_of_mark (gateway : Gateway β) {event : Event} {mark : Mark}
    (marks : event.mark? = some mark) :
    Gateway.trail { gateway with log := gateway.log ++ [event] } = gateway.trail ++ [mark] := by
  unfold Gateway.trail
  rw [List.filterMap_append, List.filterMap_cons_some marks, List.filterMap_nil]

end Ussd
