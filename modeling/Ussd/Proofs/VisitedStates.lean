import Ussd.Proofs.CheckedDefinition
import Ussd.Proofs.Route
import Ussd.Proofs.StateGraph

/-! # Visited states

The check of a definition searches for the states that nothing leads to, and turns walk from state to
state. Both begin at the initial state and follow the same targets, but of several states with one
id turns take the first, while the check looks at the last. Where it matters, the check reports a
state that sessions do visit; what it overlooks then stands behind an id that it reports as well. -/

namespace Ussd

/-! ## Where turns come to -/

namespace Definition

/-- Turns may come to the state. Those after the first one resume a session at the id of its state,
and that of the initial state may stand for another one. -/
inductive Comes (definition : Definition) : State → Prop
  | begun {state : State} (isInitial : definition.initialState? = some state) :
      Comes definition state
  | resumed {initial state : State} (isInitial : definition.initialState? = some initial)
      (resolves : definition.state? initial.id = some state) : Comes definition state
  | onwards {state next : State} (comes : Comes definition state)
      (leads : next.id ∈ state.targets) (resolves : definition.state? next.id = some next) :
      Comes definition next

/-- Turns may come to a state of this id. -/
def ComesTo (definition : Definition) (stateId : String) : Prop :=
  ∃ state, definition.Comes state ∧ state.id = stateId

variable {definition : Definition}

theorem Comes.isState {state : State} (comes : definition.Comes state) :
    state ∈ definition.states := by
  cases comes with
  | begun isInitial => exact mem_of_initialState? isInitial
  | resumed _ resolves => exact List.mem_of_find?_eq_some resolves
  | onwards _ _ resolves => exact List.mem_of_find?_eq_some resolves

/-- The state at which a session is resumed is one to which turns may come. -/
theorem ComesTo.resumes {stateId : String} (comesTo : definition.ComesTo stateId) {state : State}
    (resolves : definition.state? stateId = some state) : definition.Comes state := by
  rcases comesTo with ⟨found, comes, rfl⟩
  cases comes with
  | begun isInitial => exact .resumed isInitial resolves
  | resumed isInitial found =>
      rw [state?_id found, found] at resolves
      cases resolves
      exact .resumed isInitial found
  | onwards comes leads found =>
      cases found.symm.trans resolves
      exact .onwards comes leads found

/-- Only states to which turns may come are entered. -/
def course (definition : Definition) : Permit :=
  { Permit.actions with enters := definition.Comes }

theorem course_zone (definition : Definition) :
    definition.course.Zone definition definition.Comes where
  covers _ comes :=
    { entered := comes
      started := fun _ _ => trivial
      chosen := fun _ _ _ _ _ _ _ => trivial
      answered := fun _ _ _ _ _ => trivial }
  closed state comes target leads next resolves := by
    cases state?_id resolves
    exact .onwards comes leads resolves

end Definition

/-! ## Turns stay on course -/

section Turns

variable {β : Type} [Backend β] {definition : Definition}

/-- The stored session is at a state to which turns may come, and so were the states that have been
entered since the earlier ones. -/
structure OnCourse (definition : Definition) (id : String) (earlier : List String)
    (gateway : Gateway β) : Prop where
  waits : ∀ session, Table.get? gateway.sessions id = some session →
    definition.ComesTo session.stateId
  entered : ∃ ids, enteredIds gateway.trail = earlier ++ ids ∧
    ∀ stateId ∈ ids, definition.ComesTo stateId

theorem OnCourse.scope (definition : Definition) (earlier : List String)
    (id phoneNumber serviceCode : String) :
    WorkScope definition.course (Run.Alone (OnCourse (β := β) definition id earlier)) id phoneNumber
      serviceCode := by
  apply WorkScope.alone
  case noted =>
    intro gateway keeps events quiet
    exact ⟨keeps.waits, by rw [quiet.trail_eq]; exact keeps.entered⟩
  case started =>
    intro gateway keeps action _
    rcases keeps.entered with ⟨ids, entered, all⟩
    have marks : (Event.actionStarted id action).mark? = some (.started action) := rfl
    refine ⟨keeps.waits, ids, ?_, all⟩
    simpa [trail_of_mark gateway marks] using entered
  case entered =>
    intro gateway keeps state comes
    rcases keeps.entered with ⟨ids, entered, all⟩
    have marks : (Event.stateEntered id state.id).mark? = some (.entered state.id) := rfl
    refine ⟨keeps.waits, ids ++ [state.id], ?_, ?_⟩
    · simp [trail_of_mark gateway marks, entered]
    · exact List.forall_mem_append.mpr ⟨all, List.forall_mem_singleton.mpr ⟨state, comes, rfl⟩⟩
  case merged =>
    intro gateway keeps stored found entries _ now
    refine ⟨fun session saved => ?_, keeps.entered⟩
    rcases SessionStore.get?_save_cases saved with rfl | kept
    · exact keeps.waits stored found
    · exact keeps.waits session kept
  case moved =>
    intro gateway keeps stored found state comes now
    refine ⟨fun session saved => ?_, keeps.entered⟩
    rcases SessionStore.get?_save_cases saved with rfl | kept
    · exact ⟨state, comes, rfl⟩
    · exact keeps.waits session kept
  case sent => exact fun _ keeps _ => ⟨keeps.waits, keeps.entered⟩
  case recorded => exact fun _ keeps _ => ⟨keeps.waits, keeps.entered⟩

section OneTurn

variable {setting : Setting} {session : Session} {gateway : Gateway β}
  (comesTo : definition.ComesTo session.stateId)
  (stored : Table.get? gateway.sessions session.id = some session)

include comesTo stored

omit [Backend β] in
theorem OnCourse.before :
    OnCourse definition session.id (enteredIds gateway.trail) gateway where
  waits other found := by
    cases stored.symm.trans found
    exact comesTo
  entered := ⟨[], (List.append_nil _).symm, List.forall_mem_nil _⟩

theorem onCourse_startTurn :
    OnCourse definition session.id (enteredIds gateway.trail)
      ((startTurn setting definition session).on gateway).2 :=
  ((OnCourse.scope ..).respects_startWithin definition.course_zone fun _ => .begun).keeps gateway
    (.before comesTo stored)

theorem onCourse_answerTurn (input : String) :
    OnCourse definition session.id (enteredIds gateway.trail)
      ((answerTurn setting definition session input).on gateway).2 :=
  ((OnCourse.scope ..).respects_answerWithin definition.course_zone
    (fun _ resolves => comesTo.resumes resolves) input).keeps gateway (.before comesTo stored)

end OneTurn

theorem Reached.comesTo {session : Session} (reached : Reached β definition session) :
    definition.ComesTo session.stateId := by
  induction reached with
  | begun isInitial begins => exact ⟨_, .begun isInitial, begins.symm⟩
  | started _ stored left comesTo => exact (onCourse_startTurn comesTo stored).waits _ left
  | answered _ stored left comesTo => exact (onCourse_answerTurn comesTo stored _).waits _ left
  | waited _ stays comesTo => rwa [stays]

/-! ## Visits -/

/-- Between the two gateways, sessions have been moved to states, among them one of this id. -/
def Enters (gateway final : Gateway β) (stateId : String) : Prop :=
  ∃ ids, enteredIds final.trail = enteredIds gateway.trail ++ ids ∧ stateId ∈ ids

/-- Turns of the service make this id the state of a session: it waits there between two turns, or a
turn enters it on its way, whatever it ends with. -/
inductive Visited (β : Type) [Backend β] (definition : Definition) : String → Prop
  | waits {session : Session} (reached : Reached β definition session) :
      Visited β definition session.stateId
  | started {session : Session} {setting : Setting} {gateway : Gateway β} {stateId : String}
      (reached : Reached β definition session)
      (stored : Table.get? gateway.sessions session.id = some session)
      (enters : Enters gateway ((startTurn setting definition session).on gateway).2 stateId) :
      Visited β definition stateId
  | answered {session : Session} {setting : Setting} {gateway : Gateway β} {input stateId : String}
      (reached : Reached β definition session)
      (stored : Table.get? gateway.sessions session.id = some session)
      (enters : Enters gateway ((answerTurn setting definition session input).on gateway).2
        stateId) :
      Visited β definition stateId

omit [Backend β] in
theorem OnCourse.comesTo {id stateId : String} {gateway final : Gateway β}
    (keeps : OnCourse definition id (enteredIds gateway.trail) final)
    (enters : Enters gateway final stateId) : definition.ComesTo stateId := by
  rcases keeps.entered with ⟨ids, entered, all⟩
  rcases enters with ⟨others, same, isAmong⟩
  cases List.append_cancel_left (entered.symm.trans same)
  exact all stateId isAmong

theorem Visited.comesTo {stateId : String} (visited : Visited β definition stateId) :
    definition.ComesTo stateId := by
  cases visited with
  | waits reached => exact reached.comesTo
  | started reached stored enters =>
      exact (onCourse_startTurn reached.comesTo stored).comesTo enters
  | answered reached stored enters =>
      exact (onCourse_answerTurn reached.comesTo stored _).comesTo enters

end Turns

/-! ## What the check reports -/

namespace Definition

variable {definition : Definition}

theorem unreachable_mem_graphIssues {id : String} :
    .unreachableState id ∈ definition.graphIssues ↔
      (∃ state ∈ definition.states, state.id = id) ∧ id ∉ definition.reachable := by
  simp only [graphIssues, List.mem_append, List.mem_map, List.mem_filter,
    Bool.not_eq_true', List.contains_eq_mem, decide_eq_false_iff_not,
    DefinitionIssue.unreachableState.injEq, reduceCtorEq, and_false, exists_false, or_false]
  constructor
  · rintro ⟨state, ⟨isState, isMissed⟩, rfl⟩
    exact ⟨⟨state, isState, rfl⟩, isMissed⟩
  · rintro ⟨⟨state, isState, rfl⟩, isMissed⟩
    exact ⟨state, ⟨isState, isMissed⟩, rfl⟩

theorem unreachable_notMem_initialIssues (id : String) :
    .unreachableState id ∉ definition.initialIssues := by
  unfold initialIssues
  split <;> simp

theorem unreachable_notMem_duplicateIssues (id : String) (seen : List String)
    (states : List State) : .unreachableState id ∉ duplicateIssues seen states := by
  induction states generalizing seen with
  | nil => exact List.not_mem_nil
  | cons state rest induction =>
      unfold duplicateIssues
      split
      · simpa using induction seen
      · exact induction _

theorem unreachable_notMem_stateIssues (id : String) (ids : List String) (mostCharacters : Nat)
    (state : State) : .unreachableState id ∉ stateIssues ids mostCharacters state := by
  unfold stateIssues
  simp only [List.mem_append, List.mem_map, not_or]
  refine ⟨⟨by simp, ?_⟩, ?_⟩ <;> split <;> simp

theorem unreachable_mem_issues {mostCharacters : Nat} {id : String} :
    .unreachableState id ∈ definition.issues mostCharacters ↔
      (∃ state ∈ definition.states, state.id = id) ∧ id ∉ definition.reachable := by
  rw [← unreachable_mem_graphIssues]
  constructor
  · unfold issues
    split
    · simp
    · simp [unreachable_notMem_initialIssues, unreachable_notMem_duplicateIssues,
        unreachable_notMem_stateIssues]
  · intro reported
    rcases unreachable_mem_graphIssues.mp reported with ⟨⟨state, isState, -⟩, -⟩
    rw [issues_of_ne_nil (List.ne_nil_of_mem isState)]
    exact List.mem_append_right _ reported

theorem duplicate_mem_of_seen {seen : List String} {states : List State} {state : State}
    (isState : state ∈ states) (isSeen : state.id ∈ seen) :
    .duplicateStateId state.id ∈ duplicateIssues seen states := by
  induction states generalizing seen with
  | nil => cases isState
  | cons head rest induction =>
      unfold duplicateIssues
      rcases List.mem_cons.mp isState with rfl | isLater
      · simp [isSeen]
      · split
        · exact List.mem_cons_of_mem _ (induction isLater isSeen)
        · exact induction isLater (List.mem_cons_of_mem _ isSeen)

theorem duplicate_mem_duplicateIssues {states : List State} {left right : State}
    (isLeft : left ∈ states) (isRight : right ∈ states) (sameId : right.id = left.id)
    (different : left ≠ right) (seen : List String) :
    .duplicateStateId left.id ∈ duplicateIssues seen states := by
  induction states generalizing seen with
  | nil => cases isLeft
  | cons head rest induction =>
      unfold duplicateIssues
      rcases List.mem_cons.mp isLeft with rfl | leftLater
      · have rightLater := (List.mem_cons.mp isRight).resolve_left different.symm
        split
        · exact List.mem_cons_self
        · rw [← sameId]
          exact duplicate_mem_of_seen rightLater (by simp [sameId])
      · rcases List.mem_cons.mp isRight with rfl | rightLater
        · rw [← sameId]
          split
          · exact List.mem_cons_self
          · rw [sameId]
            exact duplicate_mem_of_seen leftLater (by simp)
        · split
          · exact List.mem_cons_of_mem _ (induction leftLater rightLater seen)
          · exact induction leftLater rightLater _

theorem duplicate_mem_issues {mostCharacters : Nat} {left right : State}
    (isLeft : left ∈ definition.states) (isRight : right ∈ definition.states)
    (sameId : right.id = left.id) (different : left ≠ right) :
    .duplicateStateId left.id ∈ definition.issues mostCharacters := by
  have reported := duplicate_mem_duplicateIssues isLeft isRight sameId different []
  rw [issues_of_ne_nil (List.ne_nil_of_mem isLeft)]
  exact List.mem_append_left _ (List.mem_append_left _ (List.mem_append_right _ reported))

/-- Turns go from the first state on to the last one. The check looks at the middle one instead, and
nothing leads it to the last one. -/
structure Overlooks (definition : Definition) (left looked next : State) : Prop where
  comes : definition.Comes left
  leads : next.id ∈ left.targets
  resolves : definition.state? next.id = some next
  looksAt : ∃ initial, definition.initialState? = some initial ∧
    definition.standIn? initial left.id = some looked
  lacks : next.id ∉ looked.targets
  isMet : left.id ∈ definition.reachable
  isMissed : next.id ∉ definition.reachable

theorem Overlooks.mem_looked {left looked next : State}
    (overlooks : definition.Overlooks left looked next) :
    looked ∈ definition.states ∧ looked.id = left.id := by
  rcases overlooks.looksAt with ⟨initial, isInitial, stands⟩
  exact mem_of_standIn? (mem_of_initialState? isInitial) stands

/-- Where turns come to a state whose id has not been met, something on the way has been
overlooked. -/
theorem Comes.met_or_overlooks {state : State} (comes : definition.Comes state) :
    state.id ∈ definition.reachable ∨
      ∃ left looked next, definition.Overlooks left looked next ∧ definition.Leads next state := by
  induction comes with
  | begun isInitial => exact .inl ((mem_reachable_iff isInitial _).mpr .refl)
  | @resumed initial state isInitial resolves =>
      rw [state?_id resolves]
      exact .inl ((mem_reachable_iff isInitial _).mpr .refl)
  | @onwards state next comes leads resolves before =>
      have isNext : next ∈ definition.states := List.mem_of_find?_eq_some resolves
      rcases before with isMet | ⟨left, looked, first, overlooks, path⟩
      · rcases exists_initialState? (List.ne_nil_of_mem comes.isState) with ⟨initial, isInitial⟩
        rcases exists_standIn? initial comes.isState with ⟨looked, stands⟩
        rcases Decidable.em (next.id ∈ definition.reachable) with nextIsMet | isMissed
        · exact .inl nextIsMet
        · have lacks : next.id ∉ looked.targets := by
            intro isTarget
            refine isMissed ((mem_reachable_iff isInitial _).mpr ?_)
            exact ((mem_reachable_iff isInitial _).mp isMet).tail
              ⟨looked, stands, isTarget, nodeAt?_isSome isNext⟩
          have overlooks : definition.Overlooks state looked next :=
            { comes, leads, resolves, lacks, isMet, isMissed, looksAt := ⟨initial, isInitial, stands⟩ }
          exact .inr ⟨state, looked, next, overlooks, .refl⟩
      · exact .inr ⟨left, looked, first, overlooks, path.tail ⟨isNext, leads⟩⟩

/-- The check reports what it has overlooked and that the id before it is repeated. -/
theorem Overlooks.reports {left looked next : State}
    (overlooks : definition.Overlooks left looked next) (mostCharacters : Nat) :
    left ≠ looked ∧ left.id = looked.id ∧
    .duplicateStateId left.id ∈ definition.issues mostCharacters ∧
    .unreachableState left.id ∉ definition.issues mostCharacters ∧
    .unreachableState next.id ∈ definition.issues mostCharacters := by
  rcases overlooks.mem_looked with ⟨isLooked, sameId⟩
  have isNext : next ∈ definition.states := List.mem_of_find?_eq_some overlooks.resolves
  have different : left ≠ looked := by
    rintro rfl
    exact overlooks.lacks overlooks.leads
  refine ⟨different, sameId.symm, ?repeated, ?met, ?missed⟩
  case repeated => exact duplicate_mem_issues overlooks.comes.isState isLooked sameId different
  case met => exact fun reported => (unreachable_mem_issues.mp reported).2 overlooks.isMet
  case missed => exact unreachable_mem_issues.mpr ⟨⟨next, isNext, rfl⟩, overlooks.isMissed⟩

end Definition

/-- Where ids are distinct, the check never reports a state that turns visit. Where it does report
one, it has overlooked what turns find behind an id of several states; it reports that id as repeated
and the state behind it as one to which nothing leads, and from there paths lead on to the visited
one. -/
theorem visited_states_are_reported_only_behind_repeated_ids {β : Type} [Backend β]
    {definition : Definition} {stateId : String} (visited : Visited β definition stateId)
    (mostCharacters : Nat) :
    (definition.Distinct → .unreachableState stateId ∉ definition.issues mostCharacters) ∧
    (.unreachableState stateId ∈ definition.issues mostCharacters →
      ∃ left looked next state, definition.Overlooks left looked next ∧
        left ≠ looked ∧ left.id = looked.id ∧
        .duplicateStateId left.id ∈ definition.issues mostCharacters ∧
        .unreachableState left.id ∉ definition.issues mostCharacters ∧
        .unreachableState next.id ∈ definition.issues mostCharacters ∧
        definition.Leads next state ∧ state.id = stateId) := by
  rcases visited.comesTo with ⟨state, comes, rfl⟩
  have behind (reported : .unreachableState state.id ∈ definition.issues mostCharacters) :
      ∃ left looked next, definition.Overlooks left looked next ∧ definition.Leads next state :=
    comes.met_or_overlooks.resolve_left (Definition.unreachable_mem_issues.mp reported).2
  constructor
  · intro distinct reported
    rcases behind reported with ⟨left, looked, next, overlooks, -⟩
    rcases overlooks.mem_looked with ⟨isLooked, sameId⟩
    rcases overlooks.reports mostCharacters with ⟨different, -⟩
    exact different (distinct.eq_of_id overlooks.comes.isState isLooked sameId.symm)
  · intro reported
    rcases behind reported with ⟨left, looked, next, overlooks, path⟩
    rcases overlooks.reports mostCharacters with ⟨different, sameId, repeated, met, missed⟩
    exact ⟨left, looked, next, state, overlooks, different, sameId, repeated, met, missed, path, rfl⟩

/-! ## Samples -/

namespace Sample

def leading (target : String) : Transition :=
  { input := some "1", condition := none, nextState := target, value := none, message := none }

/-- Two menus after each other. The id of the second one is also that of a final state. -/
def twofold : Definition :=
  definition [
    state "menu" .menu none [leading "more"],
    { state "more" .menu none [leading "end"] with isInitial := false },
    state "more" .final none [],
    state "end" .final none []]

/-- The session at the second menu, and the gateway where it is. -/
def atMore : Session := session.moveTo "more" setting.now

def showingMore : Gateway ScriptedBackend :=
  ((answerTurn setting twofold session "1").on gateway).2

theorem visited_end : Visited ScriptedBackend twofold "end" := by
  have stored : Table.get? gateway.sessions session.id = some session := rfl
  have moves : Table.get? showingMore.sessions session.id = some atMore := rfl
  have reached : Reached ScriptedBackend twofold atMore := .answered (.begun rfl rfl) stored moves
  have entered : enteredIds ((answerTurn setting twofold atMore "1").on showingMore).2.trail =
      enteredIds showingMore.trail ++ ["end"] := rfl
  exact .answered reached moves ⟨["end"], entered, List.mem_singleton_self _⟩

end Sample

theorem visited_end_is_overlooked :
    Visited ScriptedBackend Sample.twofold "end" ∧
    .duplicateStateId "more" ∈ Sample.twofold.issues 182 ∧
    .unreachableState "end" ∈ Sample.twofold.issues 182 ∧
    ∃ left looked next, Sample.twofold.Overlooks left looked next ∧ next.id = "end" := by
  have issues : Sample.twofold.issues 182 =
      [.duplicateStateId "more", .unreachableState "end"] := by decide +kernel
  have reported : .unreachableState "end" ∈ Sample.twofold.issues 182 := by simp [issues]
  rcases (visited_states_are_reported_only_behind_repeated_ids Sample.visited_end 182).2 reported with
    ⟨left, looked, next, -, overlooks, -, -, -, -, isReported, -⟩
  refine ⟨Sample.visited_end, by simp [issues], reported, left, looked, next, overlooks, ?_⟩
  simpa [issues] using isReported

theorem visited_end_is_reported :
    ¬∀ (definition : Definition) (stateId : String), Visited ScriptedBackend definition stateId →
      .unreachableState stateId ∉ definition.issues 182 := by
  intro never
  refine never Sample.twofold "end" Sample.visited_end ?_
  decide +kernel

end Ussd
