import Mathlib.Data.List.Nodup
import Mathlib.Logic.Relation
import Ussd.Proofs.TurnOutcome

/-! # The graph of a definition

The check of a definition searches its graph forwards from the initial state and backwards from the
final states. Both directions are first told by ids, for all definitions; of several states with one id
the search looks at one only, while going backwards any of them counts. Where ids are distinct, both
are paths between states. -/

namespace Ussd

namespace Definition

open Relation (ReflTransGen)

theorem mem_of_nodeAt? {definition : Definition} {id : String} {state : State}
    (found : definition.nodeAt? id = some state) : state ∈ definition.states ∧ state.id = id := by
  have isState := List.mem_reverse.mp (List.mem_of_find?_eq_some found)
  have sameId := List.find?_some found
  exact ⟨isState, beq_iff_eq.mp sameId⟩

theorem nodeAt?_isSome {definition : Definition} {state : State}
    (isState : state ∈ definition.states) : (definition.nodeAt? state.id).isSome :=
  List.find?_isSome.mpr ⟨state, List.mem_reverse.mpr isState, beq_self_eq_true _⟩

/-! ## Searching forwards -/

namespace Search

variable {definition : Definition}

theorem mem_met_visit {search : Search} {target id : String} :
    id ∈ (search.visit definition target).met ↔
      id ∈ search.met ∨ id = target ∧ (definition.nodeAt? id).isSome := by
  unfold visit
  split
  · rename_i missing
    have unknown : ¬(id = target ∧ (definition.nodeAt? id).isSome) := by
      rintro ⟨rfl, known⟩
      simp [missing] at known
    simp [unknown]
  · rename_i next found
    rcases mem_of_nodeAt? found with ⟨-, rfl⟩
    have known : id = next.id → (definition.nodeAt? id).isSome := by
      rintro rfl
      simp [found]
    split
    · rename_i isMet
      constructor
      · exact .inl
      · rintro (before | ⟨rfl, -⟩)
        · exact before
        · exact isMet
    · rw [List.mem_cons, or_comm]
      exact or_congr_right ⟨fun equal => ⟨equal, known equal⟩, And.left⟩

theorem mem_waiting_visit {search : Search} {target : String} {state : State} :
    state ∈ (search.visit definition target).waiting ↔
      state ∈ search.waiting ∨ definition.nodeAt? target = some state ∧ target ∉ search.met := by
  unfold visit
  split
  · rename_i missing
    simp [missing]
  · rename_i next found
    rcases mem_of_nodeAt? found with ⟨-, rfl⟩
    split
    · rename_i isMet
      simp [isMet]
    · rename_i isNew
      rw [List.mem_cons, or_comm, found, Option.some.injEq, eq_comm (a := next)]
      simp [isNew]

theorem mem_met_visits {search : Search} {targets : List String} {id : String} :
    id ∈ (targets.foldl (visit definition) search).met ↔
      id ∈ search.met ∨ id ∈ targets ∧ (definition.nodeAt? id).isSome := by
  induction targets generalizing search with
  | nil => simp
  | cons target rest induction =>
      rw [List.foldl_cons, induction, mem_met_visit, List.mem_cons, or_and_right, or_assoc]

theorem mem_waiting_visits {search : Search} {targets : List String} {state : State} :
    state ∈ (targets.foldl (visit definition) search).waiting ↔
      state ∈ search.waiting ∨
        state.id ∈ targets ∧ definition.nodeAt? state.id = some state ∧ state.id ∉ search.met := by
  induction targets generalizing search with
  | nil => simp
  | cons target rest induction =>
      rw [List.foldl_cons, induction, mem_waiting_visit, mem_met_visit, List.mem_cons]
      have ofTarget : definition.nodeAt? target = some state → state.id = target :=
        fun found => (mem_of_nodeAt? found).2
      grind

end Search

section Forwards

variable (definition : Definition) (initial : State)

/-- The state that a search from the initial state looks at for an id. -/
def standIn? (id : String) : Option State :=
  if id = initial.id then some initial else definition.nodeAt? id

/-- A search from the initial state goes from one id to the other. -/
def Adjoins (id next : String) : Prop :=
  ∃ state, definition.standIn? initial id = some state ∧ next ∈ state.targets ∧
    (definition.nodeAt? next).isSome

/-- Only ids that paths lead to have been met, and nothing that is next to one of them is overlooked
as long as the waiting states are looked at. -/
structure Search.Sound (search : Search) : Prop where
  start : initial.id ∈ search.met
  led : ∀ id ∈ search.met, ReflTransGen (definition.Adjoins initial) initial.id id
  waits : ∀ state ∈ search.waiting, state.id ∈ search.met ∧
    definition.standIn? initial state.id = some state
  complete : ∀ id ∈ search.met, (∃ state ∈ search.waiting, state.id = id) ∨
    ∀ next, definition.Adjoins initial id next → next ∈ search.met

variable {definition initial}

theorem mem_of_standIn? (isInitial : initial ∈ definition.states) {id : String} {state : State}
    (stands : definition.standIn? initial id = some state) :
    state ∈ definition.states ∧ state.id = id := by
  unfold standIn? at stands
  split at stands
  · rename_i isId
    cases stands
    exact ⟨isInitial, isId.symm⟩
  · exact mem_of_nodeAt? stands

theorem exists_standIn? (initial : State) {state : State} (isState : state ∈ definition.states) :
    ∃ looked, definition.standIn? initial state.id = some looked := by
  unfold standIn?
  split
  · exact ⟨initial, rfl⟩
  · exact Option.isSome_iff_exists.mp (nodeAt?_isSome isState)

theorem Search.Sound.begin (definition : Definition) (initial : State) :
    Search.Sound definition initial { met := [initial.id], waiting := [initial] } where
  start := List.mem_singleton_self _
  led id isMet := by rw [List.mem_singleton.mp isMet]
  waits state isWaiting := by
    rw [List.mem_singleton.mp isWaiting]
    exact ⟨List.mem_singleton_self _, if_pos rfl⟩
  complete id isMet := .inl ⟨initial, List.mem_singleton_self _, (List.mem_singleton.mp isMet).symm⟩

theorem Search.Sound.step {met : List String} {state : State} {rest : List State}
    (sound : Search.Sound definition initial { met, waiting := state :: rest }) :
    Search.Sound definition initial
      (state.targets.foldl (Search.visit definition) { met, waiting := rest }) := by
  rcases sound.waits state List.mem_cons_self with ⟨isMet, stands⟩
  have ofOther (id : String) (isNew : id ∉ met) :
      definition.standIn? initial id = definition.nodeAt? id := by
    refine if_neg ?_
    rintro rfl
    exact isNew sound.start
  refine ⟨?start, ?led, ?waits, ?complete⟩
  case start => exact Search.mem_met_visits.mpr (.inl sound.start)
  case led =>
    intro id reached
    rcases Search.mem_met_visits.mp reached with before | ⟨isTarget, known⟩
    · exact sound.led id before
    · exact (sound.led _ isMet).tail ⟨state, stands, isTarget, known⟩
  case waits =>
    intro other isWaiting
    rcases Search.mem_waiting_visits.mp isWaiting with before | ⟨isTarget, found, isNew⟩
    · rcases sound.waits other (List.mem_cons_of_mem _ before) with ⟨otherMet, otherStands⟩
      exact ⟨Search.mem_met_visits.mpr (.inl otherMet), otherStands⟩
    · have known : (definition.nodeAt? other.id).isSome := by simp [found]
      exact ⟨Search.mem_met_visits.mpr (.inr ⟨isTarget, known⟩), (ofOther _ isNew).trans found⟩
  case complete =>
    intro id reached
    rcases Decidable.em (id ∈ met) with before | isNew
    · rcases sound.complete id before with ⟨other, isWaiting, rfl⟩ | complete
      · rcases List.mem_cons.mp isWaiting with rfl | later
        · -- the state that has just been looked at
          refine .inr fun next ⟨source, standsFor, isTarget, known⟩ => ?_
          cases stands.symm.trans standsFor
          exact Search.mem_met_visits.mpr (.inr ⟨isTarget, known⟩)
        · exact .inl ⟨other, Search.mem_waiting_visits.mpr (.inl later), rfl⟩
      · exact .inr fun next adjoins => Search.mem_met_visits.mpr (.inl (complete next adjoins))
    · rcases Search.mem_met_visits.mp reached with before | ⟨isTarget, known⟩
      · exact absurd before isNew
      · rcases Option.isSome_iff_exists.mp known with ⟨other, found⟩
        rcases mem_of_nodeAt? found with ⟨-, rfl⟩
        exact .inl ⟨other, Search.mem_waiting_visits.mpr (.inr ⟨isTarget, found, isNew⟩), rfl⟩

theorem mem_explore_iff {search : Search} (sound : search.Sound definition initial) (id : String) :
    id ∈ explore definition search ↔
      ReflTransGen (definition.Adjoins initial) initial.id id := by
  induction search using explore.induct definition with
  | case1 met =>
      rw [explore]
      constructor
      · exact sound.led id
      · intro path
        induction path with
        | refl => exact sound.start
        | tail _ adjoins isMet =>
            rcases sound.complete _ isMet with ⟨_, isWaiting, _⟩ | complete
            · cases isWaiting
            · exact complete _ adjoins
  | case2 met state rest induction =>
      rw [explore]
      exact induction sound.step

/-- The search finds the ids that paths from the initial state lead to. -/
theorem mem_reachable_iff (isInitial : definition.initialState? = some initial) (id : String) :
    id ∈ definition.reachable ↔ ReflTransGen (definition.Adjoins initial) initial.id id := by
  rw [reachable, isInitial]
  exact mem_explore_iff (.begin definition initial) id

end Forwards

/-! ## Gathering backwards -/

section Backwards

variable {states sources : List State} {known : List String}

/-- A state of the first id has the second one among its targets. -/
def Precedes (states : List State) (id next : String) : Prop :=
  ∃ state ∈ states, state.id = id ∧ next ∈ state.targets

theorem suffix_addSource (known : List String) (state : State) :
    known <:+ addSource known state := by
  unfold addSource
  split
  · exact List.suffix_cons _ _
  · exact List.suffix_refl _

theorem suffix_addSources (sources : List State) (known : List String) :
    known <:+ addSources sources known := by
  induction sources generalizing known with
  | nil => exact List.suffix_refl _
  | cons source rest induction => exact (suffix_addSource known source).trans (induction _)

/-- A pass adds ids from which known ones are reached. -/
theorem forall_addSources {holds : String → Prop}
    (backwards : ∀ id next, Precedes states id next → holds next → holds id)
    (areStates : ∀ state ∈ sources, state ∈ states) (all : ∀ id ∈ known, holds id) :
    ∀ id ∈ addSources sources known, holds id := by
  induction sources generalizing known with
  | nil => exact all
  | cons source rest induction =>
      rcases List.forall_mem_cons.mp areStates with ⟨isState, areStates⟩
      refine induction areStates ?_
      unfold addSource
      split
      · rename_i adds
        rcases adds.2 with ⟨target, isTarget, isKnown⟩
        exact List.forall_mem_cons.mpr
          ⟨backwards _ _ ⟨source, isState, rfl, isTarget⟩ (all target isKnown), all⟩
      · exact all

/-- A pass that adds nothing has found the ids of all states with a known target. -/
theorem closed_of_addSources (same : (addSources sources known).length = known.length)
    {source : State} (isSource : source ∈ sources) {target : String}
    (isTarget : target ∈ source.targets) (isKnown : target ∈ known) : source.id ∈ known := by
  induction sources with
  | nil => cases isSource
  | cons head rest induction =>
      have first := suffix_addSource known head
      have later := suffix_addSources rest (addSource known head)
      have passes : addSources (head :: rest) known = addSources rest (addSource known head) := rfl
      have kept : addSource known head = known := by
        refine (first.eq_of_length_le ?_).symm
        rw [← same, passes]
        exact later.length_le
      rcases List.mem_cons.mp isSource with rfl | isLater
      · unfold addSource at kept
        split at kept
        · exact absurd (congrArg List.length kept) (by simp)
        · rename_i notAdded
          refine Decidable.byContradiction fun isNew => ?_
          exact notAdded ⟨isNew, target, isTarget, isKnown⟩
      · rw [passes, kept] at same
        exact induction same isLater

/-- Gathering finds the ids from which paths lead to the ones that are given. -/
theorem mem_gather_iff (states : List State) (known : List String) (id : String) :
    id ∈ gather states known ↔ ∃ goal ∈ known, ReflTransGen (Precedes states) id goal := by
  induction known using gather.induct states with
  | case1 known same =>
      rw [gather, if_pos same]
      constructor
      · exact fun isKnown => ⟨id, isKnown, .refl⟩
      · rintro ⟨goal, isKnown, path⟩
        induction path using ReflTransGen.head_induction_on with
        | refl => exact isKnown
        | head precedes _ isKnown =>
            rcases precedes with ⟨state, isState, rfl, isTarget⟩
            exact closed_of_addSources same isState isTarget isKnown
  | case2 known grows induction =>
      rw [gather, if_neg grows, induction]
      constructor
      · rintro ⟨goal, isGathered, path⟩
        have leads : ∀ id ∈ addSources states known,
            ∃ goal ∈ known, ReflTransGen (Precedes states) id goal := by
          refine forall_addSources ?_ (fun _ isState => isState) fun id isKnown => ⟨id, isKnown, .refl⟩
          rintro id next precedes ⟨goal, isKnown, path⟩
          exact ⟨goal, isKnown, path.head precedes⟩
        rcases leads goal isGathered with ⟨last, isKnown, further⟩
        exact ⟨last, isKnown, path.trans further⟩
      · rintro ⟨goal, isKnown, path⟩
        exact ⟨goal, (suffix_addSources states known).subset isKnown, path⟩

end Backwards

theorem mem_terminating_iff (definition : Definition) (id : String) :
    id ∈ definition.terminating ↔
      ∃ final ∈ definition.states, final.type = .final ∧
        ReflTransGen (Precedes definition.states) id final.id := by
  rw [terminating, mem_gather_iff]
  simp only [List.mem_map, List.mem_filter, beq_iff_eq]
  constructor
  · rintro ⟨_, ⟨final, ⟨isState, isFinal⟩, rfl⟩, path⟩
    exact ⟨final, isState, isFinal, path⟩
  · rintro ⟨final, isState, isFinal, path⟩
    exact ⟨final.id, ⟨final, ⟨isState, isFinal⟩, rfl⟩, path⟩

/-! ## Paths between states -/

section Paths

variable {definition : Definition}

/-- An edge leads to each state whose id is a target. -/
def Edge (definition : Definition) (source next : State) : Prop :=
  next ∈ definition.states ∧ next.id ∈ source.targets

/-- A path of edges. -/
def Leads (definition : Definition) : State → State → Prop := ReflTransGen definition.Edge

def Distinct (definition : Definition) : Prop := (definition.states.map State.id).Nodup

namespace Distinct

theorem eq_of_id (distinct : definition.Distinct) {left right : State}
    (isLeft : left ∈ definition.states) (isRight : right ∈ definition.states)
    (sameId : left.id = right.id) : left = right :=
  List.inj_on_of_nodup_map distinct isLeft isRight sameId

theorem nodeAt? (distinct : definition.Distinct) {state : State}
    (isState : state ∈ definition.states) : definition.nodeAt? state.id = some state := by
  rcases Option.isSome_iff_exists.mp (nodeAt?_isSome isState) with ⟨other, found⟩
  rcases mem_of_nodeAt? found with ⟨isOther, sameId⟩
  rw [found, distinct.eq_of_id isOther isState sameId]

theorem standIn? (distinct : definition.Distinct) {initial state : State}
    (isInitial : initial ∈ definition.states) (isState : state ∈ definition.states) :
    definition.standIn? initial state.id = some state := by
  rcases exists_standIn? initial isState with ⟨other, stands⟩
  rcases mem_of_standIn? isInitial stands with ⟨isOther, sameId⟩
  rw [stands, distinct.eq_of_id isOther isState sameId]

theorem mem_reachable_iff (distinct : definition.Distinct) {initial state : State}
    (isInitial : definition.initialState? = some initial) (isState : state ∈ definition.states) :
    state.id ∈ definition.reachable ↔ definition.Leads initial state := by
  have initialIsState := mem_of_initialState? isInitial
  rw [Definition.mem_reachable_iff isInitial]
  constructor
  · intro path
    have leads (id : String) (path : ReflTransGen (definition.Adjoins initial) initial.id id) :
        ∃ reached ∈ definition.states, reached.id = id ∧ definition.Leads initial reached := by
      induction path with
      | refl => exact ⟨initial, initialIsState, rfl, .refl⟩
      | tail _ adjoins leads =>
          rcases leads with ⟨source, isSource, rfl, path⟩
          rcases adjoins with ⟨other, stands, isTarget, known⟩
          cases (distinct.standIn? initialIsState isSource).symm.trans stands
          rcases Option.isSome_iff_exists.mp known with ⟨next, found⟩
          rcases mem_of_nodeAt? found with ⟨isNext, rfl⟩
          exact ⟨next, isNext, rfl, path.tail ⟨isNext, isTarget⟩⟩
    rcases leads state.id path with ⟨reached, isReached, sameId, path⟩
    rwa [← distinct.eq_of_id isReached isState sameId]
  · intro path
    clear isState
    have adjoins : state ∈ definition.states ∧
        ReflTransGen (definition.Adjoins initial) initial.id state.id := by
      induction path with
      | refl => exact ⟨initialIsState, .refl⟩
      | tail _ edge adjoins =>
          have known := Option.isSome_iff_exists.mpr ⟨_, distinct.nodeAt? edge.1⟩
          exact ⟨edge.1, adjoins.2.tail
            ⟨_, distinct.standIn? initialIsState adjoins.1, edge.2, known⟩⟩
    exact adjoins.2

theorem mem_terminating_iff (distinct : definition.Distinct) {state : State}
    (isState : state ∈ definition.states) :
    state.id ∈ definition.terminating ↔
      ∃ final ∈ definition.states, final.type = .final ∧ definition.Leads state final := by
  rw [Definition.mem_terminating_iff]
  constructor
  · rintro ⟨final, finalIsState, isFinal, path⟩
    have leads (id : String) (path : ReflTransGen (Precedes definition.states) id final.id) :
        ∃ source ∈ definition.states, source.id = id ∧ definition.Leads source final := by
      induction path using ReflTransGen.head_induction_on with
      | refl => exact ⟨final, finalIsState, rfl, .refl⟩
      | head precedes _ leads =>
          rcases precedes with ⟨source, isSource, rfl, isTarget⟩
          rcases leads with ⟨next, isNext, rfl, path⟩
          exact ⟨source, isSource, rfl, path.head ⟨isNext, isTarget⟩⟩
    rcases leads state.id path with ⟨source, isSource, sameId, path⟩
    rw [distinct.eq_of_id isSource isState sameId] at path
    exact ⟨final, finalIsState, isFinal, path⟩
  · rintro ⟨final, finalIsState, isFinal, path⟩
    refine ⟨final, finalIsState, isFinal, ?_⟩
    induction path using ReflTransGen.head_induction_on with
    | refl => exact .refl
    | head edge _ precedes => exact (precedes edge.1).head ⟨_, isState, rfl, edge.2⟩

end Distinct

end Paths

/-! ## The issues of the graph -/

/-- Of a definition whose states have distinct ids the check reports each state that no path from the
initial state leads to, and then each state that such a path leads to but that has no path to a final
state, both in the order of declaration. -/
theorem graph_issues_are_exact {definition : Definition} (nonempty : definition.states ≠ [])
    (distinct : definition.Distinct) :
    ∃ initial, definition.initialState? = some initial ∧
      ∃ unreached stuck : List State,
        definition.graphIssues =
          (unreached.map State.id).map .unreachableState ++
            (stuck.map State.id).map .noPathToFinal ∧
        definition.graphIssues.Nodup ∧
        unreached.Sublist definition.states ∧
        stuck.Sublist definition.states ∧
        (∀ state, state ∈ unreached ↔
          state ∈ definition.states ∧ ¬definition.Leads initial state) ∧
        (∀ state, state ∈ stuck ↔
          state ∈ definition.states ∧ definition.Leads initial state ∧
            ¬∃ final ∈ definition.states, final.type = .final ∧ definition.Leads state final) := by
  rcases exists_initialState? nonempty with ⟨initial, isInitial⟩
  let unreached := definition.states.filter fun state => !definition.reachable.contains state.id
  let stuck := definition.states.filter fun state =>
    definition.reachable.contains state.id && !definition.terminating.contains state.id
  have reports : definition.graphIssues = (unreached.map State.id).map .unreachableState ++
      (stuck.map State.id).map .noPathToFinal := by
    rw [List.map_map, List.map_map]
    rfl
  have unreachedOnce : (unreached.map State.id).Nodup :=
    distinct.sublist (List.filter_sublist.map State.id)
  have stuckOnce : (stuck.map State.id).Nodup := distinct.sublist (List.filter_sublist.map State.id)
  refine ⟨initial, isInitial, unreached, stuck, reports, ?once, List.filter_sublist,
    List.filter_sublist, ?unreached, ?stuck⟩
  case once =>
    rw [reports, List.nodup_append]
    refine ⟨unreachedOnce.map ?_, stuckOnce.map ?_, ?_⟩
    · exact fun _ _ => DefinitionIssue.unreachableState.inj
    · exact fun _ _ => DefinitionIssue.noPathToFinal.inj
    · simp
  case unreached =>
    intro state
    rw [List.mem_filter]
    refine and_congr_right fun isState => ?_
    rw [← distinct.mem_reachable_iff isInitial isState]
    simp
  case stuck =>
    intro state
    rw [List.mem_filter]
    refine and_congr_right fun isState => ?_
    rw [← distinct.mem_reachable_iff isInitial isState, ← distinct.mem_terminating_iff isState]
    simp

end Definition

namespace Sample

/-- A menu and a processing state that lead to each other and to no other state. -/
def circling : Definition :=
  let leading (target : String) : Transition :=
    { input := some "1", condition := none, nextState := target, value := none, message := none }
  definition [
    state "lost" .processing none [leading "end"],
    state "menu" .menu none [leading "work", leading "nowhere"],
    state "work" .processing none [leading "menu"],
    state "end" .final none []]

end Sample

theorem circling_menu_reaches_no_end :
    Sample.circling.states ≠ [] ∧ Sample.circling.Distinct ∧
    Sample.circling.graphIssues =
      [.unreachableState "lost", .unreachableState "end", .noPathToFinal "menu",
        .noPathToFinal "work"] ∧
    ∃ menu, Sample.circling.initialState? = some menu ∧ menu.id = "menu" ∧
      ∀ final ∈ Sample.circling.states, final.type = .final → ¬Sample.circling.Leads menu final := by
  have nonempty : Sample.circling.states ≠ [] := List.cons_ne_nil _ _
  have distinct : Sample.circling.Distinct := by unfold Definition.Distinct; decide
  have reports : Sample.circling.graphIssues =
      [.unreachableState "lost", .unreachableState "end", .noPathToFinal "menu",
        .noPathToFinal "work"] := by decide +kernel
  rcases Definition.graph_issues_are_exact nonempty distinct with
    ⟨menu, isInitial, unreached, stuck, lists, -, -, -, -, isStuck⟩
  have isMenu : menu.id = "menu" := by
    cases isInitial
    rfl
  refine ⟨nonempty, distinct, reports, menu, isInitial, isMenu, fun final isState isFinal leads => ?_⟩
  have reported : .noPathToFinal "menu" ∈ Sample.circling.graphIssues := by simp [reports]
  have named : ∃ state ∈ stuck, state.id = "menu" := by simpa [lists] using reported
  rcases named with ⟨state, isMember, isNamed⟩
  rcases (isStuck state).mp isMember with ⟨stateIsState, -, endless⟩
  have same := distinct.eq_of_id stateIsState (Definition.mem_of_initialState? isInitial)
    (isNamed.trans isMenu.symm)
  exact endless ⟨final, isState, isFinal, same ▸ leads⟩

end Ussd
