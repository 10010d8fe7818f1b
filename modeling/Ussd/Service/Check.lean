import Ussd.Service.Definition
import Ussd.Text.Quoted
/-!
# Checking definitions

Faults of a definition that can be seen without running it. They are reported and do not keep the
service from being used. The graph of a definition has an edge from each state to every target that
is the id of a state: a state that no path from the initial state reaches is reported, and so is one
that is reached but has no path to a final state.
-/

namespace Ussd

def defaultScreenSize : Nat := 182

inductive DefinitionIssue where
  | noStates
  | noInitialState
  | multipleInitialStates (ids : List String)
  | duplicateStateId (id : String)
  | unknownTarget (id target : String)
  | messageTooLong (id : String) (length most : Nat)
  | missingValidTransition (id : String)
  | unreachableState (id : String)
  | noPathToFinal (id : String)
  deriving DecidableEq, Repr

namespace DefinitionIssue

def message : DefinitionIssue → String
  | .noStates => "definition has no states"
  | .noInitialState => "no initial state, the first state will be used"
  | .multipleInitialStates ids =>
    let shown := ids.map fun id => String.ofList (Text.quoted id.toList)
    "several initial states: [" ++ String.intercalate ", " shown ++ "]"
  | .duplicateStateId id => "duplicate state id '" ++ id ++ "'"
  | .unknownTarget id target => "state '" ++ id ++ "' targets unknown state '" ++ target ++ "'"
  | .messageTooLong id length most =>
    "state '" ++ id ++ "' message is " ++ toString length ++ " characters (max "
      ++ toString most ++ ")"
  | .missingValidTransition id => "input state '" ++ id ++ "' has no VALID transition"
  | .unreachableState id => "state '" ++ id ++ "' cannot be reached from the initial state"
  | .noPathToFinal id => "state '" ++ id ++ "' has no path to a FINAL state"

end DefinitionIssue

namespace Definition

/-! ## The graph -/

/-- The state that a target leads to in the graph; of several states with one id it is the last. -/
def nodeAt? (definition : Definition) (id : String) : Option State :=
  definition.states.reverse.find? (·.id == id)

def unknownCount (states : List State) (known : List String) : Nat :=
  states.countP fun state => state.id ∉ known

theorem unknownCount_lt {states : List State} {known : List String} {state : State}
    (isState : state ∈ states) (isNew : state.id ∉ known) :
    unknownCount states (state.id :: known) < unknownCount states known := by
  have less (others : List State) :
      unknownCount others (state.id :: known) ≤ unknownCount others known := by
    refine List.countP_mono_left fun other _ unknown => ?_
    rw [decide_eq_true_eq] at unknown ⊢
    exact fun isKnown => unknown (List.mem_cons_of_mem _ isKnown)
  obtain ⟨before, after, rfl⟩ := List.append_of_mem isState
  have lessBefore := less before
  have lessAfter := less after
  unfold unknownCount at lessBefore lessAfter ⊢
  rw [List.countP_append, List.countP_append, List.countP_cons_of_neg (by simp),
    List.countP_cons_of_pos (by simp [isNew])]
  omega

/-- A search under way: the ids that have been met, and the states whose targets have not been looked
at yet. -/
structure Search where
  met : List String
  waiting : List State

namespace Search

def visit (definition : Definition) (search : Search) (target : String) : Search :=
  match definition.nodeAt? target with
  | none => search
  | some next =>
    if next.id ∈ search.met then search
    else { met := next.id :: search.met, waiting := next :: search.waiting }

/-- No fewer than the states that the search has still to look at. -/
def size (definition : Definition) (search : Search) : Nat :=
  unknownCount definition.states search.met + search.waiting.length

theorem size_visit (definition : Definition) (search : Search) (target : String) :
    (search.visit definition target).size definition ≤ search.size definition := by
  unfold visit
  split
  · exact Nat.le_refl _
  · rename_i next found
    split
    · exact Nat.le_refl _
    · rename_i isNew
      have isState : next ∈ definition.states :=
        List.mem_reverse.mp (List.mem_of_find?_eq_some found)
      have fewer := unknownCount_lt isState isNew
      simp only [size, List.length_cons]
      omega

theorem size_visits (definition : Definition) (search : Search) (targets : List String) :
    (targets.foldl (visit definition) search).size definition ≤ search.size definition := by
  induction targets generalizing search with
  | nil => exact Nat.le_refl _
  | cons target rest induction =>
    exact Nat.le_trans (induction _) (size_visit definition search target)

end Search

def explore (definition : Definition) : Search → List String
  | { met, waiting := [] } => met
  | { met, waiting := state :: rest } =>
    explore definition (state.targets.foldl (Search.visit definition) { met, waiting := rest })
termination_by search => search.size definition
decreasing_by exact Nat.lt_succ_of_le (Search.size_visits definition { met, waiting := rest } _)

/-- The ids that paths from the initial state lead to. The initial state itself stands for its id,
also where a later state has the same id. -/
def reachable (definition : Definition) : List String :=
  match definition.initialState? with
  | none => []
  | some initial => explore definition { met := [initial.id], waiting := [initial] }

def addSource (known : List String) (state : State) : List String :=
  if state.id ∉ known ∧ ∃ target ∈ state.targets, target ∈ known then state.id :: known
  else known

def addSources (states : List State) (known : List String) : List String :=
  states.foldl addSource known

theorem addSources_cases {states sources : List State}
    (areStates : ∀ state ∈ sources, state ∈ states) (known : List String) :
    addSources sources known = known ∨
      unknownCount states (addSources sources known) < unknownCount states known := by
  induction sources generalizing known with
  | nil => exact .inl rfl
  | cons source rest induction =>
    obtain ⟨isState, areStates⟩ := List.forall_mem_cons.mp areStates
    have later := induction areStates (addSource known source)
    rw [addSources, List.foldl_cons, ← addSources]
    by_cases adds : source.id ∉ known ∧ ∃ target ∈ source.targets, target ∈ known
    · rw [addSource, if_pos adds] at later ⊢
      have fewer := unknownCount_lt isState adds.1
      rcases later with same | fewerLater
      · exact .inr (by rwa [same])
      · exact .inr (Nat.lt_trans fewerLater fewer)
    · rwa [addSource, if_neg adds] at later ⊢

def gather (states : List State) (known : List String) : List String :=
  if (addSources states known).length = known.length then known
  else gather states (addSources states known)
termination_by unknownCount states known
decreasing_by
  rename_i grows
  rcases addSources_cases (fun _ isState => isState) known with same | fewer
  · exact absurd (congrArg List.length same) grows
  · exact fewer

def terminating (definition : Definition) : List String :=
  gather definition.states
    ((definition.states.filter fun state => state.type == .final).map State.id)

def graphIssues (definition : Definition) : List DefinitionIssue :=
  let reachable := definition.reachable
  let terminating := definition.terminating
  (definition.states.filter fun state => !reachable.contains state.id).map
      (fun state => .unreachableState state.id)
    ++ (definition.states.filter fun state =>
        reachable.contains state.id && !terminating.contains state.id).map
      (fun state => .noPathToFinal state.id)

/-! ## All checks -/

def initialIssues (definition : Definition) : List DefinitionIssue :=
  match (definition.states.filter State.isInitial).map State.id with
  | [] => [.noInitialState]
  | [_] => []
  | ids => [.multipleInitialStates ids]

def duplicateIssues (seen : List String) : List State → List DefinitionIssue
  | [] => []
  | state :: rest =>
    if seen.contains state.id then .duplicateStateId state.id :: duplicateIssues seen rest
    else duplicateIssues (state.id :: seen) rest

def stateIssues (ids : List String) (mostCharacters : Nat) (state : State) :
    List DefinitionIssue :=
  let unknown := (state.targets.filter fun target => !ids.contains target).map
    (DefinitionIssue.unknownTarget state.id)
  let length := state.message.length
  let tooLong := if mostCharacters < length then
    [DefinitionIssue.messageTooLong state.id length mostCharacters] else []
  let missing := if state.type = .input ∧ (state.transitionFor? .valid).isNone then
    [DefinitionIssue.missingValidTransition state.id] else []
  unknown ++ tooLong ++ missing

def issues (definition : Definition) (mostCharacters : Nat) : List DefinitionIssue :=
  if definition.states.isEmpty then [.noStates]
  else
    let ids := definition.states.map State.id
    definition.initialIssues ++ duplicateIssues [] definition.states
      ++ definition.states.flatMap (stateIssues ids mostCharacters) ++ definition.graphIssues

end Definition

end Ussd
