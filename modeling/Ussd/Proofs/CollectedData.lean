import Ussd.Proofs.SessionLaw

/-! # Data that has been checked

A service may demand that what it collects under a key is checked before it is kept. The demand is
on the definition alone: whatever writes under the key, other than a question with a validation
rule, must not be there. Then no request and no answer of the backend makes a session of the service
hold anything else there. -/

namespace Ussd

/-! ## What a definition says about a key -/

/-- A question of the service that keeps its answers under the key accepts the value as it is. -/
def Definition.Accepts (definition : Definition) (key : String) (value : Json) : Prop :=
  ∃ state ∈ definition.states, ∃ rule text, state.type = .input ∧ state.storeAs = some key ∧
    state.validation = some rule ∧ value = .text text ∧ trimmed text = text ∧
      Validation.checkRule text rule = .ok ()

/-- The data hold nothing under the key, or else what a question of the service accepts. -/
def Definition.Collected (definition : Definition) (key : String) (data : Fields) : Prop :=
  ∀ value, Table.get? data key = some value → definition.Accepts key value

/-- Nothing that the action keeps in a session goes under the key. -/
def Action.Spares (key : String) : Action → Prop
  | .call request => ∀ mapping ∈ request.onSuccess.bind CallOutcome.responseMapping,
      ∀ entry ∈ mapping, entry.1 ≠ key
  | .access .load target => ∃ name ∈ target.storeAs, name ≠ key
  | _ => True

instance (key : String) : (action : Action) → Decidable (action.Spares key)
  | .call request => inferInstanceAs (Decidable (∀ mapping ∈
      request.onSuccess.bind CallOutcome.responseMapping, ∀ entry ∈ mapping, entry.1 ≠ key))
  | .access .load target => inferInstanceAs (Decidable (∃ name ∈ target.storeAs, name ≠ key))
  | .access .save _ | .access .append _ | .access .delete _ | .nothing => .isTrue trivial

/-- Only questions with a validation rule write under the key. -/
structure Definition.Guards (definition : Definition) (key : String) : Prop where
  questions : ∀ state ∈ definition.states, state.type = .input → state.storeAs = some key →
    state.validation ≠ none
  options : ∀ state ∈ definition.states, state.type = .menu ∨ state.type = .display →
    state.storeAs = some key → ∀ transition ∈ state.transitions, transition.value = none
  actions : ∀ state ∈ definition.states, ∀ action ∈ state.actions, action.Spares key

instance (definition : Definition) (key : String) : Decidable (definition.Guards key) :=
  decidable_of_iff
    ((∀ state ∈ definition.states, state.type = .input → state.storeAs = some key →
        state.validation ≠ none) ∧
      (∀ state ∈ definition.states, state.type = .menu ∨ state.type = .display →
        state.storeAs = some key → ∀ transition ∈ state.transitions, transition.value = none) ∧
      ∀ state ∈ definition.states, ∀ action ∈ state.actions, action.Spares key)
    ⟨fun ⟨questions, options, actions⟩ => ⟨questions, options, actions⟩,
      fun guards => ⟨guards.questions, guards.options, guards.actions⟩⟩

namespace Definition

theorem accepts_trimmed {definition : Definition} {key : String} {state : State}
    (isKnown : state ∈ definition.states) (isInput : state.type = .input)
    (named : state.storeAs = some key) {rule : ValidationRule}
    (ruled : state.validation = some rule) {input : String}
    (accepted : Validation.checkRule input rule = .ok ()) :
    definition.Accepts key (.text (trimmed input)) :=
  ⟨state, isKnown, rule, trimmed input, isInput, named, ruled, rfl, trimmed_idempotent input,
    (Validation.checkRule_trimmed input rule).trans accepted⟩

theorem Collected.merge {definition : Definition} {key : String} {data : Fields}
    (collected : definition.Collected key data) {entries : Fields}
    (accepted : ∀ entry ∈ entries, entry.1 = key → definition.Accepts key entry.2) :
    definition.Collected key (Table.merge data entries) := by
  intro value found
  rcases Table.get?_merge_cases found with member | before
  · exact accepted (key, value) member rfl
  · exact collected value before

def guarding (definition : Definition) (key : String) : Permit where
  starts action := action.KeepsOnly fun name value =>
    definition.Guards key → name = key → definition.Accepts key value
  enters _ := True
  keeps name value := definition.Guards key → name = key → definition.Accepts key value
  kept _ started := started

theorem guarding_covers (definition : Definition) {key : String} (notError : key ≠ errorKey)
    {state : State} (isKnown : state ∈ definition.states) :
    (definition.guarding key).Covers state where
  entered := trivial
  started action isOwn := by
    cases action with
    | nothing => exact trivial
    | call request =>
        constructor
        · intro mapping maps entry member value guards isKey
          exact absurd isKey (guards.actions state isKnown _ isOwn mapping maps entry member)
        · intro reason guards isKey
          exact absurd isKey.symm notError
    | access operation target =>
        cases operation with
        | save | append | delete => exact trivial
        | load =>
            intro recordName value guards isKey
            rcases guards.actions state isKnown _ isOwn with ⟨name, named, other⟩
            rw [Option.mem_def.mp named] at isKey
            exact absurd isKey other
  chosen isMenu transition member value hasValue name named guards isKey := by
    subst isKey
    have nothing := guards.options state isKnown isMenu named transition member
    rw [nothing] at hasValue
    cases hasValue
  answered isInput input accepted name named guards isKey := by
    subst isKey
    cases ruled : state.validation with
    | none => exact absurd ruled (guards.questions state isKnown isInput named)
    | some rule => exact accepts_trimmed isKnown isInput named ruled (accepted rule ruled)

end Definition

/-! ## Sessions of a gateway -/

/-- If the service of the session guards the key, what the data hold under it has been checked. -/
def Session.Checked (catalogue : Catalogue) (key : String) (session : Session) : Prop :=
  ∀ definition, catalogue.definition? session.serviceCode = .ok definition →
    definition.Guards key → definition.Collected key session.data

theorem Session.checked_law (catalogue : Catalogue) {key : String} (notError : key ≠ errorKey) :
    SessionLaw catalogue (·.guarding key) (Session.Checked catalogue key) where
  covers _ definition _ _ isKnown := definition.guarding_covers notError isKnown
  begun _ _ _ _ _ _ _ _ _ _ _ _ value found := nomatch found
  merged session definition defined checked entries kept now other otherDefined guards := by
    cases defined.symm.trans otherDefined
    exact (checked definition defined guards).merge fun entry member =>
      kept entry member guards
  moved _ _ _ checked _ _ _ := checked
  touched _ checked _ _ := checked
  ended _ checked _ := checked

/-- Whatever is requested and whatever the backend answers: where only questions with a validation
rule write under a key, sessions of the service hold nothing else there than trimmed texts that such
a question accepts. -/
theorem collected_data_is_checked {β : Type} [Backend β] {key : String} (notError : key ≠ errorKey)
    (services : List ServiceRecord) (records : RecordStore) (backend : β)
    (steps : List (Setting × Step)) :
    let gateway := Step.takeEach (Gateway.opened services records backend) steps
    ∀ id session, Table.get? gateway.sessions id = some session →
      ∀ setting definition,
        ((loadDefinition setting session.serviceCode).on gateway).1 = .ok definition →
          definition.Guards key → definition.Collected key session.data := by
  intro gateway id session found setting definition loads guards
  have law := Session.checked_law (services.foldl Catalogue.add []) notError
  have orderly : gateway.Orderly (services.foldl Catalogue.add []) _ :=
    law.orderly_takeEach steps (.opened services records backend)
  have defined : (services.foldl Catalogue.add []).definition? session.serviceCode =
      .ok definition := by
    rcases loadDefinition_cases setting orderly.sound.listed orderly.sound.agrees
      session.serviceCode with ⟨result, cache, events, equation, -, ofCatalogue⟩
    rw [equation] at loads
    exact orderly.services ▸ ofCatalogue definition loads
  exact orderly.sessions id session found definition defined guards

namespace Sample

def ageService : ServiceRecord :=
  service "age" "*3#" ("\"states\":[\x7b\"id\":\"ask\",\"type\":\"INPUT\"," ++
    "\"storeAs\":\"age\",\"validation\":\x7b\"type\":\"NUMERIC\"\x7d," ++
    "\"transitions\":[\x7b\"condition\":\"VALID\",\"nextState\":\"end\"\x7d]\x7d," ++
    "\x7b\"id\":\"end\",\"type\":\"FINAL\"\x7d]")

/-- A first visit, an answer that is refused and one that is kept without its blanks. -/
def answers : List (Setting × Step) :=
  [(setting, .request (visit 1000 (some "x") "237" "*3#" "")),
    (setting, .request (visit 1001 (some "x") "237" "*3#" "old")),
    (setting, .request (visit 1002 (some "x") "237" "*3#" " 42 "))]

def answered : Gateway ScriptedBackend :=
  Step.takeEach (Gateway.opened [ageService] [] backend) answers

end Sample

theorem kept_age_is_checked :
    "age" ≠ errorKey ∧
    ∃ session definition, Table.get? Sample.answered.sessions "x" = some session ∧
      ((loadDefinition Sample.setting session.serviceCode).on Sample.answered).1 =
        .ok definition ∧
      definition.Guards "age" ∧ Table.get? session.data "age" = some (.text "42") ∧
      definition.Accepts "age" (.text "42") := by
  have notError : "age" ≠ errorKey := by decide
  have evaluated : (Table.get? Sample.answered.sessions "x").map (fun session =>
      ((Table.get? session.data "age").bind Json.text?,
        ((loadDefinition Sample.setting session.serviceCode).on Sample.answered).1.toOption.map
          fun definition => decide (definition.Guards "age"))) = some (some "42", some true) := by
    decide +kernel
  rcases Option.map_eq_some_iff.mp evaluated with ⟨session, found, parts⟩
  rcases Prod.mk.inj parts with ⟨kept, guarded⟩
  rcases Option.bind_eq_some_iff.mp kept with ⟨value, collected, isText⟩
  rcases Option.map_eq_some_iff.mp guarded with ⟨definition, loaded, guards⟩
  have isAge : value = .text "42" := by
    cases value <;> cases isText
    rfl
  have loads : ((loadDefinition Sample.setting session.serviceCode).on Sample.answered).1 =
      .ok definition := by
    cases result : ((loadDefinition Sample.setting session.serviceCode).on Sample.answered).1 with
    | error fault => rw [result] at loaded; cases loaded
    | ok other => rw [result] at loaded; cases loaded; rfl
  subst isAge
  have isChecked := collected_data_is_checked notError [Sample.ageService] [] Sample.backend
    Sample.answers "x" session found Sample.setting definition loads (of_decide_eq_true guards)
  exact ⟨notError, session, definition, found, loads, of_decide_eq_true guards, collected,
    isChecked _ collected⟩

end Ussd
