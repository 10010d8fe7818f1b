import Ussd.Gateway.Services
import Ussd.Proofs.Run
import Ussd.Proofs.Stores

/-! # Loading definitions

A gateway reads a definition once and keeps it. While the catalogue stays as it is, a kept
definition is the one that would be read, so that loading gives what the catalogue says and nobody
can tell from its result whether the definition had been kept. -/

namespace Ussd

namespace Catalogue

/-- Every service is listed under its own code. -/
def Keyed (catalogue : Catalogue) : Prop :=
  ∀ code record, Table.get? catalogue code = some record → record.code = code

theorem Keyed.add {catalogue : Catalogue} (keyed : catalogue.Keyed) (record : ServiceRecord) :
    (catalogue.add record).Keyed := by
  intro code found listed
  unfold Catalogue.add at listed
  rcases Decidable.em (code = record.code) with equal | different
  · subst equal
    rw [Table.get?_insert_same] at listed
    cases listed
    rfl
  · rw [Table.get?_insert_other _ _ _ _ different] at listed
    exact keyed code found listed

theorem Keyed.addAll {catalogue : Catalogue} (keyed : catalogue.Keyed)
    (records : List ServiceRecord) : (records.foldl Catalogue.add catalogue).Keyed := by
  induction records generalizing catalogue with
  | nil => exact keyed
  | cons record rest induction => exact induction (keyed.add record)

/-- What the catalogue says about the definition of a service. -/
def definition? (catalogue : Catalogue) (code : String) : Except LoadFault Definition :=
  match Table.get? catalogue code with
  | none => .error (.unknown code)
  | some record =>
    if !record.isActive then .error (.disabled code)
    else
      match Definition.ofText? record.definitionText with
      | none => .error (.illegible record.code record.definitionText)
      | some definition => .ok definition

/-- The kept definitions are those of the catalogue. -/
def Agrees (catalogue : Catalogue) (cache : Table Definition) : Prop :=
  ∀ code definition, Table.get? cache code = some definition →
    catalogue.definition? code = .ok definition

theorem Agrees.insert {catalogue : Catalogue} {cache : Table Definition}
    (agrees : catalogue.Agrees cache) {code : String} {definition : Definition}
    (defined : catalogue.definition? code = .ok definition) :
    catalogue.Agrees (cache.insert code definition) := by
  intro other kept found
  rcases Decidable.em (other = code) with rfl | different
  · rw [Table.get?_insert_same] at found
    cases found
    exact defined
  · rw [Table.get?_insert_other _ _ _ _ different] at found
    exact agrees other kept found

def cacheAfter (catalogue : Catalogue) (cache : Table Definition) (code : String) :
    Table Definition :=
  match Table.get? cache code, catalogue.definition? code with
  | none, .ok definition => cache.insert code definition
  | _, _ => cache

theorem Agrees.cacheAfter {catalogue : Catalogue} {cache : Table Definition}
    (agrees : catalogue.Agrees cache) (code : String) :
    catalogue.Agrees (catalogue.cacheAfter cache code) := by
  unfold Catalogue.cacheAfter
  split
  · rename_i defined
    exact agrees.insert defined
  · exact agrees

end Catalogue

/-! ## States of a definition -/

namespace Definition

theorem state?_id {definition : Definition} {id : String} {state : State}
    (found : definition.state? id = some state) : state.id = id := by
  simpa using List.find?_some found

theorem mem_of_initialState? {definition : Definition} {state : State}
    (isInitial : definition.initialState? = some state) : state ∈ definition.states := by
  unfold initialState? at isInitial
  split at isInitial
  · rename_i flagged
    cases isInitial
    exact List.mem_of_find?_eq_some flagged
  · exact List.mem_of_mem_head? isInitial

theorem exists_initialState? {definition : Definition} (nonempty : definition.states ≠ []) :
    ∃ state, definition.initialState? = some state := by
  unfold initialState?
  split
  · exact ⟨_, rfl⟩
  · exact ⟨_, List.head?_eq_some_head nonempty⟩

end Definition

variable {β : Type} {setting : Setting}

theorem on_startState? {ε : Type} (definition : Definition) (gateway : Gateway β) :
    ∃ events, (startState? definition : Run β ε (Option State)).on gateway =
      (.ok definition.initialState?, { gateway with log := gateway.log ++ events }) := by
  unfold startState?
  split
  · exact ⟨_, (Run.on_bind _ _ gateway).trans rfl⟩
  · exact ⟨[], by simp⟩

/-! ## Loading -/

theorem mapError_eq_ok {error other value : Type} {change : error → other}
    {result : Except error value} {found : value} :
    result.mapError change = .ok found ↔ result = .ok found := by
  cases result with
  | error fault =>
      constructor
      · intro equal
        cases equal
      · intro equal
        cases equal
  | ok value => exact ⟨fun equal => congrArg Except.ok (Except.ok.inj equal), congrArg _⟩

theorem on_readDefinition (setting : Setting) (record : ServiceRecord) (gateway : Gateway β) :
    ∃ events, (readDefinition setting record).on gateway =
      (match Definition.ofText? record.definitionText with
        | none =>
          .error ((LoadFault.illegible record.code record.definitionText).fault setting)
        | some definition => .ok definition,
        { gateway with log := gateway.log ++ events }) := by
  unfold readDefinition
  cases Definition.ofText? record.definitionText with
  | none => exact ⟨[], by simp⟩
  | some definition =>
      simp only [Run.on_bind, Run.on_noteAll, Run.on_pure, List.append_assoc]
      exact ⟨_, rfl⟩

/-- Loading changes nothing but the kept definitions. -/
theorem on_loadDefinition_frame (setting : Setting) (code : String) (gateway : Gateway β) :
    ∃ result cache events, (loadDefinition setting code).on gateway =
      (result, { gateway with cache := cache, log := gateway.log ++ events }) := by
  unfold loadDefinition
  simp only [Run.on_bind, Run.on_get]
  cases Table.get? gateway.cache code with
  | some definition => exact ⟨.ok definition, gateway.cache, [], by simp⟩
  | none =>
      cases outage : setting.outage .getService with
      | some reason =>
          simp only [Run.on_bind, on_requireOrder_of_some outage]
          exact ⟨_, gateway.cache, [], by simp; rfl⟩
      | none =>
          simp only [Run.on_bind, on_requireOrder_of_none outage, Run.on_get]
          cases Table.get? gateway.catalogue code with
          | none => exact ⟨_, gateway.cache, [], by simp; rfl⟩
          | some record =>
              cases active : record.isActive with
              | false => exact ⟨.error _, gateway.cache, [], by simp [active]; rfl⟩
              | true =>
                  rcases on_readDefinition setting record gateway with ⟨events, reads⟩
                  simp only [active, Bool.not_true, Bool.false_eq_true, if_false, Run.on_bind, reads]
                  cases Definition.ofText? record.definitionText with
                  | none => exact ⟨_, gateway.cache, events, rfl⟩
                  | some definition =>
                      simp only [Run.on_modify, Run.on_note, Run.on_pure, List.append_assoc]
                      exact ⟨_, _, _, rfl⟩

/-- What a service is loaded as: the definition that is kept, or else what the catalogue says. -/
def Gateway.definition? (gateway : Gateway β) (code : String) : Except LoadFault Definition :=
  match Table.get? gateway.cache code with
  | some definition => .ok definition
  | none => gateway.catalogue.definition? code

theorem Gateway.definition?_of_agrees {gateway : Gateway β}
    (agrees : gateway.catalogue.Agrees gateway.cache) (code : String) :
    gateway.definition? code = gateway.catalogue.definition? code := by
  unfold Gateway.definition?
  cases kept : Table.get? gateway.cache code with
  | some definition => exact (agrees code definition kept).symm
  | none => rfl

/-- Where services can be read, the catalogue is asked for what is not kept, and what it gives is
kept. -/
theorem on_loadDefinition_of_keyed (readable : setting.outage .getService = none)
    {gateway : Gateway β} (keyed : gateway.catalogue.Keyed) (code : String) :
    ∃ events, (loadDefinition setting code).on gateway =
      ((gateway.definition? code).mapError (LoadFault.fault setting),
        { gateway with
          cache := gateway.catalogue.cacheAfter gateway.cache code
          log := gateway.log ++ events }) := by
  unfold loadDefinition Catalogue.cacheAfter Gateway.definition?
  simp only [Run.on_bind, Run.on_get]
  cases kept : Table.get? gateway.cache code with
  | some definition => exact ⟨[], by rw [List.append_nil]; rfl⟩
  | none =>
      simp only [Run.on_bind, on_requireOrder_of_none readable, Run.on_get]
      unfold Catalogue.definition?
      cases listed : Table.get? gateway.catalogue code with
      | none => exact ⟨[], by rw [List.append_nil]; rfl⟩
      | some record =>
          have sameCode := keyed code record listed
          cases active : record.isActive with
          | false => exact ⟨[], by rw [List.append_nil]; simp only [active]; rfl⟩
          | true =>
              rcases on_readDefinition setting record gateway with ⟨events, reads⟩
              simp only [active, Bool.not_true, Bool.false_eq_true, if_false, Run.on_bind, reads]
              cases Definition.ofText? record.definitionText with
              | none => exact ⟨events, rfl⟩
              | some definition =>
                  simp only [Run.on_modify, Run.on_note, Run.on_pure, List.append_assoc, sameCode]
                  exact ⟨_, rfl⟩

theorem on_loadDefinition_of_none (readable : setting.outage .getService = none)
    {gateway : Gateway β} (keyed : gateway.catalogue.Keyed)
    (agrees : gateway.catalogue.Agrees gateway.cache)
    (code : String) :
    ∃ events, (loadDefinition setting code).on gateway =
      ((gateway.catalogue.definition? code).mapError (LoadFault.fault setting),
        { gateway with
          cache := gateway.catalogue.cacheAfter gateway.cache code
          log := gateway.log ++ events }) := by
  rw [← Gateway.definition?_of_agrees agrees code]
  exact on_loadDefinition_of_keyed readable keyed code

theorem on_loadDefinition (inOrder : setting.InOrder) {gateway : Gateway β}
    (keyed : gateway.catalogue.Keyed) (agrees : gateway.catalogue.Agrees gateway.cache)
    (code : String) :
    ∃ events, (loadDefinition setting code).on gateway =
      ((gateway.catalogue.definition? code).mapError (LoadFault.fault setting),
        { gateway with
          cache := gateway.catalogue.cacheAfter gateway.cache code
          log := gateway.log ++ events }) :=
  on_loadDefinition_of_none (inOrder .getService (by decide)) keyed agrees code

/-- Whether or not services can be read, what is loaded is what the catalogue says. -/
theorem loadDefinition_cases (setting : Setting) {gateway : Gateway β}
    (keyed : gateway.catalogue.Keyed) (agrees : gateway.catalogue.Agrees gateway.cache)
    (code : String) :
    ∃ result cache events, (loadDefinition setting code).on gateway =
        (result, { gateway with cache := cache, log := gateway.log ++ events }) ∧
      gateway.catalogue.Agrees cache ∧
      ∀ definition, result = .ok definition →
        gateway.catalogue.definition? code = .ok definition := by
  cases outage : setting.outage .getService with
  | none =>
      rcases on_loadDefinition_of_none outage keyed agrees code with ⟨events, loads⟩
      exact ⟨_, _, events, loads, agrees.cacheAfter code, fun _ => mapError_eq_ok.mp⟩
  | some reason =>
      unfold loadDefinition
      simp only [Run.on_bind, Run.on_get]
      cases kept : Table.get? gateway.cache code with
      | some definition =>
          refine ⟨.ok definition, gateway.cache, [], by simp, agrees, fun other loaded => ?_⟩
          cases loaded
          exact agrees code definition kept
      | none =>
          simp only [Run.on_bind, on_requireOrder_of_some outage]
          refine ⟨.error (.of .databaseError reason), gateway.cache, [], ?_, agrees, ?_⟩
          · rw [List.append_nil]
            rfl
          · intro definition loaded
            cases loaded

theorem on_loadDefinition_of_kept {gateway : Gateway β} {code : String} {definition : Definition}
    (kept : Table.get? gateway.cache code = some definition) :
    (loadDefinition setting code).on gateway = (.ok definition, gateway) := by
  unfold loadDefinition
  simp only [Run.on_bind, Run.on_get, kept, Run.on_pure]

/-- An active service whose definition is not kept is read from its text. -/
theorem load_of_listed (readable : setting.outage .getService = none) {gateway : Gateway β}
    {code : String} {record : ServiceRecord} (notKept : Table.get? gateway.cache code = none)
    (listed : Table.get? gateway.catalogue code = some record) (active : record.isActive) :
    ((loadDefinition setting code).on gateway).1.toOption =
      Definition.ofText? record.definitionText := by
  rcases on_readDefinition setting record gateway with ⟨events, readsRecord⟩
  unfold loadDefinition
  simp only [Run.on_bind, Run.on_get, notKept, on_requireOrder_of_none readable, listed, active,
    Bool.not_true, Bool.false_eq_true, if_false, readsRecord]
  cases Definition.ofText? record.definitionText with
  | none => rfl
  | some definition =>
      simp only [Run.on_modify, Run.on_note, Run.on_pure]
      rfl

end Ussd
