import Ussd.Proofs.Conversation
import Ussd.Proofs.JsonText
import Ussd.Proofs.NormalForm

/-! # Registering a service

A definition that is registered is kept in the catalogue as the text of its normal form, and is read
from there when the service is first needed. The normal form always decodes to the definition. What
may fail is the way over the text: a double may be read as a neighbour of the one that was written,
and a value that is nested too deeply is not read at all. -/

namespace Ussd

namespace Definition

theorem ofJson?_eq_some {value : Json} {definition : Definition} :
    ofJson? value = some definition ↔ decode (.ofJson value) = .ok definition :=
  toOption_eq_some

/-- The normal form of what a value denotes denotes the same. -/
theorem ofJson?_toJson {value : Json} {definition : Definition}
    (denoted : ofJson? value = some definition) : ofJson? definition.toJson = some definition := by
  have decoded := ofJson?_eq_some.mp denoted
  exact ofJson?_eq_some.mpr (roundTrips.again decoded)

theorem ofText?_toText (definition : Definition) :
    ofText? definition.toText = (decode (Json.readDocument definition.toJson.write)).toOption := by
  rw [ofText?, toText, Json.writeText, String.toList_ofList]

theorem ofText?_toText_of_legible {value : Json} {definition : Definition}
    (denoted : ofJson? value = some definition)
    (legible : ∀ number ∈ definition.toJson.numbers, number.Legible)
    (shallow : definition.toJson.depth ≤ Json.depthLimit) :
    ofText? definition.toText = some definition := by
  rw [ofText?_toText, Json.readDocument_write legible shallow]
  exact ofJson?_toJson denoted

end Definition

variable {β : Type} {setting : Setting}

theorem on_registerDefinition {node : Node} {definition : Definition}
    (reads : Definition.decode node = .ok definition) (gateway : Gateway β) :
    ∃ events, (registerDefinition node).on gateway =
      (.ok (), { gateway with
        catalogue := gateway.catalogue.register definition
        log := gateway.log ++ events }) := by
  unfold registerDefinition
  rw [reads]
  simp only [Run.on_bind, Run.on_noteAll, Run.on_modify]
  exact ⟨_, rfl⟩

theorem load_registered (readable : setting.outage .getService = none) (gateway : Gateway β)
    {node : Node} {definition : Definition} (reads : Definition.decode node = .ok definition)
    (notKept : Table.get? gateway.cache definition.serviceCode = none) :
    ((loadDefinition setting definition.serviceCode).on
        ((registerDefinition node).on gateway).2).1.toOption =
      Definition.ofText? definition.toText := by
  rcases on_registerDefinition reads gateway with ⟨events, registers⟩
  let registered : Gateway β :=
    { gateway with
      catalogue := gateway.catalogue.register definition
      log := gateway.log ++ events }
  have stillNotKept : Table.get? registered.cache definition.serviceCode = none := notKept
  have listed : Table.get? registered.catalogue definition.serviceCode =
      some (.ofDefinition definition) := Table.get?_insert_same _ _ _
  have active : (ServiceRecord.ofDefinition definition).isActive := rfl
  have loads := load_of_listed readable stillNotKept listed active
  rw [registers]
  exact loads

/-- The normal form of a definition that a value denotes is decoded to that definition, and so the
definition is written in the same form again. A service that is registered with it is loaded with
it, unless the gateway keeps an earlier definition of the service, the normal form contains a number
that is neither a whole number of 64 bits nor read as itself, or it is nested too deeply. -/
theorem registered_definition_is_loaded (readable : setting.outage .getService = none)
    (gateway : Gateway β) {value : Json} {definition : Definition}
    (denoted : Definition.ofJson? value = some definition) :
    Definition.ofJson? definition.toJson = some definition ∧
    (Definition.ofJson? definition.toJson).map Definition.toJson = some definition.toJson ∧
    ((registerDefinition (.ofJson value)).on gateway).1 = .ok () ∧
    ((∀ kept, Table.get? gateway.cache definition.serviceCode = some kept → kept = definition) →
      (∀ number ∈ definition.toJson.numbers, number.IsWord ∨ number.Legible) →
      definition.toJson.depth ≤ Json.depthLimit →
      ((loadDefinition setting definition.serviceCode).on
          ((registerDefinition (.ofJson value)).on gateway).2).1 = .ok definition) := by
  have reads := Definition.ofJson?_eq_some.mp denoted
  have again := Definition.ofJson?_toJson denoted
  rcases on_registerDefinition reads gateway with ⟨events, registers⟩
  refine ⟨again, by rw [again]; rfl, by rw [registers], fun noOther legible shallow => ?_⟩
  cases kept : Table.get? gateway.cache definition.serviceCode with
  | none =>
      have allLegible : ∀ number ∈ definition.toJson.numbers, number.Legible :=
        fun number member => (legible number member).elim Number.IsWord.legible id
      have loads := load_registered readable gateway reads kept
      rw [Definition.ofText?_toText_of_legible denoted allLegible shallow] at loads
      exact toOption_eq_some.mp loads
  | some other =>
      obtain rfl := noOther other kept
      have stillKept :
          Table.get? ((registerDefinition (.ofJson value)).on gateway).2.cache other.serviceCode =
            some other := by
        rw [registers]
        exact kept
      rw [on_loadDefinition_of_kept stillKept]

namespace Sample

/-- Types in other words, a condition with blanks, a transition and an action as lists, options that
are null, a whole number and two bounds. -/
def lenientService : Json :=
  .object [("description", .null), ("serviceCode", .text "lenient"),
    ("sessionConfig", .object [("timeoutSeconds", .number (.whole 60))]),
    ("states", .list [
      .object [("action", .list [.text "STORAGE_LOAD", .text "k"]), ("id", .text "a"),
        ("transitions", .list [.list [.null, .text " VALID ", .text "b"]]),
        ("type", .text " input form "),
        ("validation", .object [("max", .number (.whole 100)),
          ("min", .number (.double (.finite false 6755399441055744 (-52))))])],
      .object [("id", .text "b"), ("type", .text "Final")]])]

end Sample

/-- The bounds are written as `100.0` and `1.5`, and can be read. -/
theorem lenient_service_is_loaded :
    Sample.setting.outage .getService = none ∧
    ∃ definition, Definition.ofJson? Sample.lenientService = some definition ∧
      definition.states.map State.type = [.input, .final] ∧
      definition.toJson.numbers.length = 3 ∧
      Table.get? (Gateway.empty Sample.backend).cache definition.serviceCode = none ∧
      (∀ number ∈ definition.toJson.numbers, number.IsWord ∨ number.Legible) ∧
      definition.toJson.depth ≤ Json.depthLimit ∧
      Definition.ofJson? definition.toJson = some definition ∧
      ((loadDefinition Sample.setting definition.serviceCode).on
          ((registerDefinition (.ofJson Sample.lenientService)).on
            (Gateway.empty Sample.backend)).2).1 = .ok definition := by
  have evaluated : (Definition.ofJson? Sample.lenientService).map (fun definition =>
      (definition.states.map State.type, definition.toJson.numbers.length,
        decide (∀ number ∈ definition.toJson.numbers, number.IsWord ∨ number.Legible),
        decide (definition.toJson.depth ≤ Json.depthLimit))) =
      some ([.input, .final], 3, true, true) := by
    decide +kernel
  rcases Option.map_eq_some_iff.mp evaluated with ⟨definition, denoted, parts⟩
  simp only [Prod.mk.injEq, decide_eq_true_eq] at parts
  rcases parts with ⟨types, bounds, legible, shallow⟩
  have readable : Sample.setting.outage .getService = none := rfl
  rcases registered_definition_is_loaded readable (Gateway.empty Sample.backend) denoted with
    ⟨again, -, -, loads⟩
  exact ⟨readable, definition, denoted, types, bounds, rfl, legible, shallow, again,
    loads (fun _ kept => nomatch kept) legible shallow⟩

namespace Sample

def bare (fields : List (String × Json)) : Json := .object (("serviceCode", .text "bare") :: fields)

/-- The bound is the double that the numeral `5e32` is read as, which is not the nearest one. -/
def boundedService : Json :=
  bare [("states", .list [.object [("id", .text "a"), ("type", .text "INPUT"),
    ("validation", .object [("min", .number (.double (.finite false 6938893903907229 56)))])]])]

/-- A value below 123 lists, which stand inside five others. -/
def deepService : Json :=
  bare [("states", .list [.object [("id", .text "a"), ("transitions", .list [
      .object [("nextState", .text "a"),
        ("value", (List.range 123).foldl (fun inner _ => .list [inner]) .null)]]),
    ("type", .text "MENU")]])]

def bounds (definition : Definition) : List (Option Binary64) :=
  definition.states.map fun state => state.validation.bind ValidationRule.min

def registered (gateway : Gateway ScriptedBackend) (value : Json) : Gateway ScriptedBackend :=
  ((registerDefinition (.ofJson value)).on gateway).2

def loading (gateway : Gateway ScriptedBackend) : Except Fault Definition × Gateway ScriptedBackend :=
  (loadDefinition Sample.setting "bare").on gateway

theorem loading_registered {value : Json} {definition : Definition}
    (denoted : Definition.ofJson? value = some definition)
    (isBare : definition.serviceCode = "bare") :
    (loading (registered (Gateway.empty backend) value)).1.toOption =
      (Definition.decode (Json.readDocument definition.toJson.write)).toOption := by
  have readable : Sample.setting.outage .getService = none := rfl
  have loads := load_registered readable (Gateway.empty backend)
    (Definition.ofJson?_eq_some.mp denoted) rfl
  rw [isBare, Definition.ofText?_toText] at loads
  exact loads

end Sample

/-- The bound may be another one, the service may be missing, and an earlier definition may be
loaded in the place of the one that was registered. -/
theorem registered_definition_may_be_lost :
    let empty := Gateway.empty Sample.backend
    let keeping := (Sample.loading (Sample.registered empty (Sample.bare []))).2
    (∃ definition loaded, Definition.ofJson? Sample.boundedService = some definition ∧
      (Sample.loading (Sample.registered empty Sample.boundedService)).1 = .ok loaded ∧
      Sample.bounds loaded ≠ Sample.bounds definition) ∧
    (∃ definition, Definition.ofJson? Sample.deepService = some definition ∧
      (Sample.loading (Sample.registered empty Sample.deepService)).1.toOption = none) ∧
    ∃ definition loaded, Definition.ofJson? Sample.boundedService = some definition ∧
      (Sample.loading (Sample.registered keeping Sample.boundedService)).1 = .ok loaded ∧
      loaded.states.length ≠ definition.states.length := by
  intro empty keeping
  have boundedEvaluated : (Definition.ofJson? Sample.boundedService).map (fun definition =>
      (definition.serviceCode, Sample.bounds definition,
        (Definition.decode (Json.readDocument definition.toJson.write)).toOption.map
          Sample.bounds)) =
      some ("bare", [some (.finite false 6938893903907229 56)],
        some [some (.finite false 6938893903907228 56)]) := by
    decide +kernel
  have deepEvaluated : (Definition.ofJson? Sample.deepService).map (fun definition =>
      (definition.serviceCode,
        (Definition.decode (Json.readDocument definition.toJson.write)).toOption.isNone)) =
      some ("bare", true) := by
    decide +kernel
  have keptEvaluated :
      (Sample.loading (Sample.registered keeping Sample.boundedService)).1.toOption.map
        (fun loaded => loaded.states.length) = some 0 := by
    decide +kernel
  rcases Option.map_eq_some_iff.mp boundedEvaluated with ⟨bounded, denotesBounded, parts⟩
  simp only [Prod.mk.injEq] at parts
  rcases parts with ⟨isBare, bounds, loadedBounds⟩
  have oneState : bounded.states.length = 1 := by
    simpa [Sample.bounds] using congrArg List.length bounds
  rcases Option.map_eq_some_iff.mp loadedBounds with ⟨loaded, loads, otherBounds⟩
  rw [← Sample.loading_registered denotesBounded isBare] at loads
  rcases Option.map_eq_some_iff.mp deepEvaluated with ⟨deep, denotesDeep, parts⟩
  simp only [Prod.mk.injEq] at parts
  rcases parts with ⟨isBareToo, unread⟩
  rw [← Sample.loading_registered denotesDeep isBareToo, Option.isNone_iff_eq_none] at unread
  rcases Option.map_eq_some_iff.mp keptEvaluated with ⟨earlier, loadsEarlier, noState⟩
  refine ⟨⟨bounded, loaded, denotesBounded, toOption_eq_some.mp loads, ?_⟩,
    ⟨deep, denotesDeep, unread⟩, bounded, earlier, denotesBounded,
    toOption_eq_some.mp loadsEarlier, ?_⟩
  · rw [bounds, otherBounds]
    decide
  · rw [oneState, noState]
    decide

end Ussd
