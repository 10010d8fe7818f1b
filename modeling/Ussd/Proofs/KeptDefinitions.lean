import Mathlib.Data.List.Induction
import Ussd.Proofs.RoundTrip
import Ussd.Proofs.ServiceStart

/-! # Kept definitions

A definition that has been loaded is kept until it is forgotten, whatever becomes of its record in
the meantime. What is kept of a service depends on what happens to that service alone, so its history
tells what a load gives: the definition of a load that has not been forgotten since, or else what the
catalogue says now. -/

namespace Ussd

/-- What is done to the services of a gateway. -/
inductive ServiceStep where
  | add (record : ServiceRecord)
  | load (code : String)
  | forget (code : String)
  | forgetAll
  deriving DecidableEq, Repr, Inhabited

namespace ServiceStep

/-- After the step nothing is kept of the service. -/
def Forgets (step : ServiceStep) (code : String) : Prop := step = .forget code ∨ step = .forgetAll

def record? : ServiceStep → Option ServiceRecord
  | .add record => some record
  | _ => none

/-- What is kept of a service after the step, given the catalogue and what is kept of it before. -/
def kept (step : ServiceStep) (catalogue : Catalogue) (code : String) (old : Option Definition) :
    Option Definition :=
  match step with
  | .add _ => old
  | .load other => if other = code then old.or (catalogue.definition? code).toOption else old
  | .forget other => if other = code then none else old
  | .forgetAll => none

theorem kept_of_not_forgets {step : ServiceStep} {code : String} (stays : ¬step.Forgets code)
    (catalogue : Catalogue) (definition : Definition) :
    step.kept catalogue code (some definition) = some definition := by
  cases step with
  | add record => rfl
  | load other => simp [kept]
  | forget other =>
      have different : other ≠ code := fun same => stays (.inl (same ▸ rfl))
      simp [kept, different]
  | forgetAll => exact absurd (.inr rfl) stays

variable {β : Type} (setting : Setting)

def after (step : ServiceStep) (gateway : Gateway β) : Gateway β :=
  match step with
  | .add record => { gateway with catalogue := gateway.catalogue.add record }
  | .load code => ((loadDefinition setting code).on gateway).2
  | .forget code => ((forgetDefinition code : Run β Fault Unit).on gateway).2
  | .forgetAll => ((forgetDefinitions : Run β Fault Unit).on gateway).2

end ServiceStep

namespace Catalogue

/-- The catalogue after the steps, of which only those that add a record matter. -/
def afterSteps (catalogue : Catalogue) (steps : List ServiceStep) : Catalogue :=
  (steps.filterMap ServiceStep.record?).foldl Catalogue.add catalogue

theorem definition?_add_other (catalogue : Catalogue) {record : ServiceRecord} {code : String}
    (different : record.code ≠ code) :
    (catalogue.add record).definition? code = catalogue.definition? code := by
  rw [definition?, definition?, add, Table.get?_insert_other _ _ _ _ (Ne.symm different)]

theorem afterSteps_append (catalogue : Catalogue) (before behind : List ServiceStep) :
    catalogue.afterSteps (before ++ behind) = (catalogue.afterSteps before).afterSteps behind := by
  rw [afterSteps, afterSteps, afterSteps, List.filterMap_append, List.foldl_append]

/-- Records of other services do not matter to a service. -/
theorem definition?_afterSteps_of_other (catalogue : Catalogue) {steps : List ServiceStep}
    {code : String} (others : ∀ record, .add record ∈ steps → record.code ≠ code) :
    (catalogue.afterSteps steps).definition? code = catalogue.definition? code := by
  have different : ∀ record ∈ steps.filterMap ServiceStep.record?, record.code ≠ code := by
    intro record isAdded
    rcases List.mem_filterMap.mp isAdded with ⟨step, isStep, adds⟩
    cases step with
    | add other =>
        cases adds
        exact others record isStep
    | load | forget | forgetAll => cases adds
  rw [afterSteps]
  generalize steps.filterMap ServiceStep.record? = added at different
  induction added generalizing catalogue with
  | nil => rfl
  | cons record rest induction =>
      rcases List.forall_mem_cons.mp different with ⟨first, different⟩
      rw [List.foldl_cons, induction _ different, definition?_add_other catalogue first]

theorem get?_cacheAfter (catalogue : Catalogue) (cache : Table Definition) (loaded code : String) :
    Table.get? (catalogue.cacheAfter cache loaded) code =
      (ServiceStep.load loaded).kept catalogue code (Table.get? cache code) := by
  rw [cacheAfter, ServiceStep.kept]
  rcases Decidable.em (loaded = code) with rfl | different
  · cases kept : Table.get? cache loaded with
    | some definition => simp [kept]
    | none =>
        cases defined : catalogue.definition? loaded with
        | error fault => simp [kept, Except.toOption]
        | ok definition => simp [Table.get?_insert_same, Except.toOption]
  · rw [if_neg different]
    split
    · exact Table.get?_insert_other _ _ _ _ (Ne.symm different)
    · rfl

end Catalogue

namespace Gateway

variable {β : Type} (setting : Setting)

def afterSteps (gateway : Gateway β) (steps : List ServiceStep) : Gateway β :=
  steps.foldl (fun gateway step => step.after setting gateway) gateway

/-- What a service is loaded as after the steps. -/
def loadedAfter (gateway : Gateway β) (steps : List ServiceStep) (code : String) :
    Except Fault Definition :=
  ((loadDefinition setting code).on (gateway.afterSteps setting steps)).1

/-- Among the steps the service was loaded as the definition, and it was not forgotten since. -/
def Remembers (gateway : Gateway β) (steps : List ServiceStep) (code : String)
    (definition : Definition) : Prop :=
  ∃ earlier since, steps = earlier ++ .load code :: since ∧
    gateway.loadedAfter setting earlier code = .ok definition ∧
    ∀ step ∈ since, ¬step.Forgets code

/-- Among the steps the service was loaded while nothing was kept of it, the catalogue said the
definition, and it was not forgotten since. -/
def HasRead (gateway : Gateway β) (steps : List ServiceStep) (code : String)
    (definition : Definition) : Prop :=
  ∃ earlier since, steps = earlier ++ .load code :: since ∧
    Table.get? (gateway.afterSteps setting earlier).cache code = none ∧
    (gateway.catalogue.afterSteps earlier).definition? code = .ok definition ∧
    ∀ step ∈ since, ¬step.Forgets code

/-- Services are listed under their codes, and none is kept twice. -/
structure Tidy (gateway : Gateway β) : Prop where
  keyed : gateway.catalogue.Keyed
  ordered : Table.Ordered gateway.cache

variable {setting} (readable : setting.outage .getService = none) {gateway : Gateway β}
  (tidy : gateway.Tidy)

/-! ## What a step does -/

section Step

theorem catalogue_after (setting : Setting) (step : ServiceStep) (gateway : Gateway β) :
    (step.after setting gateway).catalogue = gateway.catalogue.afterSteps [step] := by
  cases step with
  | load code =>
      rcases on_loadDefinition_frame setting code gateway with ⟨result, cache, events, loads⟩
      rw [ServiceStep.after, loads]
      rfl
  | add | forget | forgetAll => rfl

include readable tidy

theorem cache_after_load (code : String) :
    ((ServiceStep.load code).after setting gateway).cache =
      gateway.catalogue.cacheAfter gateway.cache code := by
  rcases on_loadDefinition_of_keyed readable tidy.keyed code with ⟨events, loads⟩
  rw [ServiceStep.after, loads]

theorem Tidy.after (step : ServiceStep) : (step.after setting gateway).Tidy := by
  constructor
  · rw [catalogue_after]
    exact Catalogue.Keyed.addAll tidy.keyed _
  · cases step with
    | add record => exact tidy.ordered
    | load code =>
        rw [cache_after_load readable tidy, Catalogue.cacheAfter]
        split
        · exact tidy.ordered.insert _ _
        · exact tidy.ordered
    | forget code => exact tidy.ordered.erase code
    | forgetAll => exact Table.ordered_nil

/-- What is kept of a service depends on the step, the catalogue and what was kept of it before. -/
theorem kept_after (step : ServiceStep) (code : String) :
    Table.get? (step.after setting gateway).cache code =
      step.kept gateway.catalogue code (Table.get? gateway.cache code) := by
  cases step with
  | add record => rfl
  | load loaded => rw [cache_after_load readable tidy, Catalogue.get?_cacheAfter]
  | forget forgotten =>
      have erases : ((ServiceStep.forget forgotten).after setting gateway).cache =
          Table.erase gateway.cache forgotten := rfl
      rw [erases, ServiceStep.kept]
      split
      · rename_i same
        rw [same, tidy.ordered.get?_erase_same]
      · rename_i different
        exact Table.get?_erase_other _ (Ne.symm different)
  | forgetAll => rfl

theorem kept_after_load (code : String) :
    Table.get? ((ServiceStep.load code).after setting gateway).cache code =
      (gateway.definition? code).toOption := by
  rw [kept_after readable tidy, ServiceStep.kept, if_pos rfl, Gateway.definition?]
  cases Table.get? gateway.cache code <;> rfl

end Step

/-! ## Many steps -/

section Steps

theorem afterSteps_append (gateway : Gateway β) (before behind : List ServiceStep) :
    gateway.afterSteps setting (before ++ behind) =
      (gateway.afterSteps setting before).afterSteps setting behind :=
  List.foldl_append

theorem catalogue_afterSteps (setting : Setting) (gateway : Gateway β) (steps : List ServiceStep) :
    (gateway.afterSteps setting steps).catalogue = gateway.catalogue.afterSteps steps := by
  induction steps generalizing gateway with
  | nil => rfl
  | cons step rest induction =>
      rw [afterSteps, List.foldl_cons, ← afterSteps, induction, catalogue_after,
        ← Catalogue.afterSteps_append, List.singleton_append]

include readable tidy

theorem Tidy.afterSteps (steps : List ServiceStep) : (gateway.afterSteps setting steps).Tidy := by
  induction steps generalizing gateway with
  | nil => exact tidy
  | cons step rest induction => exact induction (tidy.after readable step)

theorem loadedAfter_eq (steps : List ServiceStep) (code : String) :
    gateway.loadedAfter setting steps code =
      ((gateway.afterSteps setting steps).definition? code).mapError (LoadFault.fault setting) := by
  rcases on_loadDefinition_of_keyed readable (tidy.afterSteps readable steps).keyed code with
    ⟨events, loads⟩
  rw [loadedAfter, loads]

theorem loadedAfter_of_kept {steps : List ServiceStep} {code : String} {definition : Definition}
    (kept : Table.get? (gateway.afterSteps setting steps).cache code = some definition) :
    gateway.loadedAfter setting steps code = .ok definition := by
  rw [loadedAfter_eq readable tidy, Gateway.definition?, kept]
  rfl

theorem loadedAfter_of_not_kept {steps : List ServiceStep} {code : String}
    (notKept : Table.get? (gateway.afterSteps setting steps).cache code = none) :
    gateway.loadedAfter setting steps code =
      ((gateway.catalogue.afterSteps steps).definition? code).mapError
        (LoadFault.fault setting) := by
  rw [loadedAfter_eq readable tidy, Gateway.definition?, notKept, catalogue_afterSteps]

theorem kept_afterSteps_concat (steps : List ServiceStep) (step : ServiceStep) (code : String) :
    Table.get? (gateway.afterSteps setting (steps ++ [step])).cache code =
      step.kept (gateway.catalogue.afterSteps steps) code
        (Table.get? (gateway.afterSteps setting steps).cache code) := by
  rw [afterSteps_append, ← catalogue_afterSteps setting]
  exact kept_after readable (tidy.afterSteps readable steps) step code

theorem kept_of_not_forgotten {code : String} {definition : Definition}
    (kept : Table.get? gateway.cache code = some definition) {since : List ServiceStep}
    (stays : ∀ step ∈ since, ¬step.Forgets code) :
    Table.get? (gateway.afterSteps setting since).cache code = some definition := by
  induction since generalizing gateway with
  | nil => exact kept
  | cons step rest induction =>
      rcases List.forall_mem_cons.mp stays with ⟨first, others⟩
      refine induction (tidy.after readable step) ?_ others
      rw [kept_after readable tidy, kept, ServiceStep.kept_of_not_forgets first]

theorem kept_of_remembers {steps : List ServiceStep} {code : String} {definition : Definition}
    (remembers : gateway.Remembers setting steps code definition) :
    Table.get? (gateway.afterSteps setting steps).cache code = some definition := by
  rcases remembers with ⟨earlier, since, split, loaded, notForgotten⟩
  have before := tidy.afterSteps readable earlier
  rw [loadedAfter_eq readable tidy, mapError_eq_ok] at loaded
  rw [split, afterSteps_append]
  apply kept_of_not_forgotten readable (before.after readable (.load code)) _ notForgotten
  rw [kept_after_load readable before, loaded]
  rfl

/-! ### Where a kept definition comes from -/

section Reading

variable {steps : List ServiceStep} {code : String} {definition : Definition}

omit readable tidy in
theorem HasRead.concat (hasRead : gateway.HasRead setting steps code definition)
    {step : ServiceStep} (stays : ¬step.Forgets code) :
    gateway.HasRead setting (steps ++ [step]) code definition := by
  rcases hasRead with ⟨earlier, since, split, notKept, read, notForgotten⟩
  refine ⟨earlier, since ++ [step], by rw [split]; simp, notKept, read, ?_⟩
  exact List.forall_mem_append.mpr ⟨notForgotten, List.forall_mem_singleton.mpr stays⟩

theorem HasRead.remembers (hasRead : gateway.HasRead setting steps code definition) :
    gateway.Remembers setting steps code definition := by
  rcases hasRead with ⟨earlier, since, split, notKept, read, notForgotten⟩
  have loaded := loadedAfter_of_not_kept readable tidy notKept
  rw [read] at loaded
  exact ⟨earlier, since, split, loaded, notForgotten⟩

omit readable tidy in
/-- What was read is what the catalogue still says if the service has no other record since. -/
theorem HasRead.listed (hasRead : gateway.HasRead setting steps code definition)
    (unchanged : ∀ earlier since, steps = earlier ++ .load code :: since →
      (∀ step ∈ since, ¬step.Forgets code) →
      ∀ record, .add record ∈ since → record.code ≠ code) :
    (gateway.catalogue.afterSteps steps).definition? code = .ok definition := by
  rcases hasRead with ⟨earlier, since, split, -, read, notForgotten⟩
  have others : ∀ record, .add record ∈ .load code :: since → record.code ≠ code := by
    intro record isAdded
    rcases List.mem_cons.mp isAdded with isLoad | isAdded
    · cases isLoad
    · exact unchanged earlier since split notForgotten record isAdded
  rw [split, Catalogue.afterSteps_append, Catalogue.definition?_afterSteps_of_other _ others, read]

/-- By induction on the steps from the last one: either it is the load that read the definition, or
it leaves what was kept before. -/
theorem hasRead_of_kept (empty : gateway.cache = [])
    (kept : Table.get? (gateway.afterSteps setting steps).cache code = some definition) :
    gateway.HasRead setting steps code definition := by
  induction steps using List.reverseRecOn with
  | nil =>
      have kept : Table.get? gateway.cache code = some definition := kept
      rw [empty] at kept
      cases kept
  | append_singleton steps step induction =>
      rw [kept_afterSteps_concat readable tidy] at kept
      cases step with
      | add record => exact (induction kept).concat (by simp [ServiceStep.Forgets])
      | load loaded =>
          have stays : ¬(ServiceStep.load loaded).Forgets code := by simp [ServiceStep.Forgets]
          rcases Decidable.em (loaded = code) with rfl | different
          · cases before : Table.get? (gateway.afterSteps setting steps).cache loaded with
            | some known =>
                rw [before, ServiceStep.kept_of_not_forgets stays] at kept
                exact (induction (before.trans kept)).concat stays
            | none =>
                rw [before, ServiceStep.kept, if_pos rfl, Option.none_or] at kept
                exact ⟨steps, [], rfl, before, toOption_eq_some.mp kept, by simp⟩
          · rw [ServiceStep.kept, if_neg different] at kept
            exact (induction kept).concat stays
      | forget forgotten =>
          rcases Decidable.em (forgotten = code) with rfl | different
          · rw [ServiceStep.kept, if_pos rfl] at kept
            cases kept
          · rw [ServiceStep.kept, if_neg different] at kept
            exact (induction kept).concat (by simp [ServiceStep.Forgets, different])
      | forgetAll => cases kept

end Reading

end Steps

/-! ## Gateways that load alike -/

/-- The gateways list the same services, and keep the same of those with the given codes. -/
structure AlikeOn (codes : String → Prop) (left right : Gateway β) : Prop where
  catalogue : left.catalogue = right.catalogue
  kept : ∀ code, codes code → Table.get? left.cache code = Table.get? right.cache code

namespace AlikeOn

variable {codes : String → Prop} {left right : Gateway β} (alike : AlikeOn codes left right)

include alike

theorem definition?_eq {code : String} (isOne : codes code) :
    left.definition? code = right.definition? code := by
  rw [Gateway.definition?, Gateway.definition?, alike.catalogue, alike.kept code isOne]

variable (leftTidy : left.Tidy) (rightTidy : right.Tidy)

include readable leftTidy rightTidy

theorem after (step : ServiceStep) :
    AlikeOn codes (step.after setting left) (step.after setting right) where
  catalogue := by rw [catalogue_after, catalogue_after, alike.catalogue]
  kept code isOne := by
    rw [kept_after readable leftTidy, kept_after readable rightTidy, alike.catalogue,
      alike.kept code isOne]

theorem afterSteps (steps : List ServiceStep) :
    AlikeOn codes (left.afterSteps setting steps) (right.afterSteps setting steps) := by
  induction steps generalizing left right with
  | nil => exact alike
  | cons step rest induction =>
      exact induction (alike.after readable leftTidy rightTidy step) (leftTidy.after readable step)
        (rightTidy.after readable step)

end AlikeOn

include readable tidy

theorem alikeOn_of_failed_load {code : String} {fault : LoadFault}
    (fails : gateway.definition? code = .error fault) :
    AlikeOn (fun _ => True) ((ServiceStep.load code).after setting gateway) gateway where
  catalogue := catalogue_after _ _ _
  kept other _ := by
    rw [cache_after_load readable tidy, Catalogue.cacheAfter]
    rw [Gateway.definition?] at fails
    split
    · rename_i definition notKept defined
      rw [notKept, defined] at fails
      cases fails
    · rfl

/-- What is kept of the other services stays when one is forgotten. -/
theorem alikeOn_of_forgotten_other {code other : String} (different : other ≠ code) :
    AlikeOn (· = code) ((ServiceStep.forget other).after setting gateway) gateway where
  catalogue := catalogue_after _ _ _
  kept := by
    rintro _ rfl
    rw [kept_after readable tidy, ServiceStep.kept, if_neg different]

/-- A step after which all is alike can be left out. -/
theorem loadedAfter_of_alike {codes : String → Prop} {steps : List ServiceStep} {step : ServiceStep}
    (alike : AlikeOn codes (step.after setting (gateway.afterSteps setting steps))
      (gateway.afterSteps setting steps)) (later : List ServiceStep) {code : String}
    (isOne : codes code) :
    gateway.loadedAfter setting (steps ++ step :: later) code =
      gateway.loadedAfter setting (steps ++ later) code := by
  have before := tidy.afterSteps readable steps
  have same := alike.afterSteps readable (before.after readable step) before later
  rw [loadedAfter_eq readable tidy, loadedAfter_eq readable tidy, afterSteps_append,
    afterSteps_append]
  exact congrArg (Except.mapError (LoadFault.fault setting)) (same.definition?_eq isOne)

end Gateway

/-- A load gives the definition of an earlier load of the service that has not been forgotten since,
and if there is none, what the catalogue says now. The two are the same unless a record of the
service was added after such a load. A load that fails is not remembered, and forgetting a service
does not change what another one is loaded as. -/
theorem load_gives_remembered_or_listed_definition {β : Type} {setting : Setting}
    (readable : setting.outage .getService = none) (services : List ServiceRecord)
    (records : RecordStore) (backend : β) (steps : List ServiceStep) (code : String) :
    let gateway := Gateway.opened services records backend
    let listed := (((services ++ steps.filterMap ServiceStep.record?).foldl Catalogue.add
      []).definition? code).mapError (LoadFault.fault setting)
    (∀ definition, gateway.Remembers setting steps code definition →
      gateway.loadedAfter setting steps code = .ok definition) ∧
    ((∀ definition, ¬gateway.Remembers setting steps code definition) →
      gateway.loadedAfter setting steps code = listed) ∧
    ((∀ earlier since, steps = earlier ++ .load code :: since →
        (∀ step ∈ since, ¬step.Forgets code) →
        ∀ record, .add record ∈ since → record.code ≠ code) →
      gateway.loadedAfter setting steps code = listed) ∧
    (∀ fault, gateway.loadedAfter setting steps code = .error fault → ∀ later other,
      gateway.loadedAfter setting (steps ++ .load code :: later) other =
        gateway.loadedAfter setting (steps ++ later) other) ∧
    (∀ other, other ≠ code → ∀ later,
      gateway.loadedAfter setting (steps ++ .forget other :: later) code =
        gateway.loadedAfter setting (steps ++ later) code) := by
  intro gateway listed
  have tidy : gateway.Tidy := ⟨(Gateway.Sound.opened services records backend).listed,
    Table.ordered_nil⟩
  have after := tidy.afterSteps readable steps
  have isListed : ((gateway.catalogue.afterSteps steps).definition? code).mapError
      (LoadFault.fault setting) = listed := by
    have same : gateway.catalogue.afterSteps steps =
        (services ++ steps.filterMap ServiceStep.record?).foldl Catalogue.add [] :=
      List.foldl_append.symm
    rw [same]
  refine ⟨?_, ?_, ?_, ?_, ?_⟩
  · intro definition remembers
    exact Gateway.loadedAfter_of_kept readable tidy
      (Gateway.kept_of_remembers readable tidy remembers)
  · intro notRemembered
    cases kept : Table.get? (gateway.afterSteps setting steps).cache code with
    | none => exact (Gateway.loadedAfter_of_not_kept readable tidy kept).trans isListed
    | some definition =>
        have hasRead := Gateway.hasRead_of_kept readable tidy rfl kept
        exact absurd (hasRead.remembers readable tidy) (notRemembered definition)
  · intro unchanged
    cases kept : Table.get? (gateway.afterSteps setting steps).cache code with
    | none => exact (Gateway.loadedAfter_of_not_kept readable tidy kept).trans isListed
    | some definition =>
        have hasRead := Gateway.hasRead_of_kept readable tidy rfl kept
        rw [← isListed, hasRead.listed unchanged]
        exact Gateway.loadedAfter_of_kept readable tidy kept
  · intro fault fails later other
    rw [Gateway.loadedAfter_eq readable tidy] at fails
    cases defined : (gateway.afterSteps setting steps).definition? code with
    | ok definition =>
        rw [defined] at fails
        cases fails
    | error told =>
        exact Gateway.loadedAfter_of_alike readable tidy
          (Gateway.alikeOn_of_failed_load readable after defined) later trivial
  · intro other different later
    exact Gateway.loadedAfter_of_alike readable tidy
      (Gateway.alikeOn_of_forgotten_other readable after different) later rfl

namespace Sample

/-- The service after somebody has spoilt its definition. -/
def spoiltService : ServiceRecord := { menuService with definitionText := "" }

/-- The service is loaded, and then its record is replaced. -/
def spoiling : List ServiceStep := [.load "menu", .add spoiltService]

theorem remembers_spoiling {definition : Definition}
    (defined : Definition.ofText? menuService.definitionText = some definition) :
    (Gateway.opened [menuService] [] backend).Remembers Sample.setting spoiling "menu"
      definition := by
  refine ⟨[], [.add spoiltService], rfl, ?_, by simp [ServiceStep.Forgets]⟩
  have listed : Table.get? (Gateway.opened [menuService] [] backend).catalogue "menu" =
      some menuService := rfl
  have readable : Sample.setting.outage .getService = none := rfl
  have loads := load_of_listed readable rfl listed rfl
  rw [defined] at loads
  exact toOption_eq_some.mp loads

end Sample

/-- The definition that was loaded first stays although its record has no definition any more. Once
it is forgotten, the service cannot be loaded. -/
theorem spoilt_service_is_loaded_until_forgotten :
    let gateway := Gateway.opened [Sample.menuService] [] Sample.backend
    Sample.setting.outage .getService = none ∧
    (∃ definition, gateway.Remembers Sample.setting Sample.spoiling "menu" definition ∧
      gateway.loadedAfter Sample.setting Sample.spoiling "menu" = .ok definition) ∧
    (∀ definition, ¬gateway.Remembers Sample.setting (Sample.spoiling ++ [.forget "menu"]) "menu"
      definition) ∧
    gateway.loadedAfter Sample.setting (Sample.spoiling ++ [.forget "menu"]) "menu" =
      .error (.of .invalidDefinition
        "Invalid definition for menu: EOF while parsing a value at line 1 column 0") := by
  intro gateway
  have readable : Sample.setting.outage .getService = none := rfl
  have law := load_gives_remembered_or_listed_definition readable [Sample.menuService] []
    Sample.backend
  rcases Sample.exists_definition_menuService with ⟨definition, defined, -⟩
  have remembers := Sample.remembers_spoiling defined
  have forgotten : ∀ definition, ¬gateway.Remembers Sample.setting
      (Sample.spoiling ++ [.forget "menu"]) "menu" definition := by
    rintro definition ⟨earlier, since, split, -, notForgotten⟩
    have last := congrArg List.getLast? split
    rw [List.getLast?_concat, List.getLast?_append, Option.or_of_isSome (by simp)] at last
    rcases List.mem_cons.mp (List.mem_of_getLast? last.symm) with isLoad | isSince
    · cases isLoad
    · exact notForgotten _ isSince (.inl rfl)
  refine ⟨readable, ⟨definition, remembers, (law _ _).1 definition remembers⟩, forgotten, ?_⟩
  have noDefinition : (Definition.ofText? "").isNone = true := by decide +kernel
  have listed : Table.get? (([Sample.menuService] ++ (Sample.spoiling ++
      [ServiceStep.forget "menu"]).filterMap ServiceStep.record?).foldl Catalogue.add []) "menu" =
      some Sample.spoiltService := by
    decide +kernel
  have spoilt : Definition.ofText? Sample.spoiltService.definitionText = none :=
    Option.isNone_iff_eq_none.mp noDefinition
  rw [(law _ _).2.1 forgotten, Catalogue.definition?, listed]
  dsimp only
  rw [spoilt]
  rfl

end Ussd
