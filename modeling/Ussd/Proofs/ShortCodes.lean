import Mathlib.Data.List.Nodup
import Ussd.Proofs.MenuCodes

/-! # Short codes

Of the services with a dialled short code only the first one counts, whether it is active or not. So
an active service is reached by its short code unless a disabled one with that code is listed before
it, and whether it is reached depends on the order of the list. -/

namespace Ussd

namespace Catalogue

variable {catalogue : Catalogue} {record : ServiceRecord}

/-- The first service with a short code that is not empty. -/
structure FirstWith (catalogue : Catalogue) (shortCode : String) (record : ServiceRecord) :
    Prop where
  dialable : shortCode ≠ ""
  hasCode : record.shortCode = shortCode
  isFirst : ∃ before after, catalogue.values = before ++ record :: after ∧
    ∀ other ∈ before, other.shortCode ≠ shortCode

/-- A service that is not active has the code of the service and is listed before it. -/
def Hides (catalogue : Catalogue) (record : ServiceRecord) : Prop :=
  ∃ other, [other, record].Sublist catalogue.values ∧ other.isActive = false ∧
    other.shortCode = record.shortCode

/-- Every short code that is not empty has at most one active service. -/
def OneActive (catalogue : Catalogue) : Prop :=
  ∀ left ∈ catalogue.values, ∀ right ∈ catalogue.values, left.isActive = true →
    right.isActive = true → left.shortCode ≠ "" → left.shortCode = right.shortCode → left = right

/-! ## Services of a catalogue -/

theorem Indexed.map_code (indexed : catalogue.Indexed) :
    catalogue.values.map ServiceRecord.code = Table.keys catalogue := by
  unfold Table.values Table.keys
  rw [List.map_map]
  apply List.map_congr_left
  intro entry isEntry
  exact indexed.keyed _ _ (Table.get?_of_mem indexed.once isEntry)

theorem Indexed.nodup_values (indexed : catalogue.Indexed) : catalogue.values.Nodup := by
  apply List.Nodup.of_map ServiceRecord.code
  rw [indexed.map_code]
  exact indexed.once

theorem byShortCode?_eq_some_iff {shortCode : String} :
    catalogue.byShortCode? shortCode = some record ↔ catalogue.FirstWith shortCode record := by
  unfold byShortCode?
  rw [List.find?_eq_some_iff_append]
  constructor
  · intro found
    rcases found with ⟨matching, before, after, split, skipped⟩
    simp only [Bool.and_eq_true, Bool.not_eq_true', beq_iff_eq, String.isEmpty_eq_false_iff]
      at matching
    have dialable : shortCode ≠ "" := matching.2 ▸ matching.1
    refine ⟨dialable, matching.2, before, after, split, ?_⟩
    intro other isBefore hasCode
    have passes := skipped other isBefore
    simp [hasCode, dialable] at passes
  · intro first
    rcases first.isFirst with ⟨before, after, split, skipped⟩
    refine ⟨by simp [first.hasCode, first.dialable], before, after, split, ?_⟩
    intro other isBefore
    simp [skipped other isBefore]

theorem exists_firstWith (listed : record ∈ catalogue.values) (dialable : record.shortCode ≠ "") :
    ∃ first, catalogue.FirstWith record.shortCode first := by
  have isFound : (catalogue.byShortCode? record.shortCode).isSome := by
    unfold byShortCode?
    rw [List.find?_isSome]
    exact ⟨record, listed, by simp [dialable]⟩
  rcases Option.isSome_iff_exists.mp isFound with ⟨first, found⟩
  exact ⟨first, byShortCode?_eq_some_iff.mp found⟩

theorem FirstWith.mem {shortCode : String} (first : catalogue.FirstWith shortCode record) :
    record ∈ catalogue.values := by
  rcases first.isFirst with ⟨before, after, split, -⟩
  rw [split]
  exact List.mem_append_right before List.mem_cons_self

/-! ## Services that are hidden -/

theorem FirstWith.eq_of_active (oneActive : catalogue.OneActive)
    (listed : record ∈ catalogue.values) (isActive : record.isActive = true) {first : ServiceRecord}
    (isFirst : catalogue.FirstWith record.shortCode first) (active : first.isActive = true) :
    first = record :=
  oneActive first isFirst.mem record listed active isActive
    (isFirst.hasCode.symm ▸ isFirst.dialable) isFirst.hasCode

theorem FirstWith.hides (listed : record ∈ catalogue.values) (isActive : record.isActive = true)
    {first : ServiceRecord} (isFirst : catalogue.FirstWith record.shortCode first)
    (inactive : first.isActive = false) : catalogue.Hides record := by
  refine ⟨first, ?_, inactive, isFirst.hasCode⟩
  rcases isFirst.isFirst with ⟨before, after, split, skipped⟩
  rw [split] at listed ⊢
  have isAfter : record ∈ after := by
    rcases List.mem_append.mp listed with isBefore | isFirstOrAfter
    · exact absurd rfl (skipped record isBefore)
    · rcases List.mem_cons.mp isFirstOrAfter with same | isAfter
      · rw [same, inactive] at isActive
        cases isActive
      · exact isAfter
  apply List.sublist_append_of_sublist_right
  exact (List.singleton_sublist.mpr isAfter).cons_cons first

theorem FirstWith.not_hides (indexed : catalogue.Indexed) (isActive : record.isActive = true)
    (isFirst : catalogue.FirstWith record.shortCode record) : ¬catalogue.Hides record := by
  intro hides
  rcases hides with ⟨other, isBefore, inactive, hasCode⟩
  rcases isFirst.isFirst with ⟨before, after, split, skipped⟩
  have once := indexed.nodup_values
  rw [split] at isBefore once
  rcases List.sublist_append_iff.mp isBefore with ⟨front, rest, parts, inFront, inRest⟩
  cases front with
  | cons head tail =>
      have isHead : other = head := (List.cons.inj parts).1
      rw [isHead] at hasCode
      exact skipped head (inFront.subset List.mem_cons_self) hasCode
  | nil =>
      cases parts
      have different : other ≠ record := by
        intro same
        rw [same, isActive] at inactive
        cases inactive
      have isAfter : [other, record].Sublist after := by
        cases inRest with
        | cons _ further => exact further
        | cons_cons _ _ => exact absurd rfl different
      have again : record ∈ after := isAfter.subset (by simp)
      exact (List.nodup_cons.mp (List.nodup_append.mp once).2.1).1 again

theorem FirstWith.hides_iff (indexed : catalogue.Indexed) (oneActive : catalogue.OneActive)
    (listed : record ∈ catalogue.values) (isActive : record.isActive = true) {first : ServiceRecord}
    (isFirst : catalogue.FirstWith record.shortCode first) :
    catalogue.Hides record ↔ first.isActive = false := by
  constructor
  · intro hides
    cases active : first.isActive with
    | false => rfl
    | true =>
        have isRecord := isFirst.eq_of_active oneActive listed isActive active
        rw [isRecord] at isFirst
        exact absurd hides (isFirst.not_hides indexed isActive)
  · exact isFirst.hides listed isActive

/-- Some order of the services hides an active one exactly if a disabled one has its code. -/
theorem exists_perm_hides_iff (listed : record ∈ catalogue.values)
    (isActive : record.isActive = true) :
    (∃ arranged : Catalogue, arranged.Perm catalogue ∧ arranged.Hides record) ↔
      ∃ other ∈ catalogue.values, other.isActive = false ∧ other.shortCode = record.shortCode := by
  constructor
  · intro hidden
    rcases hidden with ⟨arranged, same, other, isBefore, inactive, hasCode⟩
    have isListed : other ∈ arranged.values := isBefore.subset List.mem_cons_self
    exact ⟨other, (same.map Prod.snd).mem_iff.mp isListed, inactive, hasCode⟩
  · intro shared
    rcases shared with ⟨other, isListed, inactive, hasCode⟩
    rcases List.mem_map.mp isListed with ⟨entry, isEntry, isOther⟩
    rcases List.append_of_mem isEntry with ⟨before, after, split⟩
    have same : (entry :: (before ++ after)).Perm catalogue := by
      rw [split]
      exact List.perm_middle.symm
    refine ⟨entry :: (before ++ after), same, other, ?_, inactive, hasCode⟩
    have member : record ∈ Table.values (entry :: (before ++ after)) :=
      (same.map Prod.snd).mem_iff.mpr listed
    rw [Table.values, List.map_cons, isOther] at member ⊢
    rcases List.mem_cons.mp member with isSame | isAfter
    · rw [isSame, inactive] at isActive
      cases isActive
    · exact (List.singleton_sublist.mpr isAfter).cons_cons other

end Catalogue

variable {β : Type} [Backend β] {setting : Setting}

/-- A request without a live session that dials the short code of an active service starts that
service unless a disabled one with the code is listed before it, and then the code is an unknown
one. Without a disabled service of that code no order of the services hides the active one; with one
some order does. Where a service is started, the end of its session is in the calendar in the range
that `Starts` tells. -/
theorem short_code_reaches_service_unless_hidden (inOrder : setting.InOrder) {gateway : Gateway β}
    (indexed : gateway.catalogue.Indexed) (oneActive : gateway.catalogue.OneActive)
    {record : ServiceRecord} (listed : record ∈ gateway.catalogue.values)
    (isActive : record.isActive = true) (dialable : record.shortCode ≠ "")
    (notMenu : record.shortCode ≠ setting.engine.mainMenuCode)
    (noChoice : ∀ choice, ¬InlineDial setting.engine.mainMenuCode choice record.shortCode)
    (defined : ∃ definition, gateway.definitionOf? record = some definition ∧
      definition.states ≠ [])
    {occasion : Occasion} (dials : trimmed occasion.request.dialled = record.shortCode)
    (notLive : gateway.live? (occasion.sessionId gateway) occasion.now = none) :
    (¬gateway.catalogue.Hides record → occasion.Starts setting gateway record) ∧
    (gateway.catalogue.Hides record →
      occasion.Informs setting gateway (.conclude setting.engine.unknownApplicationMessage)) ∧
    ((∃ arranged : Catalogue, arranged.Perm gateway.catalogue ∧ arranged.Hides record) ↔
      ∃ other ∈ gateway.catalogue.values, other.isActive = false ∧
        other.shortCode = record.shortCode) := by
  have spares : occasion.request.SparesMenu setting.engine := by
    unfold CarrierRequest.SparesMenu
    rw [dials]
    exact ⟨notMenu, noChoice⟩
  have reaches := spares.dialledService?_eq gateway.catalogue
  rw [dials] at reaches
  rcases Catalogue.exists_firstWith listed dialable with ⟨first, isFirst⟩
  rw [Catalogue.byShortCode?_eq_some_iff.mpr isFirst] at reaches
  have hidden := isFirst.hides_iff indexed oneActive listed isActive
  refine ⟨?_, ?_, Catalogue.exists_perm_hides_iff listed isActive⟩
  · intro notHidden
    rw [hidden, Bool.not_eq_false] at notHidden
    rw [isFirst.eq_of_active oneActive listed isActive notHidden,
      Option.filter_some_pos isActive] at reaches
    exact Occasion.starts_of_dialled inOrder notLive reaches
      ⟨indexed.get?_of_mem listed, isActive, defined⟩
  · intro hides
    rw [hidden] at hides
    rw [Option.filter_some_neg (by simp [hides])] at reaches
    rw [← spares.dialAnswer_eq gateway.catalogue]
    exact Occasion.informs_of_dialled inOrder notLive reaches

namespace Sample

def disabled (code : String) : ServiceRecord :=
  { service code "*1#" "\"states\":[\x7b\"id\":\"a\",\"type\":\"FINAL\"\x7d]" with
    isActive := false }

/-- Both services; they are listed in the order of their codes. -/
def renewed (disabledCode : String) : Gateway ScriptedBackend :=
  Gateway.opened [menuService, disabled disabledCode] [] backend

theorem oneActive_old : (renewed "old").catalogue.OneActive := by
  unfold Catalogue.OneActive
  decide +kernel

theorem oneActive_former : (renewed "former").catalogue.OneActive := by
  unfold Catalogue.OneActive
  decide +kernel

end Sample

theorem service_is_reached_before_disabled_one :
    let gateway := Sample.renewed "old"
    let occasion := Sample.firstDial " *1# " ""
    Sample.setting.InOrder ∧ gateway.catalogue.Indexed ∧ gateway.catalogue.OneActive ∧
    Sample.menuService ∈ gateway.catalogue.values ∧ Sample.menuService.isActive = true ∧
    Sample.menuService.shortCode ≠ "" ∧
    Sample.menuService.shortCode ≠ Sample.setting.engine.mainMenuCode ∧
    (∀ choice, ¬InlineDial Sample.setting.engine.mainMenuCode choice Sample.menuService.shortCode) ∧
    (∃ definition, gateway.definitionOf? Sample.menuService = some definition ∧
      definition.states ≠ []) ∧
    trimmed occasion.request.dialled = Sample.menuService.shortCode ∧
    gateway.live? (occasion.sessionId gateway) occasion.now = none ∧
    ¬gateway.catalogue.Hides Sample.menuService ∧
    occasion.Starts Sample.setting gateway Sample.menuService := by
  intro gateway occasion
  have indexed : gateway.catalogue.Indexed := Catalogue.indexed_addAll _
  have found : gateway.catalogue.byShortCode? Sample.menuService.shortCode =
      some Sample.menuService := by
    decide +kernel
  have isFirst := Catalogue.byShortCode?_eq_some_iff.mp found
  have notHidden := isFirst.not_hides indexed rfl
  have isOther : menuDial? Sample.setting.engine.mainMenuCode Sample.menuService.shortCode =
      none := by
    decide +kernel
  rcases menuDial?_eq_none_iff.mp isOther with ⟨notMenu, noChoice⟩
  have loads : ∃ definition,
      (Sample.renewed "old").definitionOf? Sample.menuService = some definition ∧
        definition.states ≠ [] := by
    rw [Sample.renewed, Gateway.definitionOf?_opened]
    exact Sample.exists_definition_menuService
  have dials : trimmed occasion.request.dialled = Sample.menuService.shortCode := by decide
  have notLive : gateway.live? (occasion.sessionId gateway) occasion.now = none := rfl
  have starts := (short_code_reaches_service_unless_hidden Sample.inOrder indexed
    Sample.oneActive_old isFirst.mem rfl isFirst.dialable notMenu noChoice loads dials notLive).1
    notHidden
  exact ⟨Sample.inOrder, indexed, Sample.oneActive_old, isFirst.mem, rfl, isFirst.dialable, notMenu,
    noChoice, loads, dials, notLive, notHidden, starts⟩

/-- The active service is listed after a disabled one with its code, and is not reached. -/
theorem service_may_be_hidden_by_disabled_one :
    (Sample.renewed "former").catalogue.Indexed ∧ (Sample.renewed "former").catalogue.OneActive ∧
    Sample.menuService ∈ (Sample.renewed "former").catalogue.values ∧
    (∀ record ∈ (Sample.renewed "former").catalogue.values,
      (Definition.ofText? record.definitionText).map (·.states.isEmpty) = some false) ∧
    Sample.menuService.isActive = true ∧ Sample.menuService.shortCode = "*1#" ∧
    menuDial? Sample.setting.engine.mainMenuCode "*1#" = none ∧
    (Sample.renewed "former").live?
      ((Sample.firstDial "*1#" "").sessionId (Sample.renewed "former"))
      (Sample.firstDial "*1#" "").now = none ∧
    ((Sample.firstDial "*1#" "").serve Sample.setting (Sample.renewed "former")).1 =
      .conclude Sample.setting.engine.unknownApplicationMessage := by
  refine ⟨Catalogue.indexed_addAll _, Sample.oneActive_former, ?_⟩
  decide +kernel

end Ussd
