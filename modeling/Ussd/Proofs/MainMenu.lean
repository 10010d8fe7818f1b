import Ussd.Proofs.MenuCodes
import Ussd.Proofs.Numerals

/-! # The main menu

The menu shows the active services in the order of their names and numbers them from one. The number
of a service starts that service, zero leads out of the menu, and every other choice shows the menu
again. Listing the services and choosing one of them are separate steps that meet in the numeral. -/

namespace Ussd

/-! ## The list of the services -/

def menuLine (number : Nat) (record : ServiceRecord) : String :=
  toString number ++ ". " ++ record.name ++ "\n"

theorem menuLines_eq_join (number : Nat) (services : List ServiceRecord) :
    menuLines number services =
      String.join ((services.zipIdx number).map fun entry => menuLine entry.2 entry.1) := by
  induction services generalizing number with
  | nil => rfl
  | cons record rest induction =>
      rw [menuLines, induction, List.zipIdx_cons, List.map_cons, String.join_cons]
      rfl

namespace Catalogue

/-- No two active services have one name. -/
def NamesApart (catalogue : Catalogue) : Prop :=
  ((catalogue.values.filter ServiceRecord.isActive).map ServiceRecord.name).Nodup

theorem active_perm (catalogue : Catalogue) :
    catalogue.active.Perm (catalogue.values.filter ServiceRecord.isActive) :=
  List.mergeSort_perm _ _

theorem mem_active {catalogue : Catalogue} {record : ServiceRecord} :
    record ∈ catalogue.active ↔ record ∈ catalogue.values ∧ record.isActive = true := by
  rw [catalogue.active_perm.mem_iff, List.mem_filter]

theorem active_sorted (catalogue : Catalogue) :
    catalogue.active.Pairwise fun left right => ¬right.name < left.name := by
  have sorted : catalogue.active.Pairwise fun left right =>
      (!decide (right.name < left.name)) = true := by
    apply List.pairwise_mergeSort
    · intro left middle right before after
      simp only [Bool.not_eq_true', decide_eq_false_iff_not, String.not_lt] at before after ⊢
      exact String.le_trans before after
    · intro left right
      simp only [Bool.or_eq_true, Bool.not_eq_true', decide_eq_false_iff_not, String.not_lt]
      exact String.le_total _ _
  apply sorted.imp
  intro left right inOrder
  simpa using inOrder

theorem active_pairwise {catalogue : Catalogue} (apart : catalogue.NamesApart) :
    catalogue.active.Pairwise fun left right => left.name < right.name := by
  have different : catalogue.active.Pairwise fun left right => left.name ≠ right.name :=
    List.pairwise_map.mp ((catalogue.active_perm.map ServiceRecord.name).nodup_iff.mpr apart)
  apply (catalogue.active_sorted.and different).imp
  intro left right both
  rcases both with ⟨notAfter, notSame⟩
  apply String.not_le.mp
  intro notBefore
  exact notSame (String.le_antisymm (String.not_lt.mp notAfter) notBefore)

end Catalogue

/-! ## Choosing by number -/

section Choice

variable {services : List ServiceRecord} {choice : String}

theorem chosenService?_of_denotes (fits : services.length ≤ Text.greatestWord) {index : Nat}
    {record : ServiceRecord} (shown : services[index]? = some record)
    (denotes : Text.Denotes choice.toList (index + 1)) :
    chosenService? services choice = some record := by
  have within : index < services.length := (List.getElem?_eq_some_iff.mp shown).1
  have isNumber : Text.unsigned? choice.toList = some (index + 1) :=
    Text.unsigned?_eq_some_iff.mpr ⟨denotes, by omega⟩
  unfold chosenService?
  rw [isNumber, Option.bind_some, if_neg (by omega), Nat.add_sub_cancel]
  exact shown

theorem chosenService?_eq_none
    (outside : ∀ number, Text.Denotes choice.toList number →
      ¬(1 ≤ number ∧ number ≤ services.length)) : chosenService? services choice = none := by
  unfold chosenService?
  cases isNumber : Text.unsigned? choice.toList with
  | none => rfl
  | some number =>
      have notListed := outside number (Text.unsigned?_eq_some_iff.mp isNumber).1
      rw [Option.bind_some]
      by_cases isZero : number = 0
      · rw [if_pos isZero]
      · rw [if_neg isZero, List.getElem?_eq_none_iff]
        omega

theorem menuAnswer_of_unlisted {setting : Setting} (isChoice : choice ≠ "")
    (notZero : choice ≠ "0") :
    menuAnswer setting services choice =
      .proceed (menuText setting services ++ "\n\n" ++ setting.engine.invalidOptionMessage) := by
  unfold menuAnswer
  rw [if_neg (by simpa using isChoice), if_neg notZero]

end Choice

variable {β : Type} [Backend β] {setting : Setting}

/-- The menu shows the active services, each once, by increasing names and numbered from one. Where
the request belongs to no live session, the number of a service starts that service, zero ends with
the goodbye text, and no choice or a choice of no shown number starts nothing and shows the menu. The
list is no longer than numbers of 64 bits can tell. Where a service is started, the end of its session
is in the calendar in the range that `Starts` tells. -/
theorem menu_numbers_match_what_they_start (inOrder : setting.InOrder) {gateway : Gateway β}
    (indexed : gateway.catalogue.Indexed) (apart : gateway.catalogue.NamesApart)
    (fits : gateway.catalogue.active.length ≤ Text.greatestWord) :
    let shown := gateway.catalogue.active
    let menu := menuText setting shown
    shown.Perm (gateway.catalogue.values.filter ServiceRecord.isActive) ∧
    shown.Pairwise (fun left right => left.name < right.name) ∧
    menu = setting.engine.mainMenuTitle ++ "\nChoisissez un service:\n\n" ++
      String.join ((shown.zipIdx 1).map fun entry => menuLine entry.2 entry.1) ++ "0. Quitter" ∧
    ∀ (occasion : Occasion) (choice : String),
      gateway.live? (occasion.sessionId gateway) occasion.now = none →
      occasion.request.AsksMenu setting.engine choice →
      (choice = "" → occasion.Informs setting gateway (.proceed menu)) ∧
      (∀ index record definition, shown[index]? = some record →
        choice = toString (index + 1) ∨ Text.Denotes choice.toList (index + 1) →
        gateway.definitionOf? record = some definition → definition.states ≠ [] →
        occasion.Starts setting gateway record) ∧
      (choice = "0" → occasion.Informs setting gateway (.conclude setting.engine.goodbyeMessage)) ∧
      (choice ≠ "" → choice ≠ "0" →
        (∀ number, Text.Denotes choice.toList number → ¬(1 ≤ number ∧ number ≤ shown.length)) →
        occasion.Informs setting gateway
          (.proceed (menu ++ "\n\n" ++ setting.engine.invalidOptionMessage))) := by
  intro shown menu
  have isMenu : menu = setting.engine.mainMenuTitle ++ "\nChoisissez un service:\n\n" ++
      menuLines 1 shown ++ "0. Quitter" := rfl
  rw [menuLines_eq_join] at isMenu
  refine ⟨gateway.catalogue.active_perm, Catalogue.active_pairwise apart, isMenu, ?_⟩
  intro occasion choice notLive asks
  refine ⟨?_, ?_, ?_, ?_⟩
  · intro noChoice
    subst noChoice
    exact Occasion.informs_of_asksMenu inOrder notLive asks (chosenService?_of_isEmpty _ rfl)
  · intro index record definition isShown isNumber defined hasStates
    have denotes : Text.Denotes choice.toList (index + 1) := by
      rcases isNumber with decimal | denotes
      · rw [decimal]
        exact Text.denotes_toString (index + 1)
      · exact denotes
    rcases Catalogue.mem_active.mp (List.mem_of_getElem? isShown) with ⟨member, isActive⟩
    have offers : gateway.Offers record :=
      ⟨indexed.get?_of_mem member, isActive, definition, defined, hasStates⟩
    exact Occasion.starts_of_asksMenu inOrder notLive asks
      (chosenService?_of_denotes fits isShown denotes) offers
  · intro isZero
    subst isZero
    exact Occasion.informs_of_asksMenu inOrder notLive asks (chosenService?_zero _)
  · intro isChoice notZero outside
    have informs := Occasion.informs_of_asksMenu inOrder notLive asks
      (chosenService?_eq_none outside)
    rw [menuAnswer_of_unlisted isChoice notZero] at informs
    exact informs

namespace Sample

def solde : ServiceRecord := { menuService with name := "Solde" }

def achat : ServiceRecord := { shadowedService with name := "Achat" }

/-- Two active services, which the menu shows in the other order, and one that is not active. -/
def offering : Gateway ScriptedBackend :=
  Gateway.opened [solde, achat, { service "old" "*3#" "" with name := "Solde", isActive := false }]
    [] backend

theorem namesApart_offering : offering.catalogue.NamesApart := by
  unfold Catalogue.NamesApart
  decide +kernel

theorem active_offering : offering.catalogue.active = [achat, solde] := by
  have listed : offering.catalogue.values.filter ServiceRecord.isActive = [solde, achat] := by
    decide +kernel
  have inOrder : [achat, solde].Pairwise fun left right => left.name < right.name :=
    List.pairwise_pair.mpr (by decide +kernel)
  have same : offering.catalogue.active.Perm [achat, solde] := by
    apply offering.catalogue.active_perm.trans
    rw [listed]
    exact List.Perm.swap achat solde []
  apply List.Perm.eq_of_pairwise _ (Catalogue.active_pairwise namesApart_offering) inOrder same
  intro left right _ _ before after
  exact absurd (String.lt_trans before after) (String.lt_irrefl _)

end Sample

theorem two_starts_second_name :
    Sample.setting.InOrder ∧ Sample.offering.catalogue.Indexed ∧
    Sample.offering.catalogue.NamesApart ∧
    Sample.offering.catalogue.active.length ≤ Text.greatestWord ∧
    Sample.offering.live? ((Sample.firstDial "*500#" " 2").sessionId Sample.offering)
      (Sample.firstDial "*500#" " 2").now = none ∧
    (Sample.firstDial "*500#" " 2").request.AsksMenu Sample.setting.engine "2" ∧
    ∃ definition, Sample.offering.catalogue.active[1]? = some Sample.solde ∧
      Sample.offering.definitionOf? Sample.solde = some definition ∧ definition.states ≠ [] ∧
      (Sample.firstDial "*500#" " 2").Starts Sample.setting Sample.offering Sample.solde := by
  have apart := Sample.namesApart_offering
  have indexed : Sample.offering.catalogue.Indexed := Catalogue.indexed_addAll _
  have fits : Sample.offering.catalogue.active.length ≤ Text.greatestWord := by
    rw [Sample.active_offering]
    decide
  have isShown : Sample.offering.catalogue.active[1]? = some Sample.solde := by
    rw [Sample.active_offering]
    rfl
  rcases Sample.exists_definition_menuService with ⟨definition, read, hasStates⟩
  have sameText : Sample.solde.definitionText = Sample.menuService.definitionText := by
    simp only [Sample.solde]
  have defined : Sample.offering.definitionOf? Sample.solde = some definition := by
    rw [Sample.offering, Gateway.definitionOf?_opened, sameText]
    exact read
  have notLive : Sample.offering.live? ((Sample.firstDial "*500#" " 2").sessionId Sample.offering)
      (Sample.firstDial "*500#" " 2").now = none := rfl
  have asks : (Sample.firstDial "*500#" " 2").request.AsksMenu Sample.setting.engine "2" :=
    .plain (by decide)
  have starts := ((menu_numbers_match_what_they_start Sample.inOrder indexed apart fits).2.2.2
    _ _ notLive asks).2.1 1 _ definition isShown (.inl rfl) defined hasStates
  exact ⟨Sample.inOrder, indexed, apart, fits, notLive, asks, definition, isShown, defined,
    hasStates, starts⟩

end Ussd
