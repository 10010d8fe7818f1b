import Ussd.Proofs.ServiceStart
import Ussd.Proofs.TextPieces

/-! # Codes of the main menu

The main menu is reached by dialling its code, and a choice may be dialled along with it, in front
of the hash. Blanks around what is dialled do not count. Blanks around the configured code do count:
the settings are accepted with them, but nothing that is dialled leads to such a code. -/

namespace Ussd

/-! ## Dialling the menu -/

/-- The code of the menu with a choice in front of its hash. -/
def InlineDial (menuCode choice dialled : String) : Prop :=
  ∃ stem, menuCode = stem ++ "#" ∧ dialled = stem ++ "*" ++ choice ++ "#"

theorem menuDial?_eq_plain_iff {menuCode dialled : String} :
    menuDial? menuCode dialled = some .plain ↔ dialled = menuCode := by
  unfold menuDial?
  split
  · simp [*]
  · rename_i different
    simp [different, Option.bind_eq_some_iff]

theorem InlineDial.ne {menuCode choice dialled : String}
    (inlines : InlineDial menuCode choice dialled) : dialled ≠ menuCode := by
  rcases inlines with ⟨stem, isCode, isDialled⟩
  intro same
  have lengths := congrArg String.length (isDialled.symm.trans (same.trans isCode))
  have star : "*".length = 1 := rfl
  simp only [String.length_append] at lengths
  omega

theorem menuDial?_of_inlineDial {menuCode choice dialled : String}
    (inlines : InlineDial menuCode choice dialled) :
    menuDial? menuCode dialled = some (.inline (trimmed choice)) := by
  have different := inlines.ne
  rcases inlines with ⟨stem, isCode, isDialled⟩
  have stems : Text.beforeEnd? ['#'] menuCode.toList = some stem.toList := by
    rw [Text.beforeEnd?_eq_some_iff, isCode, String.toList_append]
    rfl
  have begins : Text.afterStart? stem.toList dialled.toList =
      some ('*' :: (choice.toList ++ ['#'])) := by
    rw [Text.afterStart?_eq_some_iff, isDialled]
    simp
  have chooses : Text.beforeEnd? ['#'] (choice.toList ++ ['#']) = some choice.toList :=
    Text.beforeEnd?_eq_some_iff.mpr rfl
  unfold menuDial?
  simp [different, stems, begins, chooses, Text.afterStart?, trimmed]

theorem inlineDial_of_menuDial? {menuCode dialled choice : String}
    (asks : menuDial? menuCode dialled = some (.inline choice)) :
    ∃ typed, InlineDial menuCode typed dialled ∧ choice = trimmed typed := by
  unfold menuDial? at asks
  split at asks
  · cases asks
  · simp only [Option.bind_eq_bind, Option.bind_eq_some_iff] at asks
    rcases asks with ⟨stem, isStem, afterStem, begins, afterStar, stars, typed, ends, isChoice⟩
    cases isChoice
    rw [Text.beforeEnd?_eq_some_iff] at isStem ends
    rw [Text.afterStart?_eq_some_iff] at begins stars
    refine ⟨String.ofList typed, ⟨String.ofList stem, ?_, ?_⟩, ?_⟩
    · apply String.toList_injective
      simp [isStem]
    · apply String.toList_injective
      simp [begins, stars, ends]
    · simp [trimmed]

theorem menuDial?_eq_none_iff {menuCode dialled : String} :
    menuDial? menuCode dialled = none ↔
      dialled ≠ menuCode ∧ ∀ choice, ¬InlineDial menuCode choice dialled := by
  constructor
  · intro asksNothing
    constructor
    · intro same
      rw [menuDial?_eq_plain_iff.mpr same] at asksNothing
      cases asksNothing
    · intro choice inlines
      rw [menuDial?_of_inlineDial inlines] at asksNothing
      cases asksNothing
  · intro other
    cases asks : menuDial? menuCode dialled with
    | none => rfl
    | some dial =>
        cases dial with
        | plain => exact absurd (menuDial?_eq_plain_iff.mp asks) other.1
        | inline choice =>
            rcases inlineDial_of_menuDial? asks with ⟨typed, inlines, -⟩
            exact absurd inlines (other.2 typed)

theorem trimmed_of_isAllBlank {text : String} (blank : isAllBlank text = true) :
    trimmed text = "" := by
  have areBlank : ∀ c ∈ text.toList, Text.isBlank c = true := List.all_eq_true.mp blank
  rw [trimmed, ← List.nil_append text.toList, Text.trim_append_blank areBlank]
  rfl

/-- A code that is written as codes are has no blanks around it. -/
theorem trimmed_of_enclosed {code : String} (middle : List Char)
    (isCode : code.toList = '*' :: (middle ++ ['#'])) : trimmed code = code := by
  apply String.toList_injective
  rw [toList_trimmed, isCode]
  exact Text.trim_enclosed rfl rfl middle

/-! ## Requests to the menu -/

/-- What a request chooses in the menu that it dials: the choice in the code, or else its text. -/
inductive CarrierRequest.AsksMenu (engine : EngineSettings) (request : CarrierRequest) :
    String → Prop
  | plain (dials : trimmed request.dialled = engine.mainMenuCode) :
      AsksMenu engine request (trimmed request.text)
  | inline (choice : String)
      (dials : InlineDial engine.mainMenuCode choice (trimmed request.dialled)) :
      AsksMenu engine request (trimmed choice)

namespace CarrierRequest

variable {engine : EngineSettings} {request : CarrierRequest} {choice : String}

theorem AsksMenu.dialledService?_eq (asks : request.AsksMenu engine choice)
    (catalogue : Catalogue) :
    dialledService? engine catalogue request = chosenService? catalogue.active choice := by
  unfold dialledService?
  cases asks with
  | plain dials => rw [menuDial?_eq_plain_iff.mpr dials]
  | inline choice dials => rw [menuDial?_of_inlineDial dials]

theorem AsksMenu.dialAnswer_eq {setting : Setting} (asks : request.AsksMenu setting.engine choice)
    (catalogue : Catalogue) :
    dialAnswer setting catalogue request = menuAnswer setting catalogue.active choice := by
  unfold dialAnswer
  cases asks with
  | plain dials => rw [menuDial?_eq_plain_iff.mpr dials]
  | inline choice dials => rw [menuDial?_of_inlineDial dials]

/-- The request dials something else than the menu. -/
def SparesMenu (engine : EngineSettings) (request : CarrierRequest) : Prop :=
  trimmed request.dialled ≠ engine.mainMenuCode ∧
    ∀ choice, ¬InlineDial engine.mainMenuCode choice (trimmed request.dialled)

theorem SparesMenu.dialledService?_eq (spares : request.SparesMenu engine)
    (catalogue : Catalogue) :
    dialledService? engine catalogue request =
      (catalogue.byShortCode? (trimmed request.dialled)).filter ServiceRecord.isActive := by
  unfold dialledService?
  rw [menuDial?_eq_none_iff.mpr spares]

theorem SparesMenu.dialAnswer_eq {setting : Setting} (spares : request.SparesMenu setting.engine)
    (catalogue : Catalogue) :
    dialAnswer setting catalogue request =
      .conclude setting.engine.unknownApplicationMessage := by
  unfold dialAnswer
  rw [menuDial?_eq_none_iff.mpr spares]

/-- A menu code with blanks around it is never dialled. -/
theorem sparesMenu_of_padded (padded : trimmed engine.mainMenuCode ≠ engine.mainMenuCode)
    (request : CarrierRequest) : request.SparesMenu engine := by
  constructor
  · intro same
    rw [← same, trimmed_idempotent] at padded
    exact padded rfl
  · intro choice inlines
    rcases inlines with ⟨stem, isCode, isDialled⟩
    have code : engine.mainMenuCode.toList = stem.toList ++ ['#'] := by simp [isCode]
    have dialled : (trimmed request.dialled).toList =
        stem.toList ++ '*' :: (choice.toList ++ ['#']) := by simp [isDialled]
    have fixed := congrArg String.toList (trimmed_idempotent request.dialled)
    rw [toList_trimmed, dialled, Text.trim_eq_self_iff] at fixed
    apply padded
    apply String.toList_injective
    rw [toList_trimmed, code, Text.trim_eq_self_iff, List.getLast?_concat]
    constructor
    · intro c first
      cases chars : stem.toList with
      | nil =>
          rw [chars] at first
          cases first
          decide
      | cons head rest =>
          -- the code and what is dialled begin with the same character
          rw [chars] at first fixed
          exact fixed.1 c first
    · intro c last
      cases last
      decide

end CarrierRequest

variable {β : Type} [Backend β] {setting : Setting}

namespace Occasion

section Menu

variable (inOrder : setting.InOrder) {occasion : Occasion} {gateway : Gateway β}
  (notLive : gateway.live? (occasion.sessionId gateway) occasion.now = none) {choice : String}
  (asks : occasion.request.AsksMenu setting.engine choice)

include inOrder notLive asks

theorem starts_of_asksMenu {record : ServiceRecord}
    (chosen : chosenService? gateway.catalogue.active choice = some record)
    (offers : gateway.Offers record) : occasion.Starts setting gateway record :=
  starts_of_dialled inOrder notLive ((asks.dialledService?_eq _).trans chosen) offers

theorem informs_of_asksMenu (chosen : chosenService? gateway.catalogue.active choice = none) :
    occasion.Informs setting gateway
      (menuAnswer setting gateway.catalogue.active choice) := by
  rw [← asks.dialAnswer_eq]
  exact informs_of_dialled inOrder notLive ((asks.dialledService?_eq _).trans chosen)

end Menu

end Occasion

/-- Blanks around the main menu code make no difference to whether the settings are accepted. A code
without them is answered with the menu when it is dialled without a choice. A code with them is
never reached: what is dialled, also the code itself, is a short code of a service or unknown. -/
theorem menu_is_reached_unless_its_code_is_padded (inOrder : setting.InOrder)
    {occasion : Occasion} {gateway : Gateway β}
    (notLive : gateway.live? (occasion.sessionId gateway) occasion.now = none) :
    ({ setting.engine with mainMenuCode := trimmed setting.engine.mainMenuCode }).validate =
        setting.engine.validate ∧
    (trimmed setting.engine.mainMenuCode = setting.engine.mainMenuCode →
      occasion.request.dialled = setting.engine.mainMenuCode →
      isAllBlank occasion.request.text = true →
      occasion.Informs setting gateway
        (.proceed (menuText setting gateway.catalogue.active))) ∧
    (trimmed setting.engine.mainMenuCode ≠ setting.engine.mainMenuCode →
      (∀ choice, ¬occasion.request.AsksMenu setting.engine choice) ∧
      match (gateway.catalogue.byShortCode? (trimmed occasion.request.dialled)).filter
        ServiceRecord.isActive with
      | some record => gateway.Offers record → occasion.Starts setting gateway record
      | none => occasion.Informs setting gateway
          (.conclude setting.engine.unknownApplicationMessage)) := by
  refine ⟨?_, ?_, ?_⟩
  · simp only [EngineSettings.validate, EngineSettings.isMenuCode, toList_trimmed,
      Text.trim_idempotent]
  · intro unpadded dials blank
    have asks : occasion.request.AsksMenu setting.engine (trimmed occasion.request.text) :=
      .plain (by rw [dials, unpadded])
    rw [trimmed_of_isAllBlank blank] at asks
    exact Occasion.informs_of_asksMenu inOrder notLive asks (chosenService?_of_isEmpty _ rfl)
  · intro padded
    have spares := CarrierRequest.sparesMenu_of_padded padded occasion.request
    refine ⟨?_, ?_⟩
    · intro choice asks
      cases asks with
      | plain dials => exact spares.1 dials
      | inline choice dials => exact spares.2 choice dials
    · have dialled := spares.dialledService?_eq gateway.catalogue
      split
      · rename_i record found
        exact Occasion.starts_of_dialled inOrder notLive (dialled.trans found)
      · rename_i nobody
        rw [← spares.dialAnswer_eq gateway.catalogue]
        exact Occasion.informs_of_dialled inOrder notLive (dialled.trans nobody)

namespace Sample

def settingWith (menuCode : String) : Setting :=
  { Sample.setting with engine := { EngineSettings.standard with mainMenuCode := menuCode } }

def listing : Gateway ScriptedBackend := Gateway.opened [menuService] [] backend

def firstDial (dialled text : String) : Occasion := visit 1000 (some "x") "237" dialled text

end Sample

theorem standard_menu_code_is_reached :
    Sample.setting.InOrder ∧
    Sample.listing.live? ((Sample.firstDial "*500#" " ").sessionId Sample.listing)
      (Sample.firstDial "*500#" " ").now = none ∧
    (Sample.firstDial "*500#" " ").Informs Sample.setting Sample.listing
      (.proceed (menuText Sample.setting Sample.listing.catalogue.active)) := by
  have notLive : Sample.listing.live? ((Sample.firstDial "*500#" " ").sessionId Sample.listing)
      (Sample.firstDial "*500#" " ").now = none := rfl
  have reached := (menu_is_reached_unless_its_code_is_padded Sample.inOrder notLive).2.1
  exact ⟨Sample.inOrder, notLive, reached (by decide) rfl (by decide)⟩

/-- A code between blanks is accepted, and then it is an unknown one. -/
theorem padded_menu_code_is_unknown :
    (Sample.settingWith " *500# ").engine.validate.toBool = true ∧
    Sample.listing.live? ((Sample.firstDial " *500# " "").sessionId Sample.listing)
      (Sample.firstDial " *500# " "").now = none ∧
    ((Sample.firstDial " *500# " "").serve (Sample.settingWith " *500# ") Sample.listing).1 =
      .conclude "UNKNOWN APPLICATION" := by
  decide +kernel

/-! ## Choosing in the dialled code -/

/-- The choice alone decides what the menu does. -/
theorem dial_eq_openMenu {request : CarrierRequest} {choice : String}
    (asks : request.AsksMenu setting.engine choice) (id : String) :
    (dial setting id request : Run β TurnError CarrierAnswer) =
      openMenu setting id request.phoneNumber choice := by
  unfold dial
  cases asks with
  | plain dials =>
      dsimp only
      rw [menuDial?_eq_plain_iff.mpr dials]
  | inline choice dials =>
      dsimp only
      rw [menuDial?_of_inlineDial dials]

theorem dispatch_congr {id : String} {left right : CarrierRequest} {gateway : Gateway β}
    (notLive : gateway.live? id setting.now = none)
    (same : (dial setting id left : Run β TurnError CarrierAnswer) = dial setting id right) :
    (dispatch setting id left).on gateway = (dispatch setting id right).on gateway := by
  apply Run.on_bind_congr
  intro found after finds
  rcases of_liveSession?_eq_ok (Run.on_inTurn_eq_ok.mp finds) with ⟨isNone, -⟩
  rw [notLive] at isNone
  subst isNone
  dsimp only
  rw [same]

namespace Occasion

/-- The same request with another dialled code and another text. -/
def dialling (occasion : Occasion) (dialled text : String) : Occasion :=
  { occasion with request := { occasion.request with dialled := dialled, text := text } }

theorem circumstances_dialling (setting : Setting) (occasion : Occasion) (dialled text : String) :
    (occasion.dialling dialled text).circumstances setting = occasion.circumstances setting := rfl

@[simp] theorem dialled_dialling (occasion : Occasion) (dialled text : String) :
    (occasion.dialling dialled text).request.dialled = dialled := rfl

/-- Without a live session only what is done for the dialled code and the text counts. -/
theorem serve_dialling {occasion : Occasion} {gateway : Gateway β}
    (notLive : gateway.live? (occasion.sessionId gateway) occasion.now = none)
    {dialled text otherDialled otherText : String}
    (same : ∀ id, (dial (occasion.circumstances setting) id
        (occasion.dialling dialled text).request : Run β TurnError CarrierAnswer) =
      dial (occasion.circumstances setting) id (occasion.dialling otherDialled otherText).request) :
    (occasion.dialling dialled text).serve setting gateway =
      (occasion.dialling otherDialled otherText).serve setting gateway := by
  rw [serve, serve, circumstances_dialling, circumstances_dialling]
  refine handle_congr ?_ ?_ ?_
  · rfl
  · rfl
  · intro id after finds
    have isOwn : id = occasion.sessionId gateway ∧ after = gateway := of_sessionIdFor_eq_ok finds
    rw [isOwn.1, isOwn.2]
    exact dispatch_congr notLive (same _)

end Occasion

/-- Dialling the menu with a choice in the code does exactly what dialling the menu and entering the
choice does: the answer, all stores, the backend and even the log are the same, also where stores
are out of order. -/
theorem inline_choice_equals_typed_choice {stem : String}
    (menuCode : setting.engine.mainMenuCode = stem ++ "#") (begins : stem.toList.head? = some '*')
    {occasion : Occasion} {gateway : Gateway β}
    (notLive : gateway.live? (occasion.sessionId gateway) occasion.now = none)
    (choice text : String) :
    (occasion.dialling (stem ++ "*" ++ choice ++ "#") text).serve setting gateway =
      (occasion.dialling (stem ++ "#") choice).serve setting gateway := by
  apply Occasion.serve_dialling notLive
  intro id
  rcases List.head?_eq_some_iff.mp begins with ⟨rest, chars⟩
  have inline : (occasion.dialling (stem ++ "*" ++ choice ++ "#") text).request.AsksMenu
      (occasion.circumstances setting).engine (trimmed choice) := by
    apply CarrierRequest.AsksMenu.inline choice
    refine ⟨stem, menuCode, ?_⟩
    apply trimmed_of_enclosed (rest ++ '*' :: choice.toList)
    simp [chars]
  have typed : (occasion.dialling (stem ++ "#") choice).request.AsksMenu
      (occasion.circumstances setting).engine (trimmed choice) := by
    apply CarrierRequest.AsksMenu.plain
    rw [Occasion.dialled_dialling, Occasion.circumstances_engine, menuCode]
    apply trimmed_of_enclosed rest
    simp [chars]
  exact (dial_eq_openMenu inline id).trans (dial_eq_openMenu typed id).symm

theorem inline_one_equals_typed_one :
    Sample.setting.engine.mainMenuCode = "*500" ++ "#" ∧ "*500".toList.head? = some '*' ∧
    Sample.listing.live? ((Sample.firstDial "" "").sessionId Sample.listing)
      (Sample.firstDial "" "").now = none ∧
    ((Sample.firstDial "" "").dialling ("*500" ++ "*" ++ " 1" ++ "#") "2").serve Sample.setting
        Sample.listing =
      ((Sample.firstDial "" "").dialling ("*500" ++ "#") " 1").serve Sample.setting
        Sample.listing := by
  have menuCode : Sample.setting.engine.mainMenuCode = "*500" ++ "#" := by decide
  have begins : "*500".toList.head? = some '*' := by decide
  have notLive : Sample.listing.live? ((Sample.firstDial "" "").sessionId Sample.listing)
      (Sample.firstDial "" "").now = none := rfl
  exact ⟨menuCode, begins, notLive,
    inline_choice_equals_typed_choice menuCode begins notLive " 1" "2"⟩

end Ussd
