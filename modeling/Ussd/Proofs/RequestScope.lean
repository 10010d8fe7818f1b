import Ussd.Gateway.Request
import Ussd.Proofs.Scope
import Ussd.Proofs.Services

/-! # The scope of a request

Around the turn of its session a request loads a definition, and opens, prolongs or ends that one
session. `RequestScope` adds this to the scope of a turn; the stored session may belong to another
phone number than the request, so the scope is that of several phone numbers. -/

namespace Ussd

variable {β : Type} [Backend β]

/-- A relation that holds on to what the requests of some phone numbers do to a session. -/
structure RequestScope (related : Gateway β → Gateway β → Prop) (setting : Setting) (id : String)
    (phones : String → Prop) : Prop where
  catalogue : ∀ left right, related left right → left.catalogue = right.catalogue
  loaded : ∀ code, (loadDefinition setting code : Run β Fault Definition).Respects related
  turns : ∀ phoneNumber, phones phoneNumber → ∀ serviceCode,
    TurnScope related id phoneNumber serviceCode
  noted : ∀ left right, related left right → ∀ events,
    related { left with log := left.log ++ events } { right with log := right.log ++ events }
  session : ∀ left right, related left right →
    Table.get? left.sessions id = Table.get? right.sessions id
  owned : ∀ left right, related left right → ∀ stored, Table.get? left.sessions id = some stored →
    stored.id = id ∧ phones stored.phoneNumber
  touched : ∀ left right, related left right → ∀ stored, Table.get? left.sessions id = some stored →
    ∀ timeout,
      related { left with sessions := left.sessions.save (stored.touch timeout setting.now) }
        { right with sessions := right.sessions.save (stored.touch timeout setting.now) }
  begun : ∀ left right, related left right → ∀ phoneNumber, phones phoneNumber →
    ∀ serviceCode stateId timeout,
      let session := Session.begin id phoneNumber serviceCode stateId timeout setting.now
      related { left with sessions := left.sessions.save session }
        { right with sessions := right.sessions.save session }
  ended : ∀ left right, related left right →
    related { left with sessions := left.sessions.update id (·.deactivate setting.now) }
      { right with sessions := right.sessions.update id (·.deactivate setting.now) }

namespace RequestScope

variable {related : Gateway β → Gateway β → Prop} {setting : Setting} {id : String}
  {phones : String → Prop} {ε : Type}

section Steps

variable (scope : RequestScope related setting id phones) (inOrder : setting.InOrder)

include scope

theorem respects_note (event : Event) : (note event : Run β ε Unit).Respects related :=
  fun left right holds => ⟨rfl, scope.noted left right holds [event]⟩

theorem respects_startState? (definition : Definition) :
    (startState? definition : Run β TurnError (Option State)).Respects related := by
  unfold startState?
  split
  · exact Run.Respects.bind (fun left right holds => ⟨rfl, scope.noted left right holds _⟩)
      fun _ => .pure _
  · exact .pure _

include inOrder

theorem respects_endSession : (endSession setting id : Run β Fault Unit).Respects related := by
  intro left right holds
  rw [on_endSession inOrder, on_endSession inOrder]
  exact ⟨rfl, scope.noted _ _ (scope.ended left right holds) _⟩

theorem respects_conclude (screen : Screen) :
    (conclude setting id screen : Run β TurnError CarrierAnswer).Respects related := by
  unfold conclude
  split
  · exact (scope.respects_endSession inOrder).inTurn.bind fun _ => .pure _
  · exact .pure _

theorem respects_liveSession? :
    (liveSession? setting id : Run β Fault (Option Session)).Respects related := by
  intro left right holds
  rw [on_liveSession? inOrder, on_liveSession? inOrder]
  refine ⟨?_, holds⟩
  rw [Gateway.live?, Gateway.live?, scope.session left right holds]

theorem respects_touchSession (timeout : Option Nat) :
    (touchSession setting id timeout : Run β Fault Session).Respects related := by
  intro left right holds
  have same := scope.session left right holds
  cases found : Table.get? left.sessions id with
  | none =>
      rw [touchSession, on_changeSession, on_changeSession, ← same, found,
        inOrder .findSession (by decide)]
      exact ⟨rfl, holds⟩
  | some stored =>
      rw [on_touchSession inOrder found, on_touchSession inOrder (same ▸ found)]
      exact ⟨rfl, scope.touched left right holds stored found _⟩

omit inOrder in
/-- A session that is prolonged keeps its owner. -/
theorem owned_of_touchSession {left right gateway : Gateway β} (holds : related left right)
    {timeout : Option Nat} {session : Session}
    (touches : (touchSession setting id timeout).on left = (.ok session, gateway)) :
    session.id = id ∧ phones session.phoneNumber := by
  rcases on_changeSession_eq_ok touches with ⟨stored, found, rfl, -⟩
  exact scope.owned left right holds stored found

theorem respects_openSession {phoneNumber : String} (isOwn : phones phoneNumber)
    (serviceCode stateId : String) (timeout : Option Nat) :
    (openSession setting id phoneNumber serviceCode stateId timeout :
      Run β Fault Session).Respects related := by
  intro left right holds
  rw [on_openSession inOrder, on_openSession inOrder]
  have same := scope.session left right holds
  have sameSession : openedSession setting right id phoneNumber serviceCode stateId =
      openedSession setting left id phoneNumber serviceCode stateId := by
    funext timeout
    rw [openedSession, openedSession, Gateway.live?, Gateway.live?, same]
  have sameEvents : openingEvents setting right id serviceCode stateId =
      openingEvents setting left id serviceCode stateId := by
    rw [openingEvents, openingEvents, same]
  have saved (timeout : Nat) :
      let session := openedSession setting left id phoneNumber serviceCode stateId timeout
      related { left with sessions := left.sessions.save session }
        { right with sessions := right.sessions.save session } := by
    unfold openedSession
    cases live : left.live? id setting.now with
    | some existing =>
        exact scope.touched left right holds existing (Gateway.live?_eq_some.mp live).1 _
    | none => exact scope.begun left right holds phoneNumber isOwn _ _ _
  rw [sameSession, sameEvents]
  exact ⟨rfl, scope.noted _ _ (saved _) _⟩

theorem owned_of_openSession {phoneNumber : String} (isOwn : phones phoneNumber)
    {left right gateway : Gateway β} (holds : related left right) {serviceCode stateId : String}
    {timeout : Option Nat} {session : Session}
    (opens : (openSession setting id phoneNumber serviceCode stateId timeout).on left =
      (.ok session, gateway)) :
    session.id = id ∧ phones session.phoneNumber := by
  rw [on_openSession inOrder] at opens
  cases opens
  unfold openedSession
  cases live : left.live? id setting.now with
  | some existing => exact scope.owned left right holds existing (Gateway.live?_eq_some.mp live).1
  | none => exact ⟨rfl, isOwn⟩

/-! ## Turns of a request -/

theorem respects_continueSession {current : Session} (isCurrent : current.id = id) (text : String) :
    (continueSession setting current text : Run β TurnError CarrierAnswer).Respects related := by
  unfold continueSession
  rw [isCurrent]
  refine (scope.loaded _).inTurn.bind fun definition => ?_
  refine (scope.respects_touchSession inOrder _).inTurn.bindWhere
    (fun left right holds session gateway touches =>
      scope.owned_of_touchSession holds (Run.on_inTurn_eq_ok.mp touches)) fun session owned => ?_
  rcases owned with ⟨rfl, isOwn⟩
  refine ((scope.turns _ isOwn _).respects_answerTurn text).bind fun screen => ?_
  exact scope.respects_conclude inOrder screen

theorem respects_startService {phoneNumber : String} (isOwn : phones phoneNumber)
    (record : ServiceRecord) :
    (startService setting id phoneNumber record : Run β TurnError CarrierAnswer).Respects
      related := by
  unfold startService
  refine (scope.loaded _).inTurn.bind fun definition => ?_
  refine (scope.respects_startState? definition).bind fun initial => ?_
  cases initial with
  | none => exact .throw _
  | some initial =>
      refine (scope.respects_openSession inOrder isOwn _ _ _).inTurn.bindWhere
        (fun left right holds session gateway opens =>
          scope.owned_of_openSession inOrder isOwn holds (Run.on_inTurn_eq_ok.mp opens))
        fun session owned => ?_
      rcases owned with ⟨rfl, isOwnSession⟩
      refine (scope.turns _ isOwnSession _).respects_startTurn.bind fun screen => ?_
      exact scope.respects_conclude inOrder screen

omit inOrder

/-- The catalogue decides what a dialled code leads to. -/
theorem respects_catalogue {α : Type} (operation : StoreOperation) (read : Catalogue → α) :
    (do
      requireOrder setting operation
      return read (← get).catalogue : Run β Fault α).Respects related := by
  refine (Run.Respects.requireOrder _ _).bind fun _ left right holds => ?_
  exact ⟨congrArg (Except.ok ∘ read) (scope.catalogue left right holds), holds⟩

include inOrder

theorem respects_openMenu {phoneNumber : String} (isOwn : phones phoneNumber) (choice : String) :
    (openMenu setting id phoneNumber choice : Run β TurnError CarrierAnswer).Respects related := by
  unfold openMenu
  refine (scope.respects_catalogue .listServices Catalogue.active).inTurn.bind fun services => ?_
  split
  · exact .pure _
  · split
    · exact .pure _
    · split
      · exact (scope.respects_note _).bind fun _ => scope.respects_startService inOrder isOwn _
      · exact .pure _

theorem respects_dial {request : CarrierRequest} (isOwn : phones request.phoneNumber) :
    (dial setting id request : Run β TurnError CarrierAnswer).Respects related := by
  unfold dial
  dsimp only
  split
  · exact scope.respects_openMenu inOrder isOwn _
  · exact scope.respects_openMenu inOrder isOwn _
  · refine (scope.respects_catalogue .findShortCode fun catalogue =>
      (catalogue.byShortCode? _).filter ServiceRecord.isActive).inTurn.bind fun found => ?_
    cases found with
    | some record => exact scope.respects_startService inOrder isOwn record
    | none => exact (scope.respects_note _).bind fun _ => .pure _

theorem respects_dispatch {request : CarrierRequest} (isOwn : phones request.phoneNumber) :
    (dispatch setting id request : Run β TurnError CarrierAnswer).Respects related := by
  have ofSession (left right : Gateway β) (holds : related left right) (found : Option Session)
      (final : Gateway β)
      (looks : (inTurn (liveSession? setting id)).on left = (.ok found, final)) :
      ∀ current, found = some current → current.id = id := by
    rw [Run.on_inTurn_eq_ok, on_liveSession? inOrder] at looks
    cases looks
    intro current live
    exact (scope.owned left right holds current (Gateway.live?_eq_some.mp live).1).1
  refine (scope.respects_liveSession? inOrder).inTurn.bindWhere ofSession fun found isCurrent => ?_
  cases found with
  | some current => exact scope.respects_continueSession inOrder (isCurrent current rfl) _
  | none => exact scope.respects_dial inOrder isOwn

end Steps

/-- A property of single gateways holds on to the requests of some phone numbers if it does not mind
another session of theirs under the id, other records of theirs, another backend and a longer log. -/
theorem alone {property : Gateway β → Prop}
    (loaded : ∀ code, (loadDefinition setting code : Run β Fault Definition).Keeps property)
    (noted : ∀ gateway, property gateway → ∀ events,
      property { gateway with log := gateway.log ++ events })
    (sent : ∀ gateway, property gateway → ∀ backend, property { gateway with backend := backend })
    (owned : ∀ gateway, property gateway → ∀ stored, Table.get? gateway.sessions id = some stored →
      stored.id = id ∧ phones stored.phoneNumber)
    (saved : ∀ gateway, property gateway → ∀ session, session.id = id →
      phones session.phoneNumber →
        property { gateway with sessions := gateway.sessions.save session })
    (ended : ∀ gateway, property gateway → ∀ now,
      property { gateway with sessions := gateway.sessions.update id (·.deactivate now) })
    (recorded : ∀ gateway, property gateway → ∀ records,
      (∀ key : RecordKey, ¬phones key.phoneNumber →
        RecordStore.get? records key = RecordStore.get? gateway.records key) →
      property { gateway with records := records }) :
    RequestScope (Run.Alone property) setting id phones where
  catalogue := by
    rintro left _ ⟨rfl, _⟩
    rfl
  loaded code := .of_keeps (loaded code)
  turns phoneNumber isOwn serviceCode := by
    apply TurnScope.alone noted
    case merged =>
      intro gateway holds stored found entries now
      rcases owned gateway holds stored found with ⟨ofId, ofPhone⟩
      exact saved gateway holds _ ofId ofPhone
    case sent => exact sent
    case recorded =>
      intro gateway holds records same
      refine recorded gateway holds records fun key foreign => same key (.inl ?_)
      rintro rfl
      exact foreign isOwn
    case moved =>
      intro gateway holds stored found stateId now
      rcases owned gateway holds stored found with ⟨ofId, ofPhone⟩
      exact saved gateway holds _ ofId ofPhone
  noted := by
    rintro left _ ⟨rfl, holds⟩ events
    exact ⟨rfl, noted left holds events⟩
  session := by
    rintro left _ ⟨rfl, _⟩
    rfl
  owned := by
    rintro left _ ⟨rfl, holds⟩ stored found
    exact owned left holds stored found
  touched := by
    rintro left _ ⟨rfl, holds⟩ stored found timeout
    rcases owned left holds stored found with ⟨ofId, ofPhone⟩
    exact ⟨rfl, saved left holds _ ofId ofPhone⟩
  begun := by
    rintro left _ ⟨rfl, holds⟩ phoneNumber isOwn serviceCode stateId timeout
    exact ⟨rfl, saved left holds _ rfl isOwn⟩
  ended := by
    rintro left _ ⟨rfl, holds⟩
    exact ⟨rfl, ended left holds setting.now⟩

end RequestScope

end Ussd
