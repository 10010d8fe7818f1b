import Ussd.Proofs.Conversation
import Ussd.Proofs.LatestSession

/-! # Forgetting a session

A session that has ended or expired might as well never have been stored, until a service starts
under its id. `Without` compares a gateway that still stores such a session with one that does not:
requests keep them in step, and the first service under the id makes their sessions the same. There
is one exception, `Hides`: a request that names no session is given the latest one of its phone
number that has not been ended, and when that one has expired, a live one is overlooked. -/

namespace Ussd

variable {β : Type} {setting : Setting}

def SessionStore.without (store : SessionStore) : Option String → SessionStore
  | none => store
  | some id => Table.erase store id

def Gateway.forget (gateway : Gateway β) (id : String) : Gateway β :=
  { gateway with sessions := Table.erase gateway.sessions id }

theorem Gateway.Sound.forget {gateway : Gateway β} (sound : gateway.Sound) (id : String) :
    (gateway.forget id).Sound where
  ordered := sound.ordered.erase id
  keyed := by
    intro other stored found
    rcases Decidable.em (other = id) with rfl | different
    · rw [Gateway.forget, sound.ordered.get?_erase_same] at found
      cases found
    · rw [Gateway.forget, Table.get?_erase_other _ different] at found
      exact sound.keyed other stored found
  listed := sound.listed
  agrees := sound.agrees

namespace SessionStore

theorem get?_without (store : SessionStore) {hidden : Option String} {id : String}
    (seen : hidden ≠ some id) : Table.get? (store.without hidden) id = Table.get? store id := by
  cases hidden with
  | none => rfl
  | some other => exact Table.get?_erase_other store fun equal => seen (congrArg some equal.symm)

theorem without_save {store : SessionStore} (ordered : Table.Ordered store)
    {hidden : Option String} {session : Session} (seen : hidden ≠ some session.id) :
    (store.save session).without hidden = (store.without hidden).save session := by
  cases hidden with
  | none => rfl
  | some other =>
      exact (ordered.insert_erase_other session
        fun equal => seen (congrArg some equal.symm)).symm

theorem without_update (store : SessionStore) (hidden : Option String) (id : String)
    (change : Session → Session) :
    (store.update id change).without hidden = (store.without hidden).update id change := by
  cases hidden with
  | none => rfl
  | some other => exact erase_update store id other change

end SessionStore

theorem Gateway.live?_deactivate {gateway : Gateway β} {id : String} {now : Instant}
    (stale : gateway.live? id now = none) (other : String) (instant : Instant) :
    Gateway.live? { gateway with
      sessions := gateway.sessions.update other (·.deactivate instant) } id now = none := by
  unfold Gateway.live? at stale ⊢
  rw [SessionStore.get?_update]
  split
  · cases Table.get? gateway.sessions id with
    | none => rfl
    | some stored => rfl
  · exact stale

/-- What is not live does not become live as time goes by. -/
theorem Gateway.live?_of_not_before {gateway : Gateway β} {id : String} {now later : Instant}
    (stale : gateway.live? id now = none) (notBefore : later.lt now = false) :
    gateway.live? id later = none := by
  unfold Gateway.live? at stale ⊢
  rw [Option.filter_eq_none_iff] at stale ⊢
  intro session found live
  apply stale session found
  rcases Bool.and_eq_true_iff.mp live with ⟨active, before⟩
  refine Bool.and_eq_true_iff.mpr ⟨active, ?_⟩
  cases less : now.lt session.expiresAt with
  | true => rfl
  | false =>
      rw [Instant.not_lt_trans notBefore less] at before
      cases before

/-- The gateway on the right stores the same as the one on the left, less a session that is not live
if one is hidden. Their logs may differ. -/
structure Without (hidden : Option String) (now : Instant) (left right : Gateway β) : Prop where
  sound : left.Sound
  stale : ∀ id, hidden = some id → left.live? id now = none
  sessions : right.sessions = left.sessions.without hidden
  records : right.records = left.records
  catalogue : right.catalogue = left.catalogue
  cache : right.cache = left.cache
  backend : right.backend = left.backend

namespace Without

variable {hidden : Option String} {now : Instant} {left right : Gateway β} {id : String}

theorem noted (without : Without hidden now left right) (events otherEvents : List Event) :
    Without hidden now { left with log := left.log ++ events }
      { right with log := right.log ++ otherEvents } :=
  { without with sound := without.sound.congr }

theorem loaded (without : Without hidden now left right) (code : String)
    (events otherEvents : List Event) :
    Without hidden now
      { left with
        cache := left.catalogue.cacheAfter left.cache code
        log := left.log ++ events }
      { right with
        cache := right.catalogue.cacheAfter right.cache code
        log := right.log ++ otherEvents } :=
  { without with
    sound := without.sound.loaded code
    cache := by rw [without.catalogue, without.cache] }

theorem saved (without : Without hidden now left right) {session : Session}
    (seen : hidden ≠ some session.id) :
    Without hidden now { left with sessions := left.sessions.save session }
      { right with sessions := right.sessions.save session } :=
  { without with
    sound := without.sound.save session
    stale := by
      intro id isHidden
      have different : id ≠ session.id := by
        rintro rfl
        exact seen isHidden
      have before := without.stale id isHidden
      unfold Gateway.live? at before ⊢
      rwa [SessionStore.get?_save_other _ different]
    sessions := by
      rw [without.sessions, SessionStore.without_save without.sound.ordered seen] }

/-- A stored session that is seen may be changed. -/
theorem changed (without : Without hidden now left right) (seen : hidden ≠ some id)
    {stored session : Session} (found : Table.get? left.sessions id = some stored)
    (sameId : session.id = stored.id) :
    Without hidden now { left with sessions := left.sessions.save session }
      { right with sessions := right.sessions.save session } := by
  have isId := sameId.trans (without.sound.keyed id stored found)
  exact without.saved (isId ▸ seen)

theorem ended (without : Without hidden now left right) (id : String) (instant : Instant) :
    Without hidden now
      { left with sessions := left.sessions.update id (·.deactivate instant) }
      { right with sessions := right.sessions.update id (·.deactivate instant) } :=
  { without with
    sound := without.sound.deactivate id instant
    stale := fun other isHidden => Gateway.live?_deactivate (without.stale other isHidden) id instant
    sessions := by rw [without.sessions, SessionStore.without_update] }

/-- Setting a session under the hidden id makes the sessions the same. -/
theorem revealed (without : Without (some id) now left right) {session : Session}
    (isHidden : session.id = id) :
    Without none now { left with sessions := left.sessions.save session }
      { right with sessions := right.sessions.save session } :=
  { without with
    sound := without.sound.save session
    stale := nofun
    sessions := by
      subst isHidden
      rw [without.sessions]
      exact without.sound.ordered.insert_erase session.id session }

theorem sound_right (without : Without hidden now left right) :
    right.catalogue.Keyed ∧ right.catalogue.Agrees right.cache := by
  rw [without.catalogue, without.cache]
  exact ⟨without.sound.listed, without.sound.agrees⟩

theorem session (without : Without hidden now left right) (seen : hidden ≠ some id) :
    Table.get? left.sessions id = Table.get? right.sessions id := by
  rw [without.sessions, SessionStore.get?_without left.sessions seen]

theorem respects_loadDefinition (inOrder : setting.InOrder) (code : String) :
    (loadDefinition setting code : Run β Fault Definition).Respects (Without hidden now) := by
  intro left right without
  rcases on_loadDefinition inOrder without.sound.listed without.sound.agrees code with
    ⟨events, loads⟩
  rcases on_loadDefinition inOrder without.sound_right.1 without.sound_right.2 code with
    ⟨otherEvents, otherLoads⟩
  rw [loads, otherLoads]
  exact ⟨by rw [without.catalogue], without.loaded code events otherEvents⟩

variable [Backend β]

theorem turnScope (seen : hidden ≠ some id) (phoneNumber serviceCode : String) :
    TurnScope (@Without β hidden now) id phoneNumber serviceCode where
  noted left right without events := without.noted events events
  session left right without := without.session seen
  merged left right without stored found entries instant := without.changed seen found rfl
  moved left right without stored found stateId instant := without.changed seen found rfl
  sent left right without timing config call request := by
    rw [without.backend]
    exact ⟨_, _, _, _, rfl, rfl, { without with
      sound := without.sound.congr
      backend := rfl }⟩
  record left right without name := by rw [without.records]
  put left right without name value := { without with
    sound := without.sound.congr
    records := by rw [without.records] }
  removed left right without name := { without with
    sound := without.sound.congr
    records := by rw [without.records] }

theorem requestScope (inOrder : setting.InOrder) (seen : hidden ≠ some id) :
    RequestScope (@Without β hidden now) setting id fun _ => True where
  catalogue _ _ without := without.catalogue.symm
  loaded := respects_loadDefinition inOrder
  turns phoneNumber _ serviceCode := turnScope seen phoneNumber serviceCode
  noted _ _ without events := without.noted events events
  session _ _ without := without.session seen
  owned _ _ without stored found := ⟨without.sound.keyed id stored found, trivial⟩
  touched _ _ without _ found _ := without.changed seen found rfl
  begun _ _ without _ _ _ _ _ := without.saved seen
  ended _ _ without := without.ended id setting.now

/-! ## Requests for the hidden session -/

omit [Backend β] in
theorem live?_hidden (without : Without (some id) now left right)
    (notBefore : setting.now.lt now = false) :
    left.live? id setting.now = none ∧ right.live? id setting.now = none := by
  refine ⟨Gateway.live?_of_not_before (without.stale id rfl) notBefore, ?_⟩
  unfold Gateway.live?
  rw [without.sessions, SessionStore.without, without.sound.ordered.get?_erase_same]
  rfl

theorem beginService (inOrder : setting.InOrder) (without : Without (some id) now left right)
    (notBefore : setting.now.lt now = false) (phoneNumber serviceCode : String)
    (definition : Definition) (initial : State) :
    let outcome := (Ussd.beginService setting id phoneNumber serviceCode definition initial).on
    (outcome left).1 = (outcome right).1 ∧ Without none now (outcome left).2 (outcome right).2 := by
  intro outcome
  rcases without.live?_hidden notBefore with ⟨leftStale, rightStale⟩
  let session : Session := .begin id phoneNumber serviceCode initial.id
    (timeoutOf setting definition.sessionLimits.effectiveTimeout?) setting.now
  have tail : (do
      let screen ← startTurn setting definition session
      conclude setting id screen : Run β TurnError CarrierAnswer).Respects
        (Without none now) := by
    have scope : RequestScope (@Without β none now) setting id fun _ => True :=
      requestScope inOrder nofun
    exact (scope.turns phoneNumber trivial serviceCode).respects_startTurn.bind fun screen =>
      scope.respects_conclude inOrder screen
  have revealed : Without none now { left with sessions := left.sessions.save session }
      { right with sessions := right.sessions.save session } := without.revealed rfl
  have onLeft : outcome left = _ :=
    on_beginService inOrder phoneNumber serviceCode definition initial leftStale
  have onRight : outcome right = _ :=
    on_beginService inOrder phoneNumber serviceCode definition initial rightStale
  rw [onLeft, onRight]
  -- Opening the session is where the two sides meet; the rest of the turn is the same on both.
  exact tail _ _ (revealed.noted _ _)

theorem startService (inOrder : setting.InOrder) (without : Without (some id) now left right)
    (notBefore : setting.now.lt now = false) (phoneNumber : String) (record : ServiceRecord) :
    let outcome := (Ussd.startService setting id phoneNumber record).on
    let begins := ∃ first, left.catalogue.beginning? setting record.code = .ok first
    (outcome left).1 = (outcome right).1 ∧
      (begins → Without none now (outcome left).2 (outcome right).2) ∧
      (¬begins → Without (some id) now (outcome left).2 (outcome right).2) := by
  intro outcome begins
  rcases on_startService inOrder without.sound.listed without.sound.agrees id phoneNumber record
    with ⟨events, onLeft⟩
  rcases on_startService inOrder without.sound_right.1 without.sound_right.2 id phoneNumber record
    with ⟨otherEvents, onRight⟩
  have loaded := without.loaded record.code events otherEvents
  have onLeft : outcome left = _ := onLeft
  have onRight : outcome right = _ := onRight
  rw [onLeft, onRight]
  rw [without.catalogue] at loaded ⊢
  cases beginning : left.catalogue.beginning? setting record.code with
  | error error =>
      refine ⟨rfl, ?_, fun _ => loaded⟩
      rintro ⟨first, begun⟩
      rw [beginning] at begun
      cases begun
  | ok first =>
      rcases first with ⟨definition, initial⟩
      rcases loaded.beginService inOrder notBefore phoneNumber record.code definition initial with
        ⟨results, begun⟩
      exact ⟨results, fun _ => begun, fun never => absurd ⟨_, beginning⟩ never⟩

/-- A request for the hidden session is dispatched as if it had never been stored. -/
theorem dispatch (inOrder : setting.InOrder) (without : Without (some id) now left right)
    (notBefore : setting.now.lt now = false) (request : CarrierRequest) :
    let outcome := (Ussd.dispatch setting id request).on
    let begins := ∃ record, dialledService? setting.engine left.catalogue request = some record ∧
      ∃ first, left.catalogue.beginning? setting record.code = .ok first
    (outcome left).1 = (outcome right).1 ∧
      (begins → Without none now (outcome left).2 (outcome right).2) ∧
      (¬begins → Without (some id) now (outcome left).2 (outcome right).2) := by
  intro outcome begins
  rcases without.live?_hidden notBefore with ⟨leftStale, rightStale⟩
  rcases on_dial inOrder id request left with ⟨events, dialsLeft⟩
  rcases on_dial inOrder id request right with ⟨otherEvents, dialsRight⟩
  have noted : Without (some id) now { left with log := left.log ++ events }
      { right with catalogue := left.catalogue, log := right.log ++ otherEvents } :=
    { without.noted events otherEvents with catalogue := rfl }
  have onLeft : outcome left = _ := on_dispatch inOrder id request left
  have onRight : outcome right = _ := on_dispatch inOrder id request right
  simp only [leftStale, dialsLeft] at onLeft
  simp only [rightStale, dialsRight, without.catalogue] at onRight
  rw [onLeft, onRight]
  cases dialled : dialledService? setting.engine left.catalogue request with
  | none =>
      refine ⟨rfl, ?_, fun _ => noted⟩
      rintro ⟨record, isDialled, -⟩
      rw [dialled] at isDialled
      cases isDialled
  | some record =>
      rcases noted.startService inOrder notBefore request.phoneNumber record with
        ⟨results, begun, notBegun⟩
      refine ⟨results, ?_, fun never => notBegun fun begins => never ⟨record, dialled, begins⟩⟩
      rintro ⟨other, isDialled, begins⟩
      rw [dialled] at isDialled
      cases isDialled
      exact begun begins

omit [Backend β] in
theorem begins_iff (without : Without (some id) now left right) {occasion : Occasion}
    (notBefore : occasion.now.lt now = false) (isOwn : occasion.sessionId left = id) :
    occasion.Begins setting id left ↔
      ∃ record, dialledService? setting.engine left.catalogue occasion.request = some record ∧
        ∃ first, left.catalogue.beginning? setting record.code = .ok first := by
  have stale := Gateway.live?_of_not_before (without.stale id rfl) notBefore
  constructor
  · rintro ⟨-, record, first, starts, begins⟩
    exact ⟨record, (Occasion.handling_eq_start.mp starts).2, first, begins⟩
  · rintro ⟨record, dialled, first, begins⟩
    exact ⟨isOwn, record, first, Occasion.handling_eq_start.mpr ⟨isOwn ▸ stale, dialled⟩, begins⟩

/-- Both sides answer a request alike if it belongs to one session on both. The hidden session stays
hidden until a service begins under its id. -/
theorem serve (inOrder : setting.InOrder) (without : Without (some id) now left right)
    {occasion : Occasion} (notBefore : occasion.now.lt now = false)
    (same : occasion.sessionId left = occasion.sessionId right) :
    (occasion.serve setting left).1 = (occasion.serve setting right).1 ∧
      (occasion.Begins setting id left →
        Without none now (occasion.serve setting left).2 (occasion.serve setting right).2) ∧
      (¬occasion.Begins setting id left →
        Without (some id) now (occasion.serve setting left).2 (occasion.serve setting right).2) := by
  rcases Decidable.em (occasion.sessionId left = id) with isOwn | other
  · rcases without.dispatch (inOrder.circumstances occasion) notBefore occasion.request with
      ⟨results, dispatched⟩
    rw [without.begins_iff notBefore isOwn]
    rw [Occasion.serve_eq inOrder, Occasion.serve_eq inOrder, ← same, isOwn]
    rcases onLeft : (Ussd.dispatch (occasion.circumstances setting) id
        occasion.request).on left with ⟨error | answer, leftAfter⟩ <;>
      rcases onRight : (Ussd.dispatch (occasion.circumstances setting) id
        occasion.request).on right with ⟨otherError | otherAnswer, rightAfter⟩ <;>
      rw [onLeft, onRight] at results dispatched
    · cases results
      have ended {hidden : Option String} (afterwards : Without hidden now leftAfter rightAfter) :=
        (afterwards.ended id occasion.now).noted
          [.turnFailed id error.message, .sessionEnded id]
          [.turnFailed id error.message, .sessionEnded id]
      exact ⟨rfl, ended ∘ dispatched.1, ended ∘ dispatched.2⟩
    · cases results
    · cases results
    · cases results
      exact ⟨rfl, dispatched⟩
  · have seen : some id ≠ some (occasion.sessionId left) :=
      fun equal => other (Option.some.inj equal).symm
    rcases (requestScope (inOrder.circumstances occasion) seen).respects_serve inOrder trivial
      without rfl same.symm with ⟨answers, served⟩
    exact ⟨answers, fun begins => absurd begins.sessionId other, fun _ => served⟩

end Without

/-! ## Requests that name no session -/

/-- The request names no session. Of the sessions of its phone number that have not been ended, the
latest is that of the id and has expired, while the latest of the others is live. -/
structure Hides (id : String) (occasion : Occasion) (gateway : Gateway β) : Prop where
  unnamed : occasion.request.namedId? = none
  finds : ∃ session, gateway.sessions.latestActive? occasion.request.phoneNumber = some session ∧
    session.id = id ∧ session.isLive occasion.now = false
  misses : ∃ session,
    (gateway.forget id).sessions.latestActive? occasion.request.phoneNumber = some session ∧
      session.isLive occasion.now = true ∧ session.id ≠ occasion.freshId

theorem Occasion.sessionId_of_unnamed {occasion : Occasion}
    (unnamed : occasion.request.namedId? = none) (gateway : Gateway β) :
    occasion.sessionId gateway =
      (((gateway.sessions.latestActive? occasion.request.phoneNumber).filter
        (·.isLive occasion.now)).map Session.id).getD occasion.freshId := by
  rw [sessionId, unnamed]
  cases (gateway.sessions.latestActive? occasion.request.phoneNumber).filter
      (·.isLive occasion.now) with
  | none => rfl
  | some session => rfl

theorem Occasion.handling_congr {left right : Gateway β} (setting : Setting) (occasion : Occasion)
    (sessions : right.sessions = left.sessions) (catalogue : right.catalogue = left.catalogue) :
    occasion.handling setting right = occasion.handling setting left := by
  unfold handling sessionId Gateway.live?
  rw [sessions, catalogue]

/-- Of the session that is hidden the request is given none, although another one is live. -/
theorem Hides.resumes {id : String} {occasion : Occasion} {gateway : Gateway β}
    (hides : Hides id occasion gateway) (sound : gateway.Sound) (setting : Setting) :
    ∃ session, occasion.handling setting (gateway.forget id) = .resume session ∧
      session.phoneNumber = occasion.request.phoneNumber ∧
        occasion.sessionId gateway ≠ session.id := by
  rcases hides.finds with ⟨stale, finds, -, expired⟩
  rcases hides.misses with ⟨session, misses, live, notFresh⟩
  have forgotten := sound.forget id
  have isOwn : occasion.sessionId (gateway.forget id) = session.id := by
    rw [Occasion.sessionId_of_unnamed hides.unnamed, misses, Option.filter_some, if_pos live]
    rfl
  have resumed : (gateway.forget id).live? session.id occasion.now = some session :=
    Gateway.live?_eq_some.mpr
      ⟨SessionStore.get?_of_latestActive? forgotten.ordered forgotten.keyed misses, live⟩
  refine ⟨session, ?_, SessionStore.phoneNumber_of_latestActive? misses, ?_⟩
  · rw [Occasion.handling, isOwn, resumed]
  · rw [Occasion.sessionId_of_unnamed hides.unnamed, finds, Option.filter_some, expired]
    exact Ne.symm notFresh

namespace Without

variable {hidden : Option String} {now : Instant} {left right : Gateway β} {id : String}

/-- A request belongs to the same session on both sides unless the hidden session hides another. -/
theorem sessionId_eq (without : Without (some id) now left right) {occasion : Occasion}
    (notBefore : occasion.now.lt now = false) (notHiding : ¬Hides id occasion left) :
    occasion.sessionId left = occasion.sessionId right := by
  cases named : occasion.request.namedId? with
  | some other => rw [Occasion.sessionId, Occasion.sessionId, named]
  | none =>
      rw [Occasion.sessionId_of_unnamed named, Occasion.sessionId_of_unnamed named,
        without.sessions, SessionStore.without]
      rcases SessionStore.latestActive?_erase left.sessions id occasion.request.phoneNumber with
        equal | ⟨stored, found, latest⟩
      · rw [equal]
      · have notLive := Gateway.live?_of_not_before (without.stale id rfl) notBefore
        rw [Gateway.live?, found, Option.filter_eq_none_iff] at notLive
        have expired : stored.isLive occasion.now = false :=
          Bool.eq_false_iff.mpr (notLive stored rfl)
        rw [latest, Option.filter_some, expired]
        change _ = (((SessionStore.latestActive? (left.forget id).sessions
          occasion.request.phoneNumber).filter _).map _).getD _
        cases missed : (left.forget id).sessions.latestActive? occasion.request.phoneNumber with
        | none => rfl
        | some session =>
            rw [Option.filter_some]
            cases live : session.isLive occasion.now with
            | false => rfl
            | true =>
                rcases Decidable.em (session.id = occasion.freshId) with isFresh | notFresh
                · simp [isFresh]
                · have isId := without.sound.keyed id stored found
                  exact absurd ⟨named, ⟨stored, latest, isId, expired⟩, session, missed, live,
                    notFresh⟩ notHiding

theorem sessionId_eq_of_none (without : Without none now left right) (occasion : Occasion) :
    occasion.sessionId left = occasion.sessionId right := by
  rw [Occasion.sessionId, Occasion.sessionId, without.sessions, SessionStore.without]

end Without

/-! ## Conversations -/

variable [Backend β]

/-- As long as no service has begun under the id, its session hides no other one. -/
def NothingHidden (setting : Setting) (id : String) : List Occasion → Gateway β → Prop
  | [], _ => True
  | occasion :: rest, gateway => ¬Hides id occasion gateway ∧
      (occasion.Begins setting id gateway ∨
        NothingHidden setting id rest (occasion.serve setting gateway).2)

namespace Without

variable {now : Instant} {left right : Gateway β} {id : String}

theorem converse_of_none (inOrder : setting.InOrder) (occasions : List Occasion)
    (without : Without none now left right) :
    (converse setting occasions left).1 = (converse setting occasions right).1 ∧
      Without none now (converse setting occasions left).2 (converse setting occasions right).2 := by
  induction occasions generalizing left right with
  | nil => exact ⟨rfl, without⟩
  | cons occasion rest induction =>
      have scope : RequestScope (@Without β none now) (occasion.circumstances setting)
          (occasion.sessionId left) fun _ => True :=
        requestScope (inOrder.circumstances occasion) nofun
      rcases scope.respects_serve inOrder trivial without rfl
        (without.sessionId_eq_of_none occasion).symm with ⟨answers, served⟩
      rcases induction served with ⟨later, final⟩
      exact ⟨by simp only [converse, answers, later], final⟩

/-- Conversations go the same way on both sides while the hidden session hides no other one. -/
theorem converse (inOrder : setting.InOrder) (occasions : List Occasion)
    (notBefore : ∀ occasion ∈ occasions, occasion.now.lt now = false)
    (without : Without (some id) now left right)
    (nothingHidden : NothingHidden setting id occasions left) :
    let onLeft := Ussd.converse setting occasions left
    let onRight := Ussd.converse setting occasions right
    let begins := ∃ encounter ∈ encounters setting occasions left,
      encounter.1.Begins setting id encounter.2
    onLeft.1 = onRight.1 ∧ (begins → Without none now onLeft.2 onRight.2) ∧
      (¬begins → Without (some id) now onLeft.2 onRight.2) := by
  induction occasions generalizing left right with
  | nil => exact ⟨rfl, nofun, fun _ => without⟩
  | cons occasion rest induction =>
      intro onLeft onRight begins
      have first := notBefore occasion List.mem_cons_self
      rcases nothingHidden with ⟨notHiding, further⟩
      rcases without.serve inOrder first (without.sessionId_eq first notHiding) with
        ⟨answers, begun, notBegun⟩
      -- Once a service has begun, nothing is hidden any more, whatever the later requests are.
      rcases Classical.em (occasion.Begins setting id left) with beginsNow | beginsNotNow
      · rcases converse_of_none inOrder rest (begun beginsNow) with ⟨later, final⟩
        refine ⟨?_, fun _ => final, fun never => absurd ?_ never⟩
        · simp only [onLeft, onRight, Ussd.converse, answers, later]
        · exact ⟨_, List.mem_cons_self, beginsNow⟩
      · rcases induction (fun other member => notBefore other (List.mem_cons_of_mem _ member))
          (notBegun beginsNotNow) (further.resolve_left beginsNotNow) with
          ⟨later, begunLater, notBegunLater⟩
        refine ⟨?_, ?_, ?_⟩
        · simp only [onLeft, onRight, Ussd.converse, answers, later]
        · rintro ⟨encounter, member, beginsThen⟩
          rcases List.mem_cons.mp member with rfl | isLater
          · exact absurd beginsThen beginsNotNow
          · exact begunLater ⟨encounter, isLater, beginsThen⟩
        · intro never
          exact notBegunLater fun ⟨encounter, isLater, beginsThen⟩ =>
            never ⟨encounter, List.mem_cons_of_mem _ isLater, beginsThen⟩

/-- Otherwise there is a request that belongs to another session on one side than on the other. -/
theorem resumes_of_hidden (inOrder : setting.InOrder) (occasions : List Occasion)
    (notBefore : ∀ occasion ∈ occasions, occasion.now.lt now = false)
    (without : Without (some id) now left right)
    (somethingHidden : ¬NothingHidden setting id occasions left) :
    ∃ earlier occasion later session, occasions = earlier ++ occasion :: later ∧
      occasion.handling setting (Ussd.converse setting earlier right).2 = .resume session ∧
      session.phoneNumber = occasion.request.phoneNumber ∧
      occasion.sessionId (Ussd.converse setting earlier left).2 ≠ session.id := by
  induction occasions generalizing left right with
  | nil => exact absurd trivial somethingHidden
  | cons occasion rest induction =>
      have first := notBefore occasion List.mem_cons_self
      rcases Classical.em (Hides id occasion left) with hides | notHiding
      · rcases hides.resumes without.sound setting with ⟨session, resumes, ofPhone, other⟩
        refine ⟨[], occasion, rest, session, rfl, ?_, ofPhone, other⟩
        rw [← resumes]
        exact Occasion.handling_congr setting occasion without.sessions without.catalogue
      · have notBegun : ¬occasion.Begins setting id left :=
          fun begins => somethingHidden ⟨notHiding, .inl begins⟩
        have served := (without.serve inOrder first (without.sessionId_eq first notHiding)).2.2
          notBegun
        rcases induction (fun other member => notBefore other (List.mem_cons_of_mem _ member))
          served (fun nothing => somethingHidden ⟨notHiding, .inr nothing⟩) with
          ⟨earlier, hidden, later, session, split, resumes, ofPhone, other⟩
        refine ⟨occasion :: earlier, hidden, later, session, ?_, resumes, ofPhone, other⟩
        rw [split, List.cons_append]

end Without

end Ussd
