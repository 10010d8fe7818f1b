import Ussd.Proofs.Conversation

/-! # Subscribers do not interfere

Two groups of subscribers share the stores, the kept definitions and the backend. `Alike` compares a
gateway that serves both groups with one that serves only the first: requests of the first group keep
it in step, and requests of the second group are not seen there. -/

namespace Ussd

variable {β : Type}

section Replies

variable [Backend β]

/-- The backend's replies depend on nothing but the request. -/
structure Oblivious (β : Type) [Backend β] : Prop where
  latency : ∀ (left right : β) (request : Request),
    Backend.latency left request = Backend.latency right request
  reply : ∀ (left right : β) (request : Request),
    (Backend.reply left request).1 = (Backend.reply right request).1

theorem Oblivious.attempt (oblivious : Oblivious β) (left right : β) (request : Request)
    (limit : Nat) : (Ussd.attempt left request limit).1 = (Ussd.attempt right request limit).1 := by
  unfold Ussd.attempt
  dsimp only
  rw [oblivious.latency left right, oblivious.reply left right]
  split <;> rfl

theorem Oblivious.attemptFrom (oblivious : Oblivious β) (request : Request) (limit backoff : Nat)
    (left right : β) (index retries : Nat) :
    ∃ failed response leftAfter rightAfter,
      Ussd.attemptFrom request limit backoff left index retries = ⟨failed, response, leftAfter⟩ ∧
      Ussd.attemptFrom request limit backoff right index retries =
        ⟨failed, response, rightAfter⟩ := by
  have same := oblivious.attempt left right request limit
  induction retries generalizing left right index with
  | zero => exact ⟨_, _, _, _, rfl, by rw [Ussd.attemptFrom, ← same]⟩
  | succ retries induction =>
      unfold Ussd.attemptFrom
      dsimp only
      rw [← same]
      split
      · rcases induction (Ussd.attempt left request limit).2 (Ussd.attempt right request limit).2
          (index + 1) (oblivious.attempt _ _ request limit) with
          ⟨failed, response, leftAfter, rightAfter, onLeft, onRight⟩
        rw [onLeft, onRight]
        exact ⟨_, _, _, _, rfl, rfl⟩
      · exact ⟨_, _, _, _, rfl, rfl⟩

end Replies

/-- What belongs to some session ids and phone numbers is the same in two gateways; on the left there
may also be what belongs to others. -/
structure Alike (ids phones : String → Prop) (left right : Gateway β) : Prop where
  sound : left.Sound
  otherSound : right.Sound
  catalogue : left.catalogue = right.catalogue
  sessions : ∀ id, ids id → Table.get? left.sessions id = Table.get? right.sessions id
  owned : ∀ id stored, Table.get? left.sessions id = some stored →
    (ids id ↔ phones stored.phoneNumber)
  records : ∀ key : RecordKey, phones key.phoneNumber →
    RecordStore.get? left.records key = RecordStore.get? right.records key

namespace Alike

variable {ids phones : String → Prop} {left right : Gateway β} {setting : Setting} {id : String}

theorem saved (alike : Alike ids phones left right) {session : Session} (isOwn : ids session.id)
    (ofPhone : phones session.phoneNumber) :
    Alike ids phones { left with sessions := left.sessions.save session }
      { right with sessions := right.sessions.save session } where
  sound := alike.sound.save session
  otherSound := alike.otherSound.save session
  catalogue := alike.catalogue
  sessions other isOther := by
    rcases Decidable.em (other = session.id) with rfl | different
    · rw [SessionStore.get?_save_same, SessionStore.get?_save_same]
    · rw [SessionStore.get?_save_other _ different, SessionStore.get?_save_other _ different]
      exact alike.sessions other isOther
  owned other stored found := by
    rcases Decidable.em (other = session.id) with rfl | different
    · rw [SessionStore.get?_save_same] at found
      cases found
      exact iff_of_true isOwn ofPhone
    · rw [SessionStore.get?_save_other _ different] at found
      exact alike.owned other stored found
  records := alike.records

theorem changed (alike : Alike ids phones left right) (isOwn : ids id) {stored session : Session}
    (found : Table.get? left.sessions id = some stored) (sameId : session.id = stored.id)
    (samePhone : session.phoneNumber = stored.phoneNumber) :
    Alike ids phones { left with sessions := left.sessions.save session }
      { right with sessions := right.sessions.save session } := by
  have isId := sameId.trans (alike.sound.keyed id stored found)
  have ofPhone := (alike.owned id stored found).mp isOwn
  exact alike.saved (isId ▸ isOwn) (samePhone ▸ ofPhone)

theorem owned_of_deactivate (alike : Alike ids phones left right) {now : Instant} {other : String}
    {stored : Session}
    (found : Table.get? (left.sessions.update id (·.deactivate now)) other = some stored) :
    ids other ↔ phones stored.phoneNumber := by
  rw [SessionStore.get?_update] at found
  split at found
  · rcases Option.map_eq_some_iff.mp found with ⟨before, foundBefore, rfl⟩
    exact alike.owned other before foundBefore
  · exact alike.owned other stored found

theorem ended (alike : Alike ids phones left right) (id : String) (now : Instant) :
    Alike ids phones { left with sessions := left.sessions.update id (·.deactivate now) }
      { right with sessions := right.sessions.update id (·.deactivate now) } where
  sound := alike.sound.deactivate id now
  otherSound := alike.otherSound.deactivate id now
  catalogue := alike.catalogue
  sessions other isOther := by
    rw [SessionStore.get?_update, SessionStore.get?_update, alike.sessions other isOther]
  owned _ _ found := alike.owned_of_deactivate found
  records := alike.records

/-- Other definitions may have been kept, but the same is loaded. -/
theorem respects_loadDefinition (inOrder : setting.InOrder) (code : String) :
    (loadDefinition setting code : Run β Fault Definition).Respects (Alike ids phones) := by
  intro left right alike
  rcases on_loadDefinition inOrder alike.sound.listed alike.sound.agrees code with
    ⟨events, loads⟩
  rcases on_loadDefinition inOrder alike.otherSound.listed alike.otherSound.agrees code with
    ⟨otherEvents, otherLoads⟩
  rw [loads, otherLoads]
  refine ⟨by rw [alike.catalogue], ?_⟩
  exact {
    sound := alike.sound.loaded code
    otherSound := alike.otherSound.loaded code
    catalogue := alike.catalogue
    sessions := alike.sessions
    owned := alike.owned
    records := alike.records }

theorem congr (alike : Alike ids phones left right) {leftRecords rightRecords : RecordStore}
    (records : ∀ key : RecordKey, phones key.phoneNumber →
      RecordStore.get? leftRecords key = RecordStore.get? rightRecords key)
    (leftBackend rightBackend : β) (leftLog rightLog : List Event) :
    Alike ids phones
      { left with records := leftRecords, backend := leftBackend, log := leftLog }
      { right with records := rightRecords, backend := rightBackend, log := rightLog } where
  sound := alike.sound.congr
  otherSound := alike.otherSound.congr
  catalogue := alike.catalogue
  sessions := alike.sessions
  owned := alike.owned
  records := records

variable [Backend β]

theorem turnScope (oblivious : Oblivious β) (isOwn : ids id) {phoneNumber : String}
    (ofPhone : phones phoneNumber) (serviceCode : String) :
    TurnScope (@Alike β ids phones) id phoneNumber serviceCode where
  noted left right alike events := alike.congr alike.records _ _ _ _
  session left right alike := alike.sessions id isOwn
  merged left right alike stored found entries now := alike.changed isOwn found rfl rfl
  moved left right alike stored found stateId now := alike.changed isOwn found rfl rfl
  sent left right alike timing config call request := by
    rcases oblivious.attemptFrom request (callLimit timing config call) timing.backoff left.backend
      right.backend 0 ((config.map ApiConfig.retryAttempts).getD 0) with
      ⟨failed, response, leftAfter, rightAfter, onLeft, onRight⟩
    exact ⟨failed, response, leftAfter, rightAfter, onLeft, onRight,
      alike.congr alike.records _ _ _ _⟩
  record left right alike name := alike.records _ ofPhone
  put left right alike name value := by
    refine alike.congr (fun key isOwnKey => ?_) _ _ _ _
    rcases Decidable.em (key = { phoneNumber, serviceCode, name }) with rfl | different
    · rw [RecordStore.get?_put_same, RecordStore.get?_put_same]
    · rw [RecordStore.get?_put_other _ _ _ _ different, RecordStore.get?_put_other _ _ _ _ different]
      exact alike.records key isOwnKey
  removed left right alike name := by
    refine alike.congr (fun key isOwnKey => ?_) _ _ _ _
    rcases Decidable.em (key = { phoneNumber, serviceCode, name }) with rfl | different
    · rw [RecordStore.get?_remove_same, RecordStore.get?_remove_same]
    · rw [RecordStore.get?_remove_other _ different, RecordStore.get?_remove_other _ different]
      exact alike.records key isOwnKey

/-- Requests of the own group. -/
theorem requestScope (inOrder : setting.InOrder) (oblivious : Oblivious β) (isOwn : ids id) :
    RequestScope (@Alike β ids phones) setting id phones where
  catalogue _ _ alike := alike.catalogue
  loaded := respects_loadDefinition inOrder
  turns _ ofPhone serviceCode := turnScope oblivious isOwn ofPhone serviceCode
  noted _ _ alike _ := alike.congr alike.records _ _ _ _
  session _ _ alike := alike.sessions id isOwn
  owned _ _ alike stored found :=
    ⟨alike.sound.keyed id stored found, (alike.owned id stored found).mp isOwn⟩
  touched _ _ alike _ found _ := alike.changed isOwn found rfl rfl
  begun _ _ alike _ ofPhone _ _ _ := alike.saved isOwn ofPhone
  ended _ _ alike := alike.ended id setting.now

/-- Requests of the other group, which only the gateway on the left serves. -/
theorem otherScope (inOrder : setting.InOrder) (isOther : ¬ids id) (right : Gateway β) :
    RequestScope (Run.Alone fun left => Alike ids phones left right) setting id
      fun phoneNumber => ¬phones phoneNumber := by
  apply RequestScope.alone
  case loaded =>
    intro code left alike
    rcases on_loadDefinition inOrder alike.sound.listed alike.sound.agrees code with
      ⟨events, loads⟩
    rw [loads]
    exact {
      sound := alike.sound.loaded code
      otherSound := alike.otherSound
      catalogue := alike.catalogue
      sessions := alike.sessions
      owned := alike.owned
      records := alike.records }
  case noted => exact fun left alike events => alike.congr alike.records _ _ _ _
  case sent => exact fun left alike backend => alike.congr alike.records _ _ _ _
  case owned =>
    intro left alike stored found
    exact ⟨alike.sound.keyed id stored found,
      fun ofPhone => isOther ((alike.owned id stored found).mpr ofPhone)⟩
  case saved =>
    rintro left alike session rfl otherPhone
    refine ⟨alike.sound.save session, alike.otherSound, alike.catalogue, ?_, ?_, alike.records⟩
    · intro own isOwn
      have different : own ≠ session.id := by
        rintro rfl
        exact isOther isOwn
      rw [SessionStore.get?_save_other _ different]
      exact alike.sessions own isOwn
    · intro other stored found
      rcases Decidable.em (other = session.id) with rfl | different
      · rw [SessionStore.get?_save_same] at found
        cases found
        exact iff_of_false isOther otherPhone
      · rw [SessionStore.get?_save_other _ different] at found
        exact alike.owned other stored found
  case ended =>
    intro left alike now
    refine ⟨alike.sound.deactivate id now, alike.otherSound, alike.catalogue, ?_,
      fun _ _ found => alike.owned_of_deactivate found, alike.records⟩
    intro own isOwn
    have different : own ≠ id := by
      rintro rfl
      exact isOther isOwn
    exact (SessionStore.get?_update_other _ different (·.deactivate now)).trans
      (alike.sessions own isOwn)
  case recorded =>
    intro left alike records same
    refine alike.congr (fun key isOwn => ?_) _ _ _ _
    exact (same key (not_not_intro isOwn)).trans (alike.records key isOwn)

end Alike

/-! ## Conversations of two groups -/

section Conversations

variable [Backend β]

/-- The answers to the requests of two groups as they come, each with its group, and the gateway at
the end. -/
def converseTogether (setting : Setting) :
    List (Occasion ⊕ Occasion) → Gateway β → List (CarrierAnswer ⊕ CarrierAnswer) × Gateway β
  | [], gateway => ([], gateway)
  | .inl occasion :: rest, gateway =>
    let served := occasion.serve setting gateway
    let later := converseTogether setting rest served.2
    (.inl served.1 :: later.1, later.2)
  | .inr occasion :: rest, gateway =>
    let served := occasion.serve setting gateway
    let later := converseTogether setting rest served.2
    (.inr served.1 :: later.1, later.2)

variable {setting : Setting} {ids phones : String → Prop}

/-- The first group gets the answers that it gets alone. -/
theorem alike_of_together (inOrder : setting.InOrder) (oblivious : Oblivious β)
    {left right : Gateway β} (alike : Alike ids phones left right)
    {merged : List (Occasion ⊕ Occasion)}
    (own : ∀ occasion, .inl occasion ∈ merged → ∃ id, occasion.request.namedId? = some id ∧
      ids id ∧ phones occasion.request.phoneNumber)
    (other : ∀ occasion, .inr occasion ∈ merged → ∃ id, occasion.request.namedId? = some id ∧
      ¬ids id ∧ ¬phones occasion.request.phoneNumber) :
    (converseTogether setting merged left).1.filterMap Sum.getLeft? =
      (converse setting (merged.filterMap Sum.getLeft?) right).1 ∧
    Alike ids phones (converseTogether setting merged left).2
      (converse setting (merged.filterMap Sum.getLeft?) right).2 := by
  induction merged generalizing left right with
  | nil => exact ⟨rfl, alike⟩
  | cons first rest induction =>
      have ownRest := fun occasion member => own occasion (List.mem_cons_of_mem _ member)
      have otherRest := fun occasion member => other occasion (List.mem_cons_of_mem _ member)
      cases first with
      | inl occasion =>
          rcases own occasion List.mem_cons_self with ⟨id, named, isOwn, ofPhone⟩
          have scope : RequestScope (@Alike β ids phones) (occasion.circumstances setting) id
              phones :=
            Alike.requestScope (inOrder.circumstances occasion) oblivious isOwn
          rcases scope.respects_serve inOrder ofPhone alike (Occasion.sessionId_of_named named _)
            (Occasion.sessionId_of_named named _) with ⟨answers, served⟩
          rcases induction served ownRest otherRest with ⟨later, laterAlike⟩
          refine ⟨?_, laterAlike⟩
          simpa [converseTogether, converse, answers] using later
      | inr occasion =>
          rcases other occasion List.mem_cons_self with ⟨id, named, isOther, otherPhone⟩
          have scope : RequestScope (Run.Alone fun left => Alike ids phones left right)
              (occasion.circumstances setting) id fun phoneNumber => ¬phones phoneNumber :=
            Alike.otherScope (inOrder.circumstances occasion) isOther right
          have served := (scope.respects_serve inOrder otherPhone ⟨rfl, alike⟩
            (Occasion.sessionId_of_named named _) (Occasion.sessionId_of_named named _)).2.2
          exact induction served ownRest otherRest

theorem converseTogether_swap (merged : List (Occasion ⊕ Occasion)) (gateway : Gateway β) :
    converseTogether setting (merged.map Sum.swap) gateway =
      ((converseTogether setting merged gateway).1.map Sum.swap,
        (converseTogether setting merged gateway).2) := by
  induction merged generalizing gateway with
  | nil => rfl
  | cons first rest induction =>
      cases first with
      | inl occasion => simp [converseTogether, induction]
      | inr occasion => simp [converseTogether, induction]

theorem mem_map_swap {α : Type} {merged : List (α ⊕ α)} {value : α ⊕ α} :
    value ∈ merged.map Sum.swap ↔ value.swap ∈ merged := by
  constructor
  · intro member
    rcases List.mem_map.mp member with ⟨other, otherMember, rfl⟩
    rwa [Sum.swap_swap]
  · intro member
    exact List.mem_map.mpr ⟨value.swap, member, Sum.swap_swap value⟩

theorem filterMap_getLeft?_swap {α : Type} (merged : List (α ⊕ α)) :
    (merged.map Sum.swap).filterMap Sum.getLeft? = merged.filterMap Sum.getRight? := by
  rw [List.filterMap_map]
  congr 1
  funext value
  cases value <;> rfl

/-- As far as the subscribers of some requests can tell, two conversations went the same way. -/
structure SameFor (occasions : List Occasion) (together alone : List CarrierAnswer × Gateway β) :
    Prop where
  answers : together.1 = alone.1
  sessions : ∀ occasion ∈ occasions, ∀ id ∈ occasion.request.namedId?,
    Table.get? together.2.sessions id = Table.get? alone.2.sessions id
  records : ∀ occasion ∈ occasions, ∀ serviceCode name,
    let key : RecordKey := { phoneNumber := occasion.request.phoneNumber, serviceCode, name }
    RecordStore.get? together.2.records key = RecordStore.get? alone.2.records key

theorem sameFor_together (inOrder : setting.InOrder) (oblivious : Oblivious β)
    (services : List ServiceRecord) (records : RecordStore) (backend : β)
    (merged : List (Occasion ⊕ Occasion))
    (named : ∀ occasion, .inl occasion ∈ merged ∨ .inr occasion ∈ merged →
      occasion.request.namedId? ≠ none)
    (apart : ∀ own other, .inl own ∈ merged → .inr other ∈ merged →
      own.request.namedId? ≠ other.request.namedId? ∧
        own.request.phoneNumber ≠ other.request.phoneNumber) :
    let start := Gateway.opened services records backend
    let together := converseTogether setting merged start
    SameFor (merged.filterMap Sum.getLeft?) (together.1.filterMap Sum.getLeft?, together.2)
      (converse setting (merged.filterMap Sum.getLeft?) start) := by
  intro start together
  let ids (id : String) : Prop :=
    ∃ occasion, .inl occasion ∈ merged ∧ occasion.request.namedId? = some id
  let phones (phoneNumber : String) : Prop :=
    ∃ occasion, .inl occasion ∈ merged ∧ occasion.request.phoneNumber = phoneNumber
  have own (occasion : Occasion) (member : .inl occasion ∈ merged) :
      ∃ id, occasion.request.namedId? = some id ∧ ids id ∧
        phones occasion.request.phoneNumber := by
    rcases Option.ne_none_iff_exists'.mp (named occasion (.inl member)) with ⟨id, isNamed⟩
    exact ⟨id, isNamed, ⟨occasion, member, isNamed⟩, occasion, member, rfl⟩
  have other (occasion : Occasion) (member : .inr occasion ∈ merged) :
      ∃ id, occasion.request.namedId? = some id ∧ ¬ids id ∧
        ¬phones occasion.request.phoneNumber := by
    rcases Option.ne_none_iff_exists'.mp (named occasion (.inr member)) with ⟨id, isNamed⟩
    refine ⟨id, isNamed, ?_, ?_⟩
    · rintro ⟨mine, mineMember, mineNamed⟩
      exact (apart mine occasion mineMember member).1 (mineNamed.trans isNamed.symm)
    · rintro ⟨mine, mineMember, samePhone⟩
      exact (apart mine occasion mineMember member).2 samePhone
  have alike : Alike ids phones start start := {
    sound := .opened services records backend
    otherSound := .opened services records backend
    catalogue := rfl
    sessions := fun _ _ => rfl
    owned := fun _ _ stored => nomatch stored
    records := fun _ _ => rfl }
  rcases alike_of_together inOrder oblivious alike own other with ⟨answers, final⟩
  refine ⟨answers, fun occasion member id isNamed => ?_, fun occasion member serviceCode name => ?_⟩
  · have mine : .inl occasion ∈ merged := by simpa using member
    exact final.sessions id ⟨occasion, mine, isNamed⟩
  · have mine : .inl occasion ∈ merged := by simpa using member
    exact final.records _ ⟨occasion, mine, rfl⟩

/-- Two groups of subscribers without a common session id or phone number do not notice each other,
however their requests are interleaved. -/
theorem subscribers_do_not_interfere (inOrder : setting.InOrder) (oblivious : Oblivious β)
    (services : List ServiceRecord) (records : RecordStore) (backend : β)
    (merged : List (Occasion ⊕ Occasion))
    (named : ∀ occasion, .inl occasion ∈ merged ∨ .inr occasion ∈ merged →
      occasion.request.namedId? ≠ none)
    (apart : ∀ own other, .inl own ∈ merged → .inr other ∈ merged →
      own.request.namedId? ≠ other.request.namedId? ∧
        own.request.phoneNumber ≠ other.request.phoneNumber) :
    let start := Gateway.opened services records backend
    let together := converseTogether setting merged start
    SameFor (merged.filterMap Sum.getLeft?) (together.1.filterMap Sum.getLeft?, together.2)
        (converse setting (merged.filterMap Sum.getLeft?) start) ∧
      SameFor (merged.filterMap Sum.getRight?) (together.1.filterMap Sum.getRight?, together.2)
        (converse setting (merged.filterMap Sum.getRight?) start) := by
  intro start together
  have swapNamed (occasion : Occasion)
      (member : .inl occasion ∈ merged.map Sum.swap ∨ .inr occasion ∈ merged.map Sum.swap) :
      occasion.request.namedId? ≠ none :=
    named occasion (member.symm.imp mem_map_swap.mp mem_map_swap.mp)
  have swapApart (own other : Occasion) (ownMember : .inl own ∈ merged.map Sum.swap)
      (otherMember : .inr other ∈ merged.map Sum.swap) :
      own.request.namedId? ≠ other.request.namedId? ∧
        own.request.phoneNumber ≠ other.request.phoneNumber := by
    rcases apart other own (mem_map_swap.mp otherMember) (mem_map_swap.mp ownMember) with
      ⟨ids, phones⟩
    exact ⟨ids.symm, phones.symm⟩
  constructor
  · exact sameFor_together inOrder oblivious services records backend merged named apart
  · have swapped := sameFor_together inOrder oblivious services records backend
      (merged.map Sum.swap) swapNamed swapApart
    simp only [converseTogether_swap, filterMap_getLeft?_swap] at swapped
    exact swapped

end Conversations

namespace Sample

structure MuteBackend where
  received : List Request

instance : Backend MuteBackend where
  latency _ _ := 0
  reply backend request :=
    (ScriptedBackend.jsonReply 200 "\x7b\x7d", { received := request :: backend.received })
  abandon backend request := { received := request :: backend.received }

/-- Two subscribers of one service, taking turns. -/
def exchange : List (Occasion ⊕ Occasion) :=
  [.inl (visit 1000 (some "x") "237" "*1#" ""), .inr (visit 1001 (some "y") "238" "*1#" ""),
    .inr (visit 1002 (some "y") "238" "*1#" "1"), .inl (visit 1003 (some " x ") "237" "*1#" "1")]

end Sample

theorem subscribers_of_one_service_do_not_interfere :
    Sample.setting.InOrder ∧ Oblivious Sample.MuteBackend ∧
    (∀ occasion, .inl occasion ∈ Sample.exchange ∨ .inr occasion ∈ Sample.exchange →
      occasion.request.namedId? ≠ none) ∧
    (∀ own other, .inl own ∈ Sample.exchange → .inr other ∈ Sample.exchange →
      own.request.namedId? ≠ other.request.namedId? ∧
        own.request.phoneNumber ≠ other.request.phoneNumber) ∧
    let start := Gateway.opened [Sample.menuService] [] (⟨[]⟩ : Sample.MuteBackend)
    let together := converseTogether Sample.setting Sample.exchange start
    SameFor (Sample.exchange.filterMap Sum.getLeft?)
        (together.1.filterMap Sum.getLeft?, together.2)
        (converse Sample.setting (Sample.exchange.filterMap Sum.getLeft?) start) ∧
      SameFor (Sample.exchange.filterMap Sum.getRight?)
        (together.1.filterMap Sum.getRight?, together.2)
        (converse Sample.setting (Sample.exchange.filterMap Sum.getRight?) start) := by
  have oblivious : Oblivious Sample.MuteBackend := ⟨fun _ _ _ => rfl, fun _ _ _ => rfl⟩
  have allNamed : ∀ turn ∈ Sample.exchange,
      (Sum.elim id id turn : Occasion).request.namedId? ≠ none := by decide +kernel
  have allApart : ∀ own ∈ Sample.exchange.filterMap Sum.getLeft?,
      ∀ other ∈ Sample.exchange.filterMap Sum.getRight?,
        own.request.namedId? ≠ other.request.namedId? ∧
          own.request.phoneNumber ≠ other.request.phoneNumber := by decide +kernel
  have named (occasion : Occasion)
      (member : .inl occasion ∈ Sample.exchange ∨ .inr occasion ∈ Sample.exchange) :
      occasion.request.namedId? ≠ none := by
    rcases member with own | other
    · exact allNamed _ own
    · exact allNamed _ other
  have apart (own other : Occasion) (ownMember : .inl own ∈ Sample.exchange)
      (otherMember : .inr other ∈ Sample.exchange) :
      own.request.namedId? ≠ other.request.namedId? ∧
        own.request.phoneNumber ≠ other.request.phoneNumber :=
    allApart own (List.mem_filterMap.mpr ⟨_, ownMember, rfl⟩) other
      (List.mem_filterMap.mpr ⟨_, otherMember, rfl⟩)
  exact ⟨Sample.inOrder, oblivious, named, apart,
    subscribers_do_not_interfere Sample.inOrder oblivious [Sample.menuService] [] ⟨[]⟩
      Sample.exchange named apart⟩

end Ussd
