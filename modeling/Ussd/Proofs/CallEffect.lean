import Ussd.Proofs.KeptEntries
import Ussd.Proofs.Retries
import Ussd.Proofs.TurnFailure

/-! # What a call changes

A call is made in the middle of a turn and keeps something in the session whatever comes of it. It
keeps all of it in one change of the session, which is either what a response was asked for or the
text that tells what went wrong. -/

namespace Ussd

/-! ## Responses tell what went wrong -/

namespace Response

/-- A response is a success or has a text about the fault. -/
def Accounted (response : Response) : Prop :=
  response.isSuccess = false → ∃ fault, response.errorMessage = some fault

theorem accounted_failure (status : CallStatus) (message : String) (duration : Nat) :
    (failure status message duration).Accounted := by
  intro _
  exact ⟨message, rfl⟩

theorem accounted_answered (code : Nat) (headers : Table String) (body : String) (duration : Nat) :
    (answered code headers body duration).Accounted := by
  intro notSuccess
  have status : CallStatus.ofCode code ≠ .success := by
    intro same
    simp [isSuccess, answered, same] at notSuccess
  exact ⟨_, if_neg status⟩

theorem extract_of_no_json {response : Response} (noJson : response.json? = none) (path : String) :
    response.extract path = none := by
  have noData : response.data? = none := by simp [data?, noJson]
  simp [extract, noJson, noData]

end Response

section

variable {β : Type} [Backend β]

theorem Reply.accounted_response (reply : Reply) (duration : Nat) :
    (reply.response duration).Accounted := by
  cases reply with
  | answered code headers body => exact Response.accounted_answered code headers body duration
  | timedOut => exact Response.accounted_failure _ _ _
  | unreachable reason => exact Response.accounted_failure _ _ _
  | broken reason => exact Response.accounted_failure _ _ _

theorem accounted_attempt (backend : β) (request : Request) (limit : Nat) :
    (attempt backend request limit).1.Accounted := by
  simp only [attempt]
  split
  · exact Reply.accounted_response _ _
  · exact Response.accounted_failure _ _ _

theorem accounted_attemptFrom (request : Request) (limit backoff : Nat) (backend : β)
    (index retries : Nat) :
    (attemptFrom request limit backoff backend index retries).response.Accounted := by
  induction retries generalizing backend index with
  | zero => exact accounted_attempt backend request limit
  | succ retries induction =>
      rw [attemptFrom]
      split
      · exact induction _ _
      · exact accounted_attempt backend request limit

theorem accounted_invoke (timing : CallTiming) (config : Option ApiConfig) (call : ApiCall)
    (data : Json) (backend : β) :
    (invoke timing config call data backend).response.Accounted := by
  unfold invoke
  split
  · exact Response.accounted_failure _ _ _
  · exact accounted_attemptFrom _ _ _ _ _ _

/-- The general text is never needed. -/
theorem failureText_eq (setting : Setting) (call : ApiCall) {response : Response} {fault : String}
    (told : response.errorMessage = some fault) :
    failureText setting call response =
      ((response.errorDetail?).or (call.onError.bind CallOutcome.message)).getD fault := by
  rw [failureText, told]
  cases (response.errorDetail?).or (call.onError.bind CallOutcome.message) <;> rfl

end

/-! ## Changes of session data -/

section

variable {β : Type} {setting : Setting} {stored : Session} {data : Fields} {start gateway : Gateway β}

/-- Since `start`, a stored session has been given other data and another time of last activity.
Everything else is as it was, except for the backend and the log. -/
structure DataOnly (stored : Session) (data : Fields) (start gateway : Gateway β) : Prop where
  session : ∃ lastActivity, Table.get? gateway.sessions stored.id =
    some { stored with data := data, lastActivity := lastActivity }
  others : ∀ other, other ≠ stored.id →
    Table.get? gateway.sessions other = Table.get? start.sessions other
  records : gateway.records = start.records
  catalogue : gateway.catalogue = start.catalogue
  cache : gateway.cache = start.cache

namespace DataOnly

theorem refl (found : Table.get? gateway.sessions stored.id = some stored) :
    DataOnly stored stored.data gateway gateway :=
  ⟨⟨_, found⟩, fun _ _ => rfl, rfl, rfl, rfl⟩

theorem congr (only : DataOnly stored data start gateway) (backend : β) (log : List Event) :
    DataOnly stored data start { gateway with backend := backend, log := log } :=
  ⟨only.session, only.others, only.records, only.catalogue, only.cache⟩

end DataOnly

def Setting.KeepsSessions (setting : Setting) : Prop :=
  setting.outage .findSession = none ∧ setting.outage .saveSession = none

/-- Since `start`, nothing has been changed, because the session store is out of order. -/
structure Untouched (setting : Setting) (stored : Session) (start gateway : Gateway β) : Prop where
  outOfOrder : ¬setting.KeepsSessions
  only : DataOnly stored stored.data start gateway

namespace DataOnly

/-- Entries are merged into the data of a session, all of them or none. -/
theorem ends_merge (setting : Setting) (stored : Session) (start : Gateway β) (entries : Fields) :
    (changeSession setting stored.id (·.merge entries setting.now)).Ends
      (DataOnly stored stored.data start)
      (fun _ => DataOnly stored (Table.merge stored.data entries) start)
      (fun _ => Untouched setting stored start) := by
  intro gateway only
  rcases only.session with ⟨lastActivity, found⟩
  rw [on_changeSession, found]
  cases readable : setting.outage .findSession with
  | some reason => exact ⟨by simp [Setting.KeepsSessions, readable], only⟩
  | none =>
      cases writable : setting.outage .saveSession with
      | some reason => exact ⟨by simp [Setting.KeepsSessions, writable], only⟩
      | none =>
          refine ⟨⟨setting.now, ?_⟩, ?_, only.records, only.catalogue, only.cache⟩
          · exact SessionStore.get?_save_same _ (Session.merge _ entries setting.now)
          · intro other different
            rw [← only.others other different]
            exact SessionStore.get?_save_other _ different

theorem ends_noted_merge (setting : Setting) (stored : Session) (start : Gateway β)
    (entries : Fields) (event : Event) :
    (do
      note event
      let _ ← changeSession setting stored.id (·.merge entries setting.now)
      return : Run β Fault Unit).Ends
      (DataOnly stored stored.data start)
      (fun _ => DataOnly stored (Table.merge stored.data entries) start)
      (fun _ => Untouched setting stored start) := by
  apply Run.Ends.bind (.note event fun gateway only => only.congr gateway.backend _)
  intro _
  apply Run.Ends.bind (ends_merge setting stored start entries)
  intro _
  exact .pure _ fun _ merged => merged

theorem ends_keepEntry (setting : Setting) (stored : Session) (start : Gateway β) (name : String)
    (value : Json) :
    (keepEntry setting stored.id name value).Ends (DataOnly stored stored.data start)
      (fun _ => DataOnly stored (Table.insert stored.data name value) start)
      (fun _ => Untouched setting stored start) :=
  ends_noted_merge setting stored start [(name, value)] _

theorem ends_keepEntries (setting : Setting) (stored : Session) (start : Gateway β)
    (entries : Fields) :
    (keepEntries setting stored.id entries).Ends (DataOnly stored stored.data start)
      (fun _ => DataOnly stored (Table.merge stored.data entries) start)
      (fun _ => Untouched setting stored start) := by
  unfold keepEntries
  split
  · rename_i empty
    rw [List.isEmpty_iff.mp empty]
    exact .pure _ fun _ only => only
  · exact ends_noted_merge setting stored start entries _

end DataOnly

end

/-! ## Calls -/

section

variable {β : Type} [Backend β]

theorem on_callBackend {ε : Type} (setting : Setting) (config : Option ApiConfig) (call : ApiCall)
    (data : Json) (gateway : Gateway β) :
    ∃ backend log, (callBackend setting config call data : Run β ε Response).on gateway =
      (.ok (invoke setting.timing config call data gateway.backend).response,
        { gateway with backend := backend, log := log }) := by
  unfold callBackend
  simp only [Run.on_bind, Run.on_noteAll, Run.on_get]
  cases invoke setting.timing config call data gateway.backend with
  | unsent fault => exact ⟨_, _, rfl⟩
  | sent request exchange => exact ⟨_, _, rfl⟩

/-- What a call comes to and which data it leaves in the session, by the response. -/
inductive CallEffect (call : ApiCall) (stored : Session) (start : Gateway β) (response : Response) :
    ActionOutcome → Gateway β → Prop
  | succeeded {after : Gateway β} {data : Fields} (success : response.isSuccess = true)
      (only : DataOnly stored data start after)
      (overridden : ∀ name, Table.get? data name =
        match (call.onSuccess.bind CallOutcome.responseMapping).bind (Table.get? · name) with
        | some path => some ((response.extract path).getD .null)
        | none => Table.get? stored.data name) :
      CallEffect call stored start response .succeeded after
  | failed {after : Gateway β} {data : Fields} {fault reason : String}
      (failure : response.isSuccess = false) (told : response.errorMessage = some fault)
      (chosen : reason =
        ((response.errorDetail?).or (call.onError.bind CallOutcome.message)).getD fault)
      (only : DataOnly stored data start after)
      (overridden : ∀ name, Table.get? data name =
        if name = errorKey then some (.text reason) else Table.get? stored.data name) :
      CallEffect call stored start response (.failed reason) after

variable {setting : Setting} {turn : Turn} {call : ApiCall} {stored : Session} {start : Gateway β}

/-- The entries that a success gives override the data. -/
theorem get?_merge_mappedEntries (response : Response) {mapping : Table String}
    (ordered : mapping.Ordered) (data : Fields) (name : String) :
    Table.get? (Table.merge data (mappedEntries response mapping)) name =
      match Table.get? mapping name with
      | some path => some ((response.extract path).getD .null)
      | none => Table.get? data name := by
  have entriesOrdered : (mappedEntries response mapping).Ordered :=
    List.pairwise_map.mpr ordered
  rw [entriesOrdered.get?_merge, mappedEntries,
    Table.get?_mapValues mapping fun path => (response.extract path).getD .null]
  cases Table.get? mapping name <;> rfl

namespace CallEffect

variable {response : Response} {after : Gateway β}

omit [Backend β] in
theorem of_no_mapping (success : response.isSuccess = true)
    (noMapping : call.onSuccess.bind CallOutcome.responseMapping = none)
    (only : DataOnly stored stored.data start after) :
    CallEffect call stored start response .succeeded after := by
  refine .succeeded success only fun name => ?_
  rw [noMapping]
  rfl

omit [Backend β] in
theorem of_mapping (success : response.isSuccess = true) {mapping : Table String}
    (mapped : call.onSuccess.bind CallOutcome.responseMapping = some mapping)
    (ordered : mapping.Ordered)
    (only : DataOnly stored (Table.merge stored.data (mappedEntries response mapping)) start after) :
    CallEffect call stored start response .succeeded after := by
  refine .succeeded success only fun name => ?_
  rw [get?_merge_mappedEntries response ordered, mapped]
  rfl

omit [Backend β] in
theorem of_failure (accounted : response.Accounted) (failure : response.isSuccess = false)
    (only : DataOnly stored
      (Table.insert stored.data errorKey (.text (failureText setting call response))) start after) :
    CallEffect call stored start response (.failed (failureText setting call response)) after := by
  rcases accounted failure with ⟨fault, told⟩
  refine .failed failure told (failureText_eq setting call told) only fun name => ?_
  split
  · rename_i isError
    rw [isError, Table.get?_insert_same]
  · rename_i different
    exact Table.get?_insert_other _ _ _ _ different

end CallEffect

/-- Since `start`, nothing has happened that a call could notice. -/
structure Pending (stored : Session) (start gateway : Gateway β) : Prop where
  only : DataOnly stored stored.data start gateway
  backend : gateway.backend = start.backend

def callResponse (setting : Setting) (turn : Turn) (call : ApiCall) (stored : Session)
    (start : Gateway β) : Response :=
  (invoke setting.timing turn.definition.apiConfig call stored.visibleData start.backend).response

namespace Pending

omit [Backend β] in
theorem ends_sessionData (setting : Setting) (stored : Session) (start : Gateway β) :
    (sessionData setting stored.id).Ends (Pending stored start)
      (fun data gateway => data = stored.visibleData ∧ Pending stored start gateway)
      (fun _ => Untouched setting stored start) := by
  intro gateway pending
  rcases pending.only.session with ⟨lastActivity, found⟩
  rw [on_sessionData, found]
  cases readable : setting.outage .findSession with
  | some reason => exact ⟨by simp [Setting.KeepsSessions, readable], pending.only⟩
  | none => exact ⟨rfl, pending⟩

theorem ends_callBackend (setting : Setting) (turn : Turn) (call : ApiCall) (stored : Session)
    (start : Gateway β) {failed : TurnError → Gateway β → Prop} :
    (callBackend setting turn.definition.apiConfig call stored.visibleData).Ends
      (Pending stored start)
      (fun response gateway => response = callResponse setting turn call stored start ∧
        DataOnly stored stored.data start gateway)
      failed := by
  intro gateway pending
  rcases on_callBackend (ε := TurnError) setting turn.definition.apiConfig call stored.visibleData
    gateway with ⟨backend, log, called⟩
  rw [called, pending.backend]
  exact ⟨rfl, pending.only.congr backend log⟩

theorem ends_runAction (isSession : stored.id = turn.session.id)
    (ordered : ∀ mapping ∈ call.onSuccess.bind CallOutcome.responseMapping, mapping.Ordered) :
    (runAction setting turn (.call call)).Ends (Pending stored start)
      (CallEffect call stored start (callResponse setting turn call stored start))
      (fun _ => Untouched setting stored start) := by
  have started (event : Event) : (note event : Run β TurnError Unit).Ends (Pending stored start)
      (fun _ => Pending stored start) (fun _ => Untouched setting stored start) :=
    fun gateway pending => ⟨pending.only.congr gateway.backend _, pending.backend⟩
  have noted (events : List Event) : (noteAll events : Run β TurnError Unit).Ends
      (DataOnly stored stored.data start) (fun _ => DataOnly stored stored.data start)
      (fun _ => Untouched setting stored start) :=
    fun gateway only => only.congr gateway.backend _
  rw [runAction_eq, performAction, runCall, ← isSession]
  apply Run.Ends.bind (started _)
  intro _
  apply Run.Ends.bind (ends_sessionData setting stored start).inTurn
  intro data
  apply Run.Ends.given
  intro isData
  rw [isData]
  apply Run.Ends.bind (ends_callBackend setting turn call stored start)
  intro response
  apply Run.Ends.given
  intro isResponse
  have accounted : response.Accounted := by
    rw [isResponse]
    exact accounted_invoke _ _ _ _ _
  rw [← isResponse]
  -- Nothing has been changed so far, and each way on makes one change at most.
  cases success : response.isSuccess with
  | true =>
      rw [if_pos rfl]
      cases mapped : call.onSuccess.bind CallOutcome.responseMapping with
      | none => exact .pure _ fun _ only => .of_no_mapping success mapped only
      | some mapping =>
          apply Run.Ends.bind (noted _)
          intro _
          apply Run.Ends.bind (DataOnly.ends_keepEntries setting stored start _).inTurn
          intro _
          exact .pure _ fun _ only => .of_mapping success mapped (ordered mapping mapped) only
  | false =>
      rw [if_neg Bool.false_ne_true]
      apply Run.Ends.bind (noted _)
      intro _
      apply Run.Ends.bind (DataOnly.ends_keepEntry setting stored start _ _).inTurn
      intro _
      exact .pure _ fun _ only => .of_failure accounted success only

end Pending

/-! ## Calls in a turn -/

/-- The computations of a turn that begin with a given action: the side actions of a state from
there on, and what happens in a processing or in a last state. -/
inductive BeginsWith (setting : Setting) (turn : Turn) (action : Action) :
    {α : Type} → Run β TurnError α → Prop
  | side (others : List Action) :
      BeginsWith setting turn action (runActions setting turn (action :: others))
  | processing (pass : State → Run β TurnError Screen) {state : State}
      (own : state.effectiveAction? = some action) :
      BeginsWith setting turn action (process setting turn pass state)
  | last {state : State} (own : state.effectiveAction? = some action) :
      BeginsWith setting turn action (finish setting turn state)

/-- What follows the action depends only on its outcome. -/
theorem BeginsWith.exists_rest {action : Action} {α : Type} {run : Run β TurnError α}
    (begins : BeginsWith setting turn action run) :
    ∃ rest : ActionOutcome → Run β TurnError α, run = runAction setting turn action >>= rest := by
  cases begins with
  | side others => exact ⟨_, rfl⟩
  | processing pass own => exact ⟨_, by rw [process, own]⟩
  | last own => exact ⟨_, by rw [finish, own]⟩

/-- A call changes the data of its session as a whole or not at all. After a success every key of the
mapping has the value at its path, or null, and after a failure only the text about it is new. Nothing
else of the session, no other session and no record is changed. Only a session store that is out of
order prevents the change, and then nothing is changed. -/
theorem call_changes_data_as_a_whole {α : Type} {run : Run β TurnError α}
    (begins : BeginsWith setting turn (.call call) run) (keyed : start.sessions.Keyed)
    (found : Table.get? start.sessions turn.session.id = some stored)
    (ordered : ∀ mapping ∈ call.onSuccess.bind CallOutcome.responseMapping, mapping.Ordered) :
    ∃ (rest : ActionOutcome → Run β TurnError α) (response : Response),
      run = runAction setting turn (.call call) >>= rest ∧
      response = callResponse setting turn call stored start ∧
      (response.json? = none → ∀ path, response.extract path = none) ∧
      ((∃ outcome after, (runAction setting turn (.call call)).on start = (.ok outcome, after) ∧
          CallEffect call stored start response outcome after) ∨
        ∃ fault after, (runAction setting turn (.call call)).on start =
            (.error (.store fault), after) ∧
          Untouched setting stored start after) := by
  rcases begins.exists_rest with ⟨rest, isRun⟩
  refine ⟨rest, _, isRun, rfl, Response.extract_of_no_json, ?_⟩
  have isSession := keyed _ _ found
  rw [← isSession] at found
  have called : (runAction setting turn (.call call)).Ends (Pending stored start)
      (CallEffect call stored start (callResponse setting turn call stored start))
      (fun _ => Untouched setting stored start) :=
    Pending.ends_runAction isSession ordered
  have ended := called start ⟨.refl found, rfl⟩
  rcases ran : (runAction setting turn (.call call)).on start with ⟨error | outcome, after⟩
  · rw [ran] at ended
    have failsOnly : (runAction setting turn (.call call) : Run β _ _).FailsOnly
        fun error => ∃ fault, error = .store fault :=
      failsOnly_runAction (fun fault => ⟨fault, rfl⟩) _
    rcases failsOnly start error after ran with ⟨fault, rfl⟩
    exact .inr ⟨fault, after, rfl, ended⟩
  · rw [ran] at ended
    exact .inl ⟨outcome, after, rfl, ended⟩

end

namespace Sample

/-- A call that asks for a name and a balance. -/
def accountCall : ApiCall :=
  { balanceCall "http://bank" with
    onSuccess := some
      { nextState := none
        responseMapping := some [("nom", "client.nom"), ("solde", "solde")]
        message := none } }

def lastCall : State := state "end" .final (some (.call accountCall)) []

/-- The gateway of a bank that knows the name only. -/
def atBank : Gateway ScriptedBackend :=
  { gateway with
    backend :=
      { backend with
        replies := [ScriptedBackend.jsonReply 200
          "\x7b\"client\": \x7b\"nom\": \"Awa\"\x7d\x7d"] } }

end Sample

theorem account_is_kept_as_a_whole :
    BeginsWith Sample.setting ⟨Sample.failing, Sample.session⟩ (.call Sample.accountCall)
      (finish Sample.setting ⟨Sample.failing, Sample.session⟩ Sample.lastCall :
        Run ScriptedBackend TurnError Screen) ∧
    Sample.atBank.sessions.Keyed ∧
    Table.get? Sample.atBank.sessions "session" = some Sample.session ∧
    (∀ mapping ∈ Sample.accountCall.onSuccess.bind CallOutcome.responseMapping, mapping.Ordered) ∧
    ∃ after data,
      (runAction Sample.setting ⟨Sample.failing, Sample.session⟩ (.call Sample.accountCall)).on
        Sample.atBank = (.ok .succeeded, after) ∧
      DataOnly Sample.session data Sample.atBank after ∧
      Table.get? data "nom" = some (.text "Awa") ∧ Table.get? data "solde" = some .null ∧
      Table.get? data errorKey = none := by
  have begins : BeginsWith Sample.setting ⟨Sample.failing, Sample.session⟩
      (.call Sample.accountCall)
      (finish Sample.setting ⟨Sample.failing, Sample.session⟩ Sample.lastCall :
        Run ScriptedBackend TurnError Screen) := .last rfl
  have keyed : Sample.atBank.sessions.Keyed := by
    refine SessionStore.Keyed.save (fun _ _ found => ?_) Sample.session
    cases found
  have found : Table.get? Sample.atBank.sessions "session" = some Sample.session := rfl
  have ordered : ∀ mapping ∈ Sample.accountCall.onSuccess.bind CallOutcome.responseMapping,
      mapping.Ordered := by
    intro mapping isMapping
    cases isMapping
    have less : "nom" < "solde" := by decide
    exact List.pairwise_pair.mpr less
  refine ⟨begins, keyed, found, ordered, ?_⟩
  rcases call_changes_data_as_a_whole begins keyed found ordered with
    ⟨_, response, -, isResponse, -, ⟨outcome, after, ran, effect⟩ | ⟨_, _, -, untouched⟩⟩
  · have success : response.isSuccess = true := by
      rw [isResponse]
      decide +kernel
    have name : response.extract "client.nom" = some (.text "Awa") := by
      have isText : (response.extract "client.nom").bind Json.text? = some "Awa" := by
        rw [isResponse]
        decide +kernel
      rcases Option.bind_eq_some_iff.mp isText with ⟨value, extracted, isText⟩
      cases value <;> cases isText
      exact extracted
    have noBalance : response.extract "solde" = none := by
      rw [← Option.isNone_iff_eq_none, isResponse]
      decide +kernel
    cases effect with
    | @succeeded _ data _ only overridden =>
        have keptName : Table.get? data "nom" =
            some ((response.extract "client.nom").getD .null) := overridden "nom"
        have keptBalance : Table.get? data "solde" =
            some ((response.extract "solde").getD .null) := overridden "solde"
        rw [name] at keptName
        rw [noBalance] at keptBalance
        exact ⟨after, data, ran, only, keptName, keptBalance, overridden errorKey⟩
    | failed failure =>
        rw [success] at failure
        cases failure
  · exact absurd ⟨rfl, rfl⟩ untouched.outOfOrder

end Ussd
