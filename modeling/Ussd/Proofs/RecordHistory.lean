import Ussd.Proofs.KeptEntries
import Ussd.Proofs.PlainPlaceholders
import Ussd.Proofs.Scope

/-! # The history of a record

A record belongs to a phone number, a service and a name, not to a session. What one session keeps in
it is therefore what any later session of the same subscriber finds there, until another action works
on the same record. -/

namespace Ussd

/-! ## What an operation does to a record -/

namespace RecordOperation

/-- The work of the record store that an operation needs. -/
def storeOperation : RecordOperation → StoreOperation
  | .save => .saveRecord
  | .load => .loadRecord
  | .append => .appendRecord
  | .delete => .deleteRecord

def applied (operation : RecordOperation) (records : RecordStore) (key : RecordKey) (value : Json) :
    RecordStore :=
  match operation with
  | .save => RecordStore.put records key value
  | .load => records
  | .append => RecordStore.append records key value
  | .delete => RecordStore.remove records key

/-- What becomes of the record itself. -/
def changed (operation : RecordOperation) (value : Json) (old : Option Json) : Option Json :=
  match operation with
  | .save => some value
  | .load => old
  | .append => some (RecordStore.extended old value)
  | .delete => none

variable (operation : RecordOperation) (records : RecordStore) (key : RecordKey) (value : Json)

theorem get?_applied_same :
    RecordStore.get? (operation.applied records key value) key =
      operation.changed value (RecordStore.get? records key) := by
  cases operation with
  | save => exact RecordStore.get?_put_same _ _ _
  | load => rfl
  | append => exact RecordStore.get?_put_same _ _ _
  | delete => exact RecordStore.get?_remove_same _ _

theorem get?_applied_other {other : RecordKey} (different : other ≠ key) :
    RecordStore.get? (operation.applied records key value) other =
      RecordStore.get? records other := by
  cases operation with
  | save => exact RecordStore.get?_put_other _ _ _ _ different
  | load => rfl
  | append => exact RecordStore.get?_put_other _ _ _ _ different
  | delete => exact RecordStore.get?_remove_other _ different

end RecordOperation

namespace RecordStore

/-- What a record counts as when something is appended to it. -/
def listed : Option Json → List Json
  | none => []
  | some (.list items) => items
  | some other => [other]

/-- The record after values have been appended. -/
def appendedTo (old : Option Json) : List Json → Option Json
  | [] => old
  | values => some (.list (listed old ++ values))

theorem extended_eq (old : Option Json) (item : Json) :
    extended old item = .list (listed old ++ [item]) := by
  cases old with
  | none => rfl
  | some value => cases value <;> rfl

theorem appendedTo_cons (old : Option Json) (item : Json) (values : List Json) :
    appendedTo (some (extended old item)) values = appendedTo old (item :: values) := by
  cases values with
  | nil => simp [appendedTo, extended_eq]
  | cons other values => simp [appendedTo, extended_eq, listed]

end RecordStore

/-- The value that is kept: the rendered template, else the session's entry of the given name. -/
def RecordAccess.valueIn (target : RecordAccess) (data : Json) : Json :=
  match target.value with
  | some template => Placeholder.renderValue data template
  | none => (target.storeAs.bind data.field?).getD .null

/-- The name of the record, whose template loses the blanks around it. -/
def RecordAccess.nameIn (target : RecordAccess) (data : Json) : String :=
  Placeholder.render (trimmed target.storageKey) data

section

variable {β : Type}

theorem on_recordValue (target : RecordAccess) (data : Json) (gateway : Gateway β) :
    ∃ events, (recordValue target data : Run β TurnError Json).on gateway =
      (.ok (target.valueIn data), { gateway with log := gateway.log ++ events }) := by
  unfold recordValue RecordAccess.valueIn
  cases target.value with
  | some template => exact ⟨_, rfl⟩
  | none => exact ⟨[], by simp⟩

/-- Work on the record store is noted, and takes place unless it is out of order. -/
theorem on_recordWork (setting : Setting) (operation : StoreOperation) (event : Event)
    (change : Gateway β → Gateway β) (gateway : Gateway β) :
    Run.on (do note event; requireOrder setting operation; modify change : Run β Fault Unit)
        gateway =
      match setting.outage operation with
      | some reason =>
        (.error (.of operation.faultCode reason), { gateway with log := gateway.log ++ [event] })
      | none => (.ok (), change { gateway with log := gateway.log ++ [event] }) := by
  rw [Run.on_bind, Run.on_note]
  simp only [Run.on_bind]
  cases outage : setting.outage operation with
  | some reason => rw [on_requireOrder_of_some outage]
  | none => rw [on_requireOrder_of_none outage]; rfl

section

variable [Backend β] (setting : Setting) (turn : Turn) (data : Json) (key : RecordKey)
  (target : RecordAccess) (gateway : Gateway β)

/-- An operation that changes a record does so, or it fails with the reason of the outage. -/
theorem on_accessRecord_of_change {operation : RecordOperation} (changes : operation ≠ .load) :
    ∃ events, (accessRecord setting turn operation target data key).on gateway =
      match setting.outage operation.storeOperation with
      | some reason =>
        (.ok (.error (.of .storageError reason)), { gateway with log := gateway.log ++ events })
      | none =>
        (.ok (.ok ()), { gateway with
          records := operation.applied gateway.records key (target.valueIn data)
          log := gateway.log ++ events }) := by
  rcases on_recordValue target data gateway with ⟨events, valued⟩
  unfold accessRecord
  cases operation with
  | load => exact absurd rfl changes
  | save =>
      refine ⟨events ++ [.recordSaved key.serviceCode key.name], ?_⟩
      dsimp only
      rw [Evaluator.value_plain, Run.on_bind_of_ok valued, Run.on_attemptRun, saveRecord,
        on_recordWork]
      dsimp only [RecordOperation.storeOperation]
      cases setting.outage .saveRecord <;> simp [RecordOperation.applied, StoreOperation.faultCode]
  | append =>
      refine ⟨events ++ [.recordExtended key.serviceCode key.name], ?_⟩
      dsimp only
      rw [Evaluator.value_plain, Run.on_bind_of_ok valued, Run.on_attemptRun, extendRecord,
        on_recordWork]
      dsimp only [RecordOperation.storeOperation]
      cases setting.outage .appendRecord <;> simp [RecordOperation.applied, StoreOperation.faultCode]
  | delete =>
      refine ⟨[.recordDeleted key.serviceCode key.name], ?_⟩
      dsimp only
      rw [Run.on_attemptRun, deleteRecord, on_recordWork]
      dsimp only [RecordOperation.storeOperation]
      cases setting.outage .deleteRecord <;> simp [RecordOperation.applied, StoreOperation.faultCode]

theorem on_accessRecord_load (inOrder : setting.outage .loadRecord = none) :
    ∃ events, (accessRecord setting turn .load target data key).on gateway =
      Run.on (do
        inTurn (keepEntry setting turn.session.id (target.storeAs.getD key.name)
          ((RecordStore.get? gateway.records key).getD .null))
        return .ok ()) { gateway with log := gateway.log ++ events } := by
  let event : Event :=
    .recordLoaded key.serviceCode key.name (RecordStore.get? gateway.records key).isSome
  refine ⟨[event], ?_⟩
  have loaded : (loadRecord setting key).on gateway =
      (.ok (RecordStore.get? gateway.records key), { gateway with log := gateway.log ++ [event] }) := by
    unfold loadRecord
    rw [Run.on_bind_of_ok (on_requireOrder_of_none inOrder gateway)]
    rfl
  unfold accessRecord
  dsimp only
  rw [Run.on_bind, Run.on_attemptRun, loaded]

omit [Backend β] in
theorem records_keepEntry (id name : String) (value : Json) :
    ((keepEntry setting id name value).on gateway).2.records = gateway.records := by
  rw [SessionWork.on_keepEntry, Prod.map_snd, on_changeSession]
  dsimp only
  split <;> rfl

omit [Backend β] in
theorem on_keepEntry_of_stored {id : String} {stored : Session}
    (finds : setting.outage .findSession = none) (saves : setting.outage .saveSession = none)
    (found : Table.get? gateway.sessions id = some stored) (name : String) (value : Json)
    (log : List Event) :
    (keepEntry setting id name value).on { gateway with log := log } =
      (.ok (), { gateway with
        sessions := gateway.sessions.save (stored.merge [(name, value)] setting.now)
        log := log ++ [.entryKept id name] }) := by
  rw [SessionWork.on_keepEntry, on_changeSession, finds, found, saves]
  rfl

theorem records_accessRecord (operation : RecordOperation) :
    ((accessRecord setting turn operation target data key).on gateway).2.records =
      if setting.outage operation.storeOperation = none then
        operation.applied gateway.records key (target.valueIn data)
      else gateway.records := by
  cases Decidable.em (operation = .load) with
  | inr changes =>
      rcases on_accessRecord_of_change setting turn data key target gateway changes with
        ⟨events, ran⟩
      rw [ran]
      cases setting.outage operation.storeOperation <;> rfl
  | inl isLoad =>
      subst isLoad
      rw [RecordOperation.applied, ite_self]
      cases outage : setting.outage .loadRecord with
      | some reason =>
          have refused := on_requireOrder_of_some outage gateway
          unfold accessRecord loadRecord
          dsimp only
          rw [Run.on_bind, Run.on_attemptRun, Run.on_bind, refused]
          rfl
      | none =>
          rcases on_accessRecord_load setting turn data key target gateway outage with
            ⟨events, ran⟩
          have kept := records_keepEntry setting { gateway with log := gateway.log ++ events }
            turn.session.id (target.storeAs.getD key.name)
            ((RecordStore.get? gateway.records key).getD .null)
          rw [ran, Run.on_bind, Run.on_inTurn]
          rcases keeping : (keepEntry setting turn.session.id (target.storeAs.getD key.name)
            ((RecordStore.get? gateway.records key).getD .null)).on
            { gateway with log := gateway.log ++ events } with ⟨fault | _, final⟩
          · rwa [keeping] at kept
          · rwa [keeping] at kept

end

end

/-! ## Actions on records -/

/-- An action on a record, with the circumstances in which it is run. -/
structure RecordStep where
  setting : Setting
  turn : Turn
  operation : RecordOperation
  target : RecordAccess

namespace RecordStep

variable {β : Type} (step : RecordStep) (gateway : Gateway β)

def data? : Option Json :=
  if step.setting.outage .findSession = none then
    (Table.get? gateway.sessions step.turn.session.id).map Session.visibleData
  else none

/-- The record that the action is about; without a name it is about none. -/
def key? : Option RecordKey :=
  (step.data? gateway).bind fun data =>
    if (step.target.nameIn data).isEmpty then none
    else some {
      phoneNumber := step.turn.session.phoneNumber
      serviceCode := step.turn.session.serviceCode
      name := step.target.nameIn data }

/-- The value that the action keeps. -/
def value : Json := ((step.data? gateway).map step.target.valueIn).getD .null

def report (name : String) : Except Fault Unit → Run β TurnError ActionOutcome
  | .ok () => return .succeeded
  | .error fault => do
    note (.recordActionFailed step.turn.session.id name step.operation fault.display)
    return .failed fault.message

theorem on_report (name : String) (done : Except Fault Unit) :
    ∃ events, (step.report name done).on gateway =
      (.ok (match done with
        | .ok () => .succeeded
        | .error fault => .failed fault.message), { gateway with log := gateway.log ++ events }) := by
  cases done with
  | ok => exact ⟨[], by simp [report]⟩
  | error fault => exact ⟨_, rfl⟩

variable {step gateway}

theorem key?_of_name {data : Json} {name : String} (isData : step.data? gateway = some data)
    (isName : step.target.nameIn data = name) (named : name ≠ "") :
    step.key? gateway =
      some ⟨step.turn.session.phoneNumber, step.turn.session.serviceCode, name⟩ := by
  rw [key?, isData, Option.bind_some, isName, if_neg (by simpa using named)]

/-- The sessions alone decide which record it is, and which value. -/
theorem key?_congr {other : Gateway β} (same : gateway.sessions = other.sessions) :
    step.key? gateway = step.key? other := by
  rw [key?, key?, data?, data?, same]

theorem value_congr {other : Gateway β} (same : gateway.sessions = other.sessions) :
    step.value gateway = step.value other := by
  rw [value, value, data?, data?, same]

variable (step gateway) [Backend β]

def result : Except TurnError ActionOutcome × Gateway β :=
  (runAction step.setting step.turn (.access step.operation step.target)).on gateway

def outcome : Except TurnError ActionOutcome := (step.result gateway).1

def after : Gateway β := (step.result gateway).2

variable {step gateway} {key : RecordKey} {data : Json}

theorem result_of_no_data (noData : step.data? gateway = none) :
    ∃ error events, step.result gateway =
      (.error error, { gateway with log := gateway.log ++ events }) := by
  have read (log : List Event) : ∃ fault, (sessionData step.setting step.turn.session.id).on
      { gateway with log := log } = (.error fault, { gateway with log := log }) := by
    rw [on_sessionData]
    unfold data? at noData
    cases outage : step.setting.outage .findSession with
    | some reason => exact ⟨_, rfl⟩
    | none =>
        rw [outage, if_pos rfl, Option.map_eq_none_iff] at noData
        rw [noData]
        exact ⟨_, rfl⟩
  rcases read (gateway.log ++ [.actionStarted step.turn.session.id
    (.access step.operation step.target)]) with ⟨fault, read⟩
  refine ⟨.store fault, [.actionStarted step.turn.session.id (.access step.operation step.target)],
    ?_⟩
  unfold result runAction
  rw [Run.on_bind, Run.on_note]
  dsimp only
  rw [runAccess, Run.on_bind, Run.on_inTurn, read]
  rfl

theorem result_of_data (isData : step.data? gateway = some data) :
    ∃ events, step.result gateway =
      Run.on
        (if (step.target.nameIn data).isEmpty then return .failed "storage key is empty"
        else
          accessRecord step.setting step.turn step.operation step.target data
            { phoneNumber := step.turn.session.phoneNumber
              serviceCode := step.turn.session.serviceCode
              name := step.target.nameIn data } >>= step.report (step.target.nameIn data))
        { gateway with log := gateway.log ++ events } := by
  have read (log : List Event) : (sessionData step.setting step.turn.session.id).on
      { gateway with log := log } = (.ok data, { gateway with log := log }) := by
    rw [on_sessionData]
    unfold data? at isData
    split at isData
    · rename_i inOrder
      rcases Option.map_eq_some_iff.mp isData with ⟨session, found, rfl⟩
      rw [inOrder, found]
    · cases isData
  refine ⟨[.actionStarted step.turn.session.id (.access step.operation step.target)] ++
    (Placeholder.unknownFilters (trimmed step.target.storageKey)).map .unknownFilter, ?_⟩
  unfold result runAction
  rw [Run.on_bind, Run.on_note]
  dsimp only
  rw [runAccess, Run.on_bind_of_ok (Run.on_inTurn_eq_ok.mpr (read _)), ← List.append_assoc]
  rfl

theorem records_of_no_key (noKey : step.key? gateway = none) :
    (step.after gateway).records = gateway.records := by
  unfold after
  cases isData : step.data? gateway with
  | none =>
      rcases result_of_no_data isData with ⟨error, events, ran⟩
      rw [ran]
  | some data =>
      rcases result_of_data isData with ⟨events, ran⟩
      rw [key?, isData, Option.bind_some] at noKey
      split at noKey
      · rename_i unnamed
        rw [ran, if_pos unnamed]
        rfl
      · cases noKey

theorem result_of_key (isKey : step.key? gateway = some key) :
    ∃ data events, step.data? gateway = some data ∧
      step.result gateway =
        Run.on (accessRecord step.setting step.turn step.operation step.target data key >>=
          step.report key.name) { gateway with log := gateway.log ++ events } := by
  rcases Option.bind_eq_some_iff.mp isKey with ⟨data, isData, isKey⟩
  rcases result_of_data isData with ⟨events, ran⟩
  split at isKey
  · cases isKey
  · rename_i named
    cases isKey
    rw [if_neg named] at ran
    exact ⟨data, events, isData, ran⟩

theorem records_of_key (isKey : step.key? gateway = some key) :
    (step.after gateway).records =
      if step.setting.outage step.operation.storeOperation = none then
        step.operation.applied gateway.records key (step.value gateway)
      else gateway.records := by
  rcases result_of_key isKey with ⟨data, events, isData, ran⟩
  have isValue : step.value gateway = step.target.valueIn data := by
    rw [value, isData]
    rfl
  have worked := records_accessRecord step.setting step.turn data key step.target
    { gateway with log := gateway.log ++ events } step.operation
  rw [isValue, after, ran, Run.on_bind]
  rcases working : (accessRecord step.setting step.turn step.operation step.target data key).on
    { gateway with log := gateway.log ++ events } with ⟨error | done, final⟩
  · rwa [working] at worked
  · rcases step.on_report final key.name done with ⟨more, reported⟩
    rw [working] at worked
    dsimp only
    rw [reported]
    exact worked

/-- Only what is loaded is kept in a session. -/
theorem sessions_of_change (isKey : step.key? gateway = some key) (changes : step.operation ≠ .load) :
    (step.after gateway).sessions = gateway.sessions := by
  rcases result_of_key isKey with ⟨data, events, -, ran⟩
  rcases on_accessRecord_of_change step.setting step.turn data key step.target
    { gateway with log := gateway.log ++ events } changes with ⟨more, worked⟩
  rw [after, ran, Run.on_bind, worked]
  cases step.setting.outage step.operation.storeOperation <;> rfl

theorem get?_after (step : RecordStep) (gateway : Gateway β) (key : RecordKey) :
    RecordStore.get? (step.after gateway).records key =
      if step.key? gateway = some key ∧ step.setting.outage step.operation.storeOperation = none then
        step.operation.changed (step.value gateway) (RecordStore.get? gateway.records key)
      else RecordStore.get? gateway.records key := by
  cases isKey : step.key? gateway with
  | none => rw [records_of_no_key isKey, if_neg (by simp)]
  | some touched =>
      rw [records_of_key isKey]
      by_cases inOrder : step.setting.outage step.operation.storeOperation = none
      · rw [if_pos inOrder]
        rcases Decidable.em (touched = key) with rfl | different
        · rw [if_pos ⟨rfl, inOrder⟩, RecordOperation.get?_applied_same]
        · rw [if_neg fun both => different (Option.some.inj both.1),
            RecordOperation.get?_applied_other _ _ _ _ (Ne.symm different)]
      · rw [if_neg inOrder, if_neg fun both => inOrder both.2]

theorem outcome_of_change (isKey : step.key? gateway = some key) (changes : step.operation ≠ .load)
    (inOrder : step.setting.outage step.operation.storeOperation = none) :
    step.outcome gateway = .ok .succeeded := by
  rcases result_of_key isKey with ⟨data, events, -, ran⟩
  rcases on_accessRecord_of_change step.setting step.turn data key step.target
    { gateway with log := gateway.log ++ events } changes with ⟨more, worked⟩
  rw [inOrder] at worked
  rw [outcome, ran, Run.on_bind_of_ok worked]
  rfl

theorem keyed_after (step : RecordStep) (keyed : gateway.sessions.Keyed) :
    (step.after gateway).sessions.Keyed := by
  have scope : ActionScope (Run.Alone fun gateway : Gateway β => gateway.sessions.Keyed)
      step.turn.session.id step.turn.session.phoneNumber step.turn.session.serviceCode :=
    ActionScope.alone (fun _ keyed _ => keyed) (fun _ keyed _ _ _ _ => keyed.save _)
      (fun _ keyed _ => keyed) fun _ keyed _ _ => keyed
  exact (scope.respects_runAction (.access step.operation step.target)).keeps gateway keyed

/-- The action succeeds, and leaves the value in the session under the name of its target. -/
structure Fetches (step : RecordStep) (gateway : Gateway β) (key : RecordKey) (value : Json) : Prop
    where
  succeeds : step.outcome gateway = .ok .succeeded
  kept : ∃ session, Table.get? (step.after gateway).sessions step.turn.session.id = some session ∧
    Table.get? session.data (step.target.storeAs.getD key.name) = some value

theorem fetches_of_load (keyed : gateway.sessions.Keyed) (isKey : step.key? gateway = some key)
    (loads : step.operation = .load) (inOrder : ∀ operation, step.setting.outage operation = none) :
    step.Fetches gateway key ((RecordStore.get? gateway.records key).getD .null) := by
  rcases result_of_key isKey with ⟨data, events, isData, ran⟩
  rw [loads] at ran
  rcases on_accessRecord_load step.setting step.turn data key step.target
    { gateway with log := gateway.log ++ events } (inOrder _) with ⟨more, worked⟩
  unfold data? at isData
  rw [if_pos (inOrder _)] at isData
  rcases Option.map_eq_some_iff.mp isData with ⟨stored, found, -⟩
  have keeping := on_keepEntry_of_stored step.setting gateway (inOrder _) (inOrder _) found
    (step.target.storeAs.getD key.name) ((RecordStore.get? gateway.records key).getD .null)
    (gateway.log ++ events ++ more)
  rw [Run.on_bind_of_ok (Run.on_inTurn_eq_ok.mpr keeping)] at worked
  rw [Run.on_bind_of_ok worked] at ran
  have sameId : stored.id = step.turn.session.id := keyed _ _ found
  refine ⟨by rw [outcome, ran]; rfl, stored.merge [(_, _)] step.setting.now, ?_,
    Table.get?_insert_same _ _ _⟩
  rw [after, ran, ← sameId]
  exact SessionStore.get?_save_same _ (stored.merge _ _)

end RecordStep

/-! ## Runs of actions -/

section

variable {β : Type} [Backend β] {key : RecordKey}

/-- A run of actions of which those on the record of the key only load it or append the values, in
this order. Meanwhile sessions may come and go. -/
inductive Appending (key : RecordKey) : Gateway β → List RecordStep → List Json → Gateway β → Prop
  | done (gateway : Gateway β) : Appending key gateway [] [] gateway
  | meanwhile {gateway between last : Gateway β} {steps : List RecordStep} {values : List Json}
      (sameRecords : between.records = gateway.records) (keyed : between.sessions.Keyed)
      (appending : Appending key between steps values last) :
      Appending key gateway steps values last
  | elsewhere {step : RecordStep} {gateway last : Gateway β} {steps : List RecordStep}
      {values : List Json} (apart : step.key? gateway ≠ some key)
      (appending : Appending key (step.after gateway) steps values last) :
      Appending key gateway (step :: steps) values last
  | loads {step : RecordStep} {gateway last : Gateway β} {steps : List RecordStep}
      {values : List Json} (isLoad : step.operation = .load)
      (appending : Appending key (step.after gateway) steps values last) :
      Appending key gateway (step :: steps) values last
  | appends {step : RecordStep} {gateway last : Gateway β} {steps : List RecordStep}
      {values : List Json} (isKey : step.key? gateway = some key)
      (isAppend : step.operation = .append) (inOrder : step.setting.outage .appendRecord = none)
      (appending : Appending key (step.after gateway) steps values last) :
      Appending key gateway (step :: steps) (step.value gateway :: values) last

theorem Appending.keyed {gateway last : Gateway β} {steps : List RecordStep} {values : List Json}
    (appending : Appending key gateway steps values last) (keyed : gateway.sessions.Keyed) :
    last.sessions.Keyed := by
  induction appending with
  | done => exact keyed
  | meanwhile _ betweenKeyed _ induction => exact induction betweenKeyed
  | @elsewhere step _ _ _ _ _ _ induction => exact induction (step.keyed_after keyed)
  | @loads step _ _ _ _ _ _ induction => exact induction (step.keyed_after keyed)
  | @appends step _ _ _ _ _ _ _ _ induction => exact induction (step.keyed_after keyed)

theorem Appending.get?_eq {gateway last : Gateway β} {steps : List RecordStep} {values : List Json}
    (appending : Appending key gateway steps values last) :
    RecordStore.get? last.records key =
      RecordStore.appendedTo (RecordStore.get? gateway.records key) values := by
  induction appending with
  | done => rfl
  | meanwhile sameRecords _ _ induction => rw [induction, sameRecords]
  | @elsewhere step gateway _ _ _ apart _ induction =>
      rw [induction, step.get?_after, if_neg fun both => apart both.1]
  | @loads step gateway _ _ _ isLoad _ induction =>
      rw [induction, step.get?_after, isLoad, RecordOperation.changed, ite_self]
  | @appends step gateway _ _ _ isKey isAppend inOrder _ induction =>
      have works : step.setting.outage step.operation.storeOperation = none := by
        rw [isAppend]
        exact inOrder
      rw [induction, step.get?_after, if_pos ⟨isKey, works⟩, isAppend, RecordOperation.changed,
        RecordStore.appendedTo_cons]

/-- What is saved for a subscriber of a service is loaded again in any session of the two, whatever
is done to other records in between. Values that are appended instead are added in their order to the
list that the record is, or to the list of what it is if that is no list, or to the empty list. -/
theorem records_come_back_across_sessions {gateway : Gateway β} (keyed : gateway.sessions.Keyed)
    {loading : RecordStep} {steps : List RecordStep} {last : Gateway β}
    (loads : loading.operation = .load) (isKey : loading.key? last = some key)
    (inOrder : ∀ operation, loading.setting.outage operation = none) :
    (∀ saving : RecordStep, saving.operation = .save → saving.key? gateway = some key →
      saving.setting.outage .saveRecord = none →
      Appending key (saving.after gateway) steps [] last →
      saving.outcome gateway = .ok .succeeded ∧ loading.Fetches last key (saving.value gateway)) ∧
    (∀ values, values ≠ [] → Appending key gateway steps values last →
      loading.Fetches last key
        (.list (RecordStore.listed (RecordStore.get? gateway.records key) ++ values))) ∧
    (Appending key gateway steps [] last →
      loading.Fetches last key ((RecordStore.get? gateway.records key).getD .null)) := by
  have fetches {values : List Json} {start : Gateway β} (startKeyed : start.sessions.Keyed)
      (appending : Appending key start steps values last) :
      loading.Fetches last key
        ((RecordStore.appendedTo (RecordStore.get? start.records key) values).getD .null) := by
    rw [← appending.get?_eq]
    exact RecordStep.fetches_of_load (appending.keyed startKeyed) isKey loads inOrder
  refine ⟨?saved, ?appended, ?kept⟩
  case saved =>
    intro saving saves savingKey savingInOrder appending
    have works : saving.setting.outage saving.operation.storeOperation = none := by
      rw [saves]
      exact savingInOrder
    have changes : saving.operation ≠ .load := by
      rw [saves]
      nofun
    have fetched := fetches (saving.keyed_after keyed) appending
    rw [saving.get?_after, if_pos ⟨savingKey, works⟩, saves] at fetched
    exact ⟨RecordStep.outcome_of_change savingKey changes works, fetched⟩
  case appended =>
    intro values nonempty appending
    have fetched := fetches keyed appending
    cases values with
    | nil => exact absurd rfl nonempty
    | cons value values => exact fetched
  case kept => exact fetches keyed

end

/-! ## A record of two sessions -/

namespace Sample

/-- The session of the subscriber who chooses, and the next one. -/
def chooser : Session := { session with data := [("choix", .list [.text "riz", .null])] }

def returner : Session :=
  { Session.begin "next" "phone" "service" "menu" 300 setting.now with
    data := [("liste", .text "favoris")] }

def shop : Gateway ScriptedBackend :=
  { Gateway.empty backend with
    sessions := SessionStore.save (SessionStore.save [] chooser) returner
    records := [(⟨"phone", "service", "favoris"⟩, .text "eau")] }

def favourites : RecordKey := ⟨"phone", "service", "favoris"⟩

def stepOf (session : Session) (operation : RecordOperation) (target : RecordAccess) :
    RecordStep where
  setting := setting
  turn := { definition := definition [], session := session }
  operation := operation
  target := target

def saving : RecordStep :=
  stepOf chooser .save { storageKey := "favoris", storeAs := some "choix", value := none }

def extending : RecordStep :=
  stepOf chooser .append
    { storageKey := "favoris", storeAs := none, value := some (.number (.whole 2)) }

/-- The key is told by the session. -/
def comingBack : RecordStep :=
  stepOf returner .load
    { storageKey := "\x7b\x7bliste\x7d\x7d", storeAs := none, value := none }

def forgetting : RecordStep :=
  stepOf returner .delete { storageKey := "autres", storeAs := none, value := none }

theorem nameIn_of_literal {target : RecordAccess} {name : String} (isKey : target.storageKey = name)
    (trims : trimmed name = name) (braceless : name.toList.all (!Placeholder.isBrace ·) = true)
    (data : Json) : target.nameIn data = name := by
  rw [RecordAccess.nameIn, isKey, trims]
  exact Placeholder.render_of_braceless (by simpa using braceless) data

end Sample

theorem favourites_come_back :
    Sample.shop.sessions.Keyed ∧ Sample.saving.key? Sample.shop = some Sample.favourites ∧
    Sample.saving.outcome Sample.shop = .ok .succeeded ∧
    Sample.comingBack.Fetches (Sample.forgetting.after (Sample.saving.after Sample.shop))
      Sample.favourites (.list [.text "riz", .null]) ∧
    Sample.comingBack.Fetches (Sample.extending.after (Sample.extending.after Sample.shop))
      Sample.favourites (.list [.text "eau", .number (.whole 2), .number (.whole 2)]) ∧
    Sample.comingBack.Fetches Sample.shop Sample.favourites (.text "eau") := by
  have noSession : SessionStore.Keyed [] := nofun
  have keyed : Sample.shop.sessions.Keyed := (noSession.save Sample.chooser).save Sample.returner
  have savingKey : Sample.saving.key? Sample.shop = some Sample.favourites :=
    RecordStep.key?_of_name rfl
      (Sample.nameIn_of_literal rfl (by decide +kernel) (by decide +kernel) _) (by decide)
  have extendingKey : Sample.extending.key? Sample.shop = some Sample.favourites :=
    RecordStep.key?_of_name rfl
      (Sample.nameIn_of_literal rfl (by decide +kernel) (by decide +kernel) _) (by decide)
  have forgettingKey : Sample.forgetting.key? Sample.shop =
      some ⟨"phone", "service", "autres"⟩ :=
    RecordStep.key?_of_name rfl
      (Sample.nameIn_of_literal rfl (by decide +kernel) (by decide +kernel) _) (by decide)
  have loadingKey : Sample.comingBack.key? Sample.shop = some Sample.favourites := by
    have isTag : trimmed Sample.comingBack.target.storageKey =
        String.ofList (Message.tagText "liste".toList) := by decide +kernel
    have braceless : ∀ c ∈ "liste".toList, Placeholder.isBrace c = false :=
      Text.forall_of_all (by decide +kernel)
    have shown : (Placeholder.evaluate "liste".toList Sample.returner.visibleData).display =
        "favoris" := by decide +kernel
    have isName : Sample.comingBack.target.nameIn Sample.returner.visibleData = "favoris" := by
      rw [RecordAccess.nameIn, isTag, Placeholder.render_tagText (by decide +kernel) braceless,
        shown]
    exact RecordStep.key?_of_name rfl isName (by decide)
  have inOrder : ∀ operation, Sample.comingBack.setting.outage operation = none := fun _ => rfl
  have afterSaving := RecordStep.sessions_of_change savingKey nofun
  have forgettingLater := (RecordStep.key?_congr afterSaving).trans forgettingKey
  have afterForgetting := (RecordStep.sessions_of_change forgettingLater nofun).trans afterSaving
  have afterExtending := RecordStep.sessions_of_change extendingKey nofun
  have extendingLater := (RecordStep.key?_congr afterExtending).trans extendingKey
  have afterAgain := (RecordStep.sessions_of_change extendingLater nofun).trans afterExtending
  have forgotten : Appending Sample.favourites (Sample.saving.after Sample.shop)
      [Sample.forgetting] [] (Sample.forgetting.after (Sample.saving.after Sample.shop)) :=
    .elsewhere (by rw [forgettingLater]; decide) (.done _)
  have extended := Appending.appends extendingKey rfl rfl
    (.appends extendingLater rfl rfl (.done _))
  have isTwo : Sample.extending.value Sample.shop = .number (.whole 2) := rfl
  rw [RecordStep.value_congr afterExtending, isTwo] at extended
  rcases records_come_back_across_sessions keyed rfl
    ((RecordStep.key?_congr afterForgetting).trans loadingKey) inOrder with ⟨saved, -, -⟩
  rcases saved Sample.saving rfl savingKey rfl forgotten with ⟨succeeds, fetched⟩
  rcases records_come_back_across_sessions keyed rfl
    ((RecordStep.key?_congr afterAgain).trans loadingKey) inOrder with ⟨-, appended, -⟩
  rcases records_come_back_across_sessions keyed rfl loadingKey inOrder with ⟨-, -, kept⟩
  refine ⟨keyed, savingKey, succeeds, ?_, ?_, kept (.done _)⟩
  · exact fetched
  · exact appended _ nofun extended

end Ussd
