import Ussd.Proofs.Comparisons
import Ussd.Proofs.Conversation
import Ussd.Proofs.DocumentPaths
import Ussd.Proofs.JsonDocument

/-! # Entries of session data

What is kept in a session under a name is kept in one field. Templates, conditions and request bodies
ask for a path, which enters objects at every dot. A name without a dot is such a path itself, and
what was kept under it is read back until something else is written there. -/

namespace Ussd

/-! ## Names as paths -/

namespace Json

open Condition

theorem lookup_variablePath {path : List Char} (isVariable : isVariablePath path) (data : Json) :
    data.lookup path = walk data (Text.splitOn '.' path) := by
  simp [lookup, trim_variablePath isVariable, variablePath_ne_nil isVariable]

theorem extract_variablePath {path : List Char} (isVariable : isVariablePath path) (data : Json) :
    data.extract path =
      if path = ['$'] then some data
      else enterSegments data (Text.splitOn '.' ((Text.afterStart? ['$', '.'] path).getD path)) := by
  have notDot : path ≠ ['.'] := by
    rintro rfl
    cases isVariable
  have nonempty : (Text.afterStart? ['$', '.'] path).getD path ≠ [] := by
    cases found : Text.afterStart? ['$', '.'] path with
    | none => exact variablePath_ne_nil isVariable
    | some rest =>
        rintro rfl
        rw [Text.afterStart?_eq_some_iff] at found
        subst found
        cases isVariable
  simp [extract, trim_variablePath isVariable, notDot, nonempty]

/-- A segment that is a name enters by it. -/
theorem enterSegment_name {name : List Char} (nonempty : name ≠ [])
    (isName : ∀ c ∈ name, isNameChar c) (data : Json) :
    enterSegment data name = enterKey data name := by
  apply enterSegment_of_plain nonempty
  intro isMember
  cases isName '[' isMember

variable {fields others : Fields} {name : String}

/-- A name without a dot is looked up in the fields. -/
theorem lookup_name (isVariable : isVariablePath name.toList) (oneName : '.' ∉ name.toList) :
    (object fields).lookup name.toList = Table.get? fields name := by
  rw [lookup_variablePath isVariable, Text.splitOn_of_not_mem oneName]
  simp [walk, field?, fields?]

theorem extract_name (isVariable : isVariablePath name.toList) (oneName : '.' ∉ name.toList)
    (notRoot : name ≠ "$") : (object fields).extract name.toList = Table.get? fields name := by
  have isPiece : name.toList ∈ Text.splitOn '.' name.toList := by
    simp [Text.splitOn_of_not_mem oneName]
  rcases isVariablePath_pieces isVariable _ isPiece with ⟨nonempty, isName⟩
  have notDollar : name.toList ≠ ['$'] := by
    intro same
    exact notRoot (String.toList_injective same)
  have noStart : Text.afterStart? ['$', '.'] name.toList = none := by
    rw [Text.afterStart?_eq_none_iff]
    rintro ⟨rest, same⟩
    apply oneName
    simp [← same]
  rw [extract_variablePath isVariable, if_neg notDollar, noStart, Option.getD_none,
    Text.splitOn_of_not_mem oneName]
  simp [enterSegments, enterSegment_name nonempty isName, enterKey]

/-- A path with a dot is not looked up in the field of its whole name. -/
theorem lookup_dotted (isVariable : isVariablePath name.toList) (dotted : '.' ∈ name.toList)
    (same : ∀ other, other ≠ name → Table.get? fields other = Table.get? others other) :
    (object fields).lookup name.toList = (object others).lookup name.toList := by
  rcases Text.exists_first_piece '.' name.toList with ⟨first, rest, isSplit, noDot⟩
  have different : String.ofList first ≠ name := by
    rintro rfl
    rw [String.toList_ofList] at dotted
    exact noDot dotted
  rw [lookup_variablePath isVariable, lookup_variablePath isVariable, isSplit]
  simp [walk, field?, fields?, same _ different]

theorem extract_dotted (isVariable : isVariablePath name.toList) (dotted : '.' ∈ name.toList)
    (same : ∀ other, other ≠ name → Table.get? fields other = Table.get? others other) :
    (object fields).extract name.toList = (object others).extract name.toList := by
  have notDollar : name.toList ≠ ['$'] := by
    intro isDollar
    rw [isDollar] at dotted
    revert dotted
    decide
  rw [extract_variablePath isVariable, extract_variablePath isVariable, if_neg notDollar,
    if_neg notDollar]
  generalize entered : (Text.afterStart? ['$', '.'] name.toList).getD name.toList = path
  have pieces : ∀ piece ∈ Text.splitOn '.' path, piece ∈ Text.splitOn '.' name.toList := by
    cases found : Text.afterStart? ['$', '.'] name.toList with
    | none =>
        rw [found] at entered
        rw [← entered]
        exact fun _ isPiece => isPiece
    | some rest =>
        rw [found, Option.getD_some] at entered
        have start := Text.afterStart?_eq_some_iff.mp found
        have layout : name.toList = ['$'] ++ '.' :: rest := start
        rw [layout, Text.splitOn_append (by decide), ← entered]
        exact fun _ isPiece => List.mem_cons_of_mem _ isPiece
  rcases Text.exists_first_piece '.' path with ⟨first, rest, isSplit, noDot⟩
  have isPiece : first ∈ Text.splitOn '.' name.toList := pieces first (by simp [isSplit])
  rcases isVariablePath_pieces isVariable first isPiece with ⟨nonempty, isName⟩
  have different : String.ofList first ≠ name := by
    rintro rfl
    rw [String.toList_ofList] at dotted
    exact noDot dotted
  rw [isSplit, enterSegments, enterSegments, enterSegment_name nonempty isName,
    enterSegment_name nonempty isName, enterKey, enterKey, same _ different]

end Json

/-! ## What a session shows -/

namespace Session

variable {session : Session} {name other : String}

theorem get?_visibleFields (notPhone : name ≠ phoneKey) :
    Table.get? session.visibleFields name = Table.get? session.data name :=
  Table.get?_insert_other _ _ _ _ notPhone

theorem get?_visibleFields_merge (different : other ≠ name) (value : Json) (now : Instant) :
    Table.get? (session.merge [(name, value)] now).visibleFields other =
      Table.get? session.visibleFields other := by
  rcases Decidable.em (other = phoneKey) with rfl | notPhone
  · rw [visibleFields, visibleFields, Table.get?_insert_same, Table.get?_insert_same]
    rfl
  · rw [get?_visibleFields notPhone, get?_visibleFields notPhone]
    exact Table.get?_insert_other _ _ _ _ different

end Session

/-! ## Stored sessions with a value -/

namespace SessionStore

/-- The session of the id is stored with the value under the name. -/
structure Holds (store : SessionStore) (id name : String) (value : Json) : Prop where
  ordered : Table.Ordered store
  keyed : Keyed store
  held : ∃ session, Table.get? store id = some session ∧ Table.get? session.data name = some value

namespace Holds

variable {store : SessionStore} {id name : String} {value : Json}

theorem save (holds : store.Holds id name value) {session : Session}
    (kept : session.id = id → Table.get? session.data name = some value) :
    (store.save session).Holds id name value where
  ordered := holds.ordered.insert _ _
  keyed := holds.keyed.save session
  held := by
    rcases holds.held with ⟨stored, found, has⟩
    rcases Decidable.em (session.id = id) with isId | different
    · exact ⟨session, isId ▸ get?_save_same _ _, kept isId⟩
    · exact ⟨stored, by rw [get?_save_other _ (Ne.symm different), found], has⟩

theorem deactivate (holds : store.Holds id name value) (other : String) (now : Instant) :
    Holds (store.update other (·.deactivate now)) id name value where
  ordered := ordered_update holds.ordered _ _
  keyed := holds.keyed.update _ _ fun _ => rfl
  held := by
    rcases holds.held with ⟨session, found, has⟩
    rw [get?_update, found]
    split
    · exact ⟨_, rfl, has⟩
    · exact ⟨session, rfl, has⟩

theorem expire (holds : store.Holds id name value) (now : Instant) :
    Holds (store.expire now).1 id name value where
  ordered := ordered_expire holds.ordered now
  keyed := holds.keyed.expire now
  held := by
    rcases holds.held with ⟨session, found, has⟩
    rw [get?_expire, found]
    refine ⟨_, rfl, ?_⟩
    dsimp only
    split <;> exact has

theorem purge (holds : store.Holds id name value) {threshold : Instant}
    (stays : ∀ session ∈ Table.get? store id, isStale threshold session = false) :
    Holds (store.purge threshold).1 id name value where
  ordered := ordered_purge holds.ordered threshold
  keyed other session found := holds.keyed other session (get?_of_purge holds.ordered found)
  held := by
    rcases holds.held with ⟨session, found, has⟩
    refine ⟨session, ?_, has⟩
    rw [get?_purge holds.ordered, found, Option.filter_some, stays session found]
    rfl

end Holds

end SessionStore

/-! ## Work on sessions -/

/-- An operation on the sessions of a gateway that may change them. -/
inductive SessionWork where
  | opening (id phoneNumber serviceCode stateId : String) (timeout : Option Nat)
  | touching (id : String) (timeout : Option Nat)
  | moving (id stateId : String)
  | keeping (id name : String) (value : Json)
  | keepingAll (id : String) (entries : Fields)
  | ending (id : String)
  | expiring
  | purging (days : Int)

namespace SessionWork

variable {β : Type}

def after (setting : Setting) (gateway : Gateway β) : SessionWork → Gateway β
  | .opening id phoneNumber serviceCode stateId timeout =>
    ((openSession setting id phoneNumber serviceCode stateId timeout).on gateway).2
  | .touching id timeout => ((touchSession setting id timeout).on gateway).2
  | .moving id stateId => ((moveSession setting id stateId).on gateway).2
  | .keeping id name value => ((keepEntry setting id name value).on gateway).2
  | .keepingAll id entries => ((keepEntries setting id entries).on gateway).2
  | .ending id => ((endSession setting id).on gateway).2
  | .expiring => ((expireSessions setting).on gateway).2
  | .purging days => ((purgeSessions setting days).on gateway).2

/-- The operation does not write under the name in the session of the id, nor does it put a new
session in its place or remove it. -/
def Spares (setting : Setting) (gateway : Gateway β) (id name : String) : SessionWork → Prop
  | .opening other _ _ _ _ => other = id → (gateway.live? id setting.now).isSome
  | .keeping other key _ => other = id → key ≠ name
  | .keepingAll other entries => other = id → ∀ entry ∈ entries, entry.1 ≠ name
  | .purging days => ∀ session ∈ Table.get? gateway.sessions id,
    SessionStore.isStale (setting.now.minusDays days) session = false
  | _ => True

instance (setting : Setting) (gateway : Gateway β) (id name : String) :
    (work : SessionWork) → Decidable (work.Spares setting gateway id name)
  | .opening other _ _ _ _ =>
    inferInstanceAs (Decidable (other = id → (gateway.live? id setting.now).isSome))
  | .keeping other key _ => inferInstanceAs (Decidable (other = id → key ≠ name))
  | .keepingAll other entries =>
    inferInstanceAs (Decidable (other = id → ∀ entry ∈ entries, entry.1 ≠ name))
  | .purging days =>
    inferInstanceAs (Decidable (∀ session ∈ Table.get? gateway.sessions id,
      SessionStore.isStale (setting.now.minusDays days) session = false))
  | .touching _ _ | .moving _ _ | .ending _ | .expiring => .isTrue trivial

def afterAll (gateway : Gateway β) : List (Setting × SessionWork) → Gateway β
  | [] => gateway
  | (setting, work) :: rest => afterAll (work.after setting gateway) rest

def SparesAll (id name : String) (gateway : Gateway β) : List (Setting × SessionWork) → Prop
  | [] => True
  | (setting, work) :: rest =>
    work.Spares setting gateway id name ∧ SparesAll id name (work.after setting gateway) rest

instance decidableSparesAll (id name : String) (gateway : Gateway β) :
    (works : List (Setting × SessionWork)) → Decidable (SparesAll id name gateway works)
  | [] => .isTrue trivial
  | (setting, work) :: rest =>
    have := decidableSparesAll id name (work.after setting gateway) rest
    inferInstanceAs (Decidable (work.Spares setting gateway id name ∧
      SparesAll id name (work.after setting gateway) rest))

end SessionWork

namespace SessionWork

variable {β : Type} {gateway : Gateway β} {id name : String} {value : Json}

theorem holds_requireOrder (setting : Setting) (operation : StoreOperation) {α : Type}
    {work : Run β Fault α} (holds : gateway.sessions.Holds id name value)
    (inOrder : (work.on gateway).2.sessions.Holds id name value) :
    (Run.on (requireOrder setting operation >>= fun _ => work) gateway).2.sessions.Holds
      id name value := by
  rw [Run.on_bind]
  cases outage : setting.outage operation with
  | some reason =>
      rw [on_requireOrder_of_some outage]
      exact holds
  | none =>
      rw [on_requireOrder_of_none outage]
      exact inOrder

theorem holds_changeSession (setting : Setting) (holds : gateway.sessions.Holds id name value)
    {other : String} {change : Session → Session}
    (sameId : ∀ session, (change session).id = session.id)
    (kept : other = id → ∀ session, Table.get? session.data name = some value →
      Table.get? (change session).data name = some value) :
    ((changeSession setting other change).on gateway).2.sessions.Holds id name value := by
  rw [on_changeSession]
  split
  · exact holds
  · exact holds
  · exact holds
  · rename_i stored _ found _
    refine holds.save fun isId => ?_
    have isOther : other = id := by
      rw [← isId, sameId, holds.keyed other stored found]
    rcases holds.held with ⟨session, isStored, has⟩
    rw [isOther, isStored] at found
    cases found
    exact kept isOther _ has

/-- Keeping an entry is a change of the session that the log tells of. -/
theorem on_keepEntry (setting : Setting) (other key : String) (kept : Json) (gateway : Gateway β) :
    (keepEntry setting other key kept).on gateway =
      Prod.map (Except.map fun _ => ()) (·)
        ((changeSession setting other (·.merge [(key, kept)] setting.now)).on
          { gateway with log := gateway.log ++ [.entryKept other key] }) := by
  unfold keepEntry
  rw [Run.on_bind, Run.on_note]
  simp only [Run.on_bind]
  split <;> rename_i ran <;> rw [ran] <;> rfl

theorem on_keepEntries (setting : Setting) (other : String) {entries : Fields}
    (nonempty : entries ≠ []) (gateway : Gateway β) :
    (keepEntries setting other entries).on gateway =
      Prod.map (Except.map fun _ => ()) (·)
        ((changeSession setting other (·.merge entries setting.now)).on
          { gateway with log := gateway.log ++ [.entriesKept other entries.length] }) := by
  unfold keepEntries
  rw [if_neg (by simpa using nonempty), Run.on_bind, Run.on_note]
  simp only [Run.on_bind]
  split <;> rename_i ran <;> rw [ran] <;> rfl

theorem get?_merge_of_spared {data entries : Fields} (spared : ∀ entry ∈ entries, entry.1 ≠ name) :
    Table.get? (Table.merge data entries) name = Table.get? data name := by
  cases found : Table.get? entries.reverse name with
  | none => rw [Table.get?_merge, found, Option.none_or]
  | some kept =>
      have member := List.mem_reverse.mp (Table.mem_of_get? found)
      exact absurd rfl (spared _ member)

theorem holds_merge (setting : Setting) (holds : gateway.sessions.Holds id name value)
    {other : String} {entries : List (String × Json)}
    (spared : other = id → ∀ entry ∈ entries, entry.1 ≠ name) (now : Instant) :
    ((changeSession setting other (·.merge entries now)).on gateway).2.sessions.Holds
      id name value :=
  holds_changeSession setting holds (fun _ => rfl) fun isId session has => by
    rw [Session.merge, get?_merge_of_spared (spared isId), has]

theorem holds_openSession (setting : Setting) (holds : gateway.sessions.Holds id name value)
    {other : String} (phoneNumber serviceCode stateId : String) (timeout : Option Nat)
    (live : other = id → (gateway.live? id setting.now).isSome) :
    ((openSession setting other phoneNumber serviceCode stateId timeout).on
      gateway).2.sessions.Holds id name value := by
  unfold openSession
  rw [Run.on_bind, on_storedSession?]
  cases setting.outage .findSession with
  | some reason => exact holds
  | none =>
      -- A new session is stored only where no live one is, so it is another one.
      have isOther (notLive : gateway.live? other setting.now = none) : other ≠ id := by
        intro isId
        have isLive := live isId
        rw [← isId, notLive] at isLive
        cases isLive
      cases found : Table.get? gateway.sessions other with
      | none =>
          have notId := isOther (by rw [Gateway.live?, found, Option.filter_none])
          simp only [Run.on_bind, Run.on_note, Run.on_pure, on_storeSession]
          cases setting.outage .saveSession with
          | some reason => exact holds
          | none => exact holds.save fun isId => absurd isId notId
      | some existing =>
          cases isLive : existing.isLive setting.now with
          | true =>
              simp only [isLive, if_true, Run.on_bind, Run.on_pure, on_storeSession]
              cases setting.outage .saveSession with
              | some reason => exact holds
              | none =>
                  refine holds.save fun isId => ?_
                  rcases holds.held with ⟨session, isStored, has⟩
                  have isId : existing.id = id := isId
                  rw [← isId, holds.keyed other existing found, found] at isStored
                  cases isStored
                  exact has
          | false =>
              have notId := isOther (by simp [Gateway.live?, found, isLive])
              simp only [isLive, Bool.false_eq_true, if_false, Run.on_bind, Run.on_note,
                Run.on_pure, on_storeSession]
              cases setting.outage .saveSession with
              | some reason => exact holds
              | none => exact holds.save fun isId => absurd isId notId

theorem holds_after (setting : Setting) (holds : gateway.sessions.Holds id name value)
    {work : SessionWork} (spares : work.Spares setting gateway id name) :
    (work.after setting gateway).sessions.Holds id name value := by
  cases work with
  | opening other phoneNumber serviceCode stateId timeout =>
      exact holds_openSession setting holds phoneNumber serviceCode stateId timeout spares
  | touching other timeout =>
      exact holds_changeSession setting holds (fun _ => rfl) fun _ _ has => has
  | moving other stateId =>
      exact holds_changeSession setting holds (fun _ => rfl) fun _ _ has => has
  | keeping other key kept =>
      rw [after, on_keepEntry, Prod.map_snd]
      refine holds_merge setting ?_ (fun isId => ?_) setting.now
      · exact holds
      · simpa using spares isId
  | keepingAll other entries =>
      rcases Decidable.em (entries = []) with rfl | nonempty
      · exact holds
      · rw [after, on_keepEntries setting other nonempty, Prod.map_snd]
        refine holds_merge setting ?_ spares setting.now
        exact holds
  | ending other =>
      exact holds_requireOrder setting .endSession holds (holds.deactivate other setting.now)
  | expiring =>
      exact holds_requireOrder setting .expireSessions holds (holds.expire setting.now)
  | purging days =>
      exact holds_requireOrder setting .purgeSessions holds (holds.purge spares)

theorem holds_afterAll {works : List (Setting × SessionWork)}
    (holds : gateway.sessions.Holds id name value) (spares : SparesAll id name gateway works) :
    (afterAll gateway works).sessions.Holds id name value := by
  induction works generalizing gateway with
  | nil => exact holds
  | cons work rest induction => exact induction (holds_after work.1 holds spares.1) spares.2

end SessionWork

/-! ## What was kept -/

/-- Storing the value under the name in the session of the id, on its own or with other entries. -/
inductive Stores {β : Type} (setting : Setting) (id name : String) (value : Json)
    (gateway : Gateway β) : Gateway β → Prop
  | one {after : Gateway β}
      (succeeds : (keepEntry setting id name value).on gateway = (.ok (), after)) :
      Stores setting id name value gateway after
  | several {after : Gateway β} {entries : Fields} (ordered : Table.Ordered entries)
      (named : (name, value) ∈ entries)
      (succeeds : (keepEntries setting id entries).on gateway = (.ok (), after)) :
      Stores setting id name value gateway after

theorem get?_merge_of_mem {data entries : Fields} {name : String} {value : Json}
    (ordered : Table.Ordered entries) (named : (name, value) ∈ entries) :
    Table.get? (Table.merge data entries) name = some value := by
  rw [ordered.get?_merge, (ordered.get?_eq_some_iff name value).mpr named, Option.some_or]

variable {β : Type} {gateway after : Gateway β} {setting : Setting} {id name : String} {value : Json}

/-- A result that was discarded was there. -/
private theorem of_discarded {ran : Except Fault Session × Gateway β}
    (succeeds : Prod.map (Except.map fun _ => ()) (·) ran = (.ok (), after)) :
    ∃ changed, ran = (.ok changed, after) := by
  rcases ran with ⟨fault | changed, later⟩
  · cases (Prod.mk.inj succeeds).1
  · exact ⟨changed, congrArg _ (Prod.mk.inj succeeds).2⟩

/-- Whatever is stored is merged into the session, which is saved. -/
theorem Stores.merged (stores : Stores setting id name value gateway after) :
    ∃ stored entries, Table.get? gateway.sessions id = some stored ∧
      after.sessions = gateway.sessions.save (stored.merge entries setting.now) ∧
      ∀ data, Table.get? (Table.merge data entries) name = some value := by
  cases stores with
  | one succeeds =>
      rw [SessionWork.on_keepEntry] at succeeds
      rcases of_discarded succeeds with ⟨changed, ran⟩
      rcases on_changeSession_eq_ok ran with ⟨stored, found, -, rfl⟩
      exact ⟨stored, _, found, rfl, fun data => Table.get?_insert_same _ _ _⟩
  | @several entries ordered named succeeds =>
      rw [SessionWork.on_keepEntries setting id (List.ne_nil_of_mem named)] at succeeds
      rcases of_discarded succeeds with ⟨changed, ran⟩
      rcases on_changeSession_eq_ok ran with ⟨stored, found, -, rfl⟩
      exact ⟨stored, _, found, rfl, fun data => get?_merge_of_mem ordered named⟩

theorem Stores.holds (ordered : Table.Ordered gateway.sessions) (keyed : gateway.sessions.Keyed)
    (stores : Stores setting id name value gateway after) :
    after.sessions.Holds id name value := by
  rcases stores.merged with ⟨stored, entries, found, saved, merged⟩
  have sameId : stored.id = id := keyed id stored found
  rw [saved]
  refine ⟨ordered.insert _ _, keyed.save _, stored.merge entries setting.now, ?_,
    merged stored.data⟩
  rw [← sameId]
  exact SessionStore.get?_save_same _ (stored.merge entries setting.now)

/-- Reading the data of a session that is stored, with a session store that can be read. -/
def Reads (gateway : Gateway β) (id : String) (data : Json) : Prop :=
  ∀ reading : Setting, reading.outage .findSession = none →
    (sessionData reading id).on gateway = (.ok data, gateway)

theorem reads_of_stored {session : Session} (found : Table.get? gateway.sessions id = some session) :
    Reads gateway id session.visibleData := by
  intro reading inOrder
  rw [on_sessionData, inOrder, found]

/-- What was kept in a session under a name is read back until something else is written there: as a
field under every name, as a path under every name without a dot. The name `$` is an exception,
since one of the readers takes it for all data. -/
theorem Stores.read_back (ordered : Table.Ordered gateway.sessions)
    (keyed : gateway.sessions.Keyed) (notPhone : name ≠ Session.phoneKey)
    (isVariable : Condition.isVariablePath name.toList)
    (stores : Stores setting id name value gateway after) {works : List (Setting × SessionWork)}
    (spares : SessionWork.SparesAll id name after works) :
    ∃ data, Reads (SessionWork.afterAll after works) id data ∧ data.field? name = some value ∧
      ('.' ∉ name.toList → data.lookup name.toList = some value ∧
        data.extract name.toList = some (if name = "$" then data else value)) := by
  rcases SessionWork.holds_afterAll (stores.holds ordered keyed) spares with
    ⟨-, -, session, found, has⟩
  have visible : Table.get? session.visibleFields name = some value := by
    rw [Session.get?_visibleFields notPhone, has]
  refine ⟨session.visibleData, reads_of_stored found, visible, fun oneName => ⟨?_, ?_⟩⟩
  · rw [Session.visibleData, Json.lookup_name isVariable oneName, visible]
  · split
    · rename_i isRoot
      subst isRoot
      rw [Json.extract_variablePath isVariable]
      rfl
    · rename_i notRoot
      rw [Session.visibleData, Json.extract_name isVariable oneName notRoot, visible]

/-- A name with a dot is a path into other fields, which do not change. -/
theorem dotted_path_unchanged (keyed : gateway.sessions.Keyed)
    (isVariable : Condition.isVariablePath name.toList) (dotted : '.' ∈ name.toList)
    (succeeds : (keepEntry setting id name value).on gateway = (.ok (), after)) :
    ∃ before data, Reads gateway id before ∧ Reads after id data ∧
      data.lookup name.toList = before.lookup name.toList ∧
      data.extract name.toList = before.extract name.toList := by
  rw [SessionWork.on_keepEntry] at succeeds
  rcases of_discarded succeeds with ⟨changed, ran⟩
  rcases on_changeSession_eq_ok ran with ⟨stored, found, -, rfl⟩
  have sameId : stored.id = id := keyed id stored found
  have saved := SessionStore.get?_save_same gateway.sessions
    (stored.merge [(name, value)] setting.now)
  have isSaved : (stored.merge [(name, value)] setting.now).id = id := sameId
  rw [isSaved] at saved
  have same (other : String) (different : other ≠ name) :=
    stored.get?_visibleFields_merge different value setting.now
  exact ⟨_, _, reads_of_stored found, reads_of_stored saved,
    Json.lookup_dotted isVariable dotted same, Json.extract_dotted isVariable dotted same⟩

/-- What was kept in a session under a name is read back until something else is written there: as a
field under every name, as a path under every name without a dot. Only `$` also names all data where
request bodies ask for it. A path with a dot is not changed by what is kept under it. -/
theorem kept_entries_are_read_back (ordered : Table.Ordered gateway.sessions)
    (keyed : gateway.sessions.Keyed) (notPhone : name ≠ Session.phoneKey)
    (isVariable : Condition.isVariablePath name.toList) :
    (∀ after works, Stores setting id name value gateway after →
      SessionWork.SparesAll id name after works →
      ∃ data, Reads (SessionWork.afterAll after works) id data ∧ data.field? name = some value ∧
        ('.' ∉ name.toList → data.lookup name.toList = some value ∧
          data.extract name.toList = some (if name = "$" then data else value))) ∧
    ('.' ∈ name.toList → ∀ after, (keepEntry setting id name value).on gateway = (.ok (), after) →
      ∃ before data, Reads gateway id before ∧ Reads after id data ∧
        data.lookup name.toList = before.lookup name.toList ∧
        data.extract name.toList = before.extract name.toList) :=
  ⟨fun _ _ stores spares => stores.read_back ordered keyed notPhone isVariable spares,
    fun dotted _ succeeds => dotted_path_unchanged keyed isVariable dotted succeeds⟩

namespace Sample

def keeping (name : String) (value : Json) : Session :=
  Sample.session.merge [(name, value)] Sample.setting.now

def kept (name : String) (value : Json) : Gateway ScriptedBackend :=
  ((keepEntry Sample.setting "session" name value).on Sample.gateway).2

/-- Another session keeps another amount, and the session goes on with other entries. -/
def laterWork : List (Setting × SessionWork) :=
  [(Sample.setting, .keeping "other" "montant" (.text "9")),
    (Sample.setting, .keepingAll "session" [("solde", .text "100")]),
    (Sample.setting, .opening "session" "phone" "service" "menu" none),
    (Sample.setting, .moving "session" "work"),
    (Sample.setting, .purging 7)]

theorem keeps (name : String) (value : Json) :
    (keepEntry Sample.setting "session" name value).on Sample.gateway =
      (.ok (), Sample.kept name value) := rfl

theorem reads (name : String) (value : Json) :
    Reads (Sample.kept name value) "session" (Sample.keeping name value).visibleData :=
  reads_of_stored rfl

end Sample

theorem kept_amount_is_read_back :
    Table.Ordered Sample.gateway.sessions ∧ Sample.gateway.sessions.Keyed ∧
    "montant" ≠ Session.phoneKey ∧ Condition.isVariablePath "montant".toList ∧
    (keepEntry Sample.setting "session" "montant" (.text "500")).on Sample.gateway =
      (.ok (), Sample.kept "montant" (.text "500")) ∧
    SessionWork.SparesAll "session" "montant" (Sample.kept "montant" (.text "500"))
      Sample.laterWork ∧
    ∃ data,
      Reads (SessionWork.afterAll (Sample.kept "montant" (.text "500")) Sample.laterWork)
        "session" data ∧
      data.lookup "montant".toList = some (.text "500") ∧
      data.extract "montant".toList = some (.text "500") := by
  have ordered : Table.Ordered Sample.gateway.sessions := Table.ordered_nil.insert _ _
  have keyed : Sample.gateway.sessions.Keyed := by
    refine SessionStore.Keyed.save (fun _ _ found => ?_) Sample.session
    cases found
  have keeps := Sample.keeps "montant" (.text "500")
  have spares : SessionWork.SparesAll "session" "montant" (Sample.kept "montant" (.text "500"))
      Sample.laterWork := by
    decide +kernel
  have isVariable : Condition.isVariablePath "montant".toList := by decide +kernel
  rcases (kept_entries_are_read_back ordered keyed (by decide) isVariable).1 _ Sample.laterWork
    (.one keeps) spares with ⟨data, reads, -, path⟩
  rcases path (by decide +kernel) with ⟨isLookup, isExtract⟩
  exact ⟨ordered, keyed, by decide, isVariable, keeps, spares, data, reads, isLookup, isExtract⟩

/-- A name with a dot is kept as it is and looked up as a path; and `$` is taken for all data. -/
theorem dotted_name_is_not_read_back :
    (Condition.isVariablePath "user.name".toList ∧ "user.name" ≠ Session.phoneKey ∧
      ∃ after data,
        (keepEntry Sample.setting "session" "user.name" (.text "Awa")).on Sample.gateway =
          (.ok (), after) ∧
        Reads after "session" data ∧ data.lookup "user.name".toList = none) ∧
    Condition.isVariablePath "$".toList ∧ "$" ≠ Session.phoneKey ∧
      ∃ after data,
        (keepEntry Sample.setting "session" "$" (.text "Awa")).on Sample.gateway = (.ok (), after) ∧
        Reads after "session" data ∧ data.extract "$".toList ≠ some (.text "Awa") := by
  have noPath : ((Sample.keeping "user.name" (.text "Awa")).visibleData.lookup
      "user.name".toList).isNone := by decide +kernel
  have allData : (((Sample.keeping "$" (.text "Awa")).visibleData.extract "$".toList).bind
      Json.text?).isNone := by decide +kernel
  refine ⟨⟨by decide +kernel, by decide, _, _, Sample.keeps _ _, Sample.reads _ _, ?_⟩,
    by decide +kernel, by decide, _, _, Sample.keeps _ _, Sample.reads _ _, ?_⟩
  · exact Option.isNone_iff_eq_none.mp noPath
  · intro isText
    rw [isText] at allData
    cases allData

end Ussd
