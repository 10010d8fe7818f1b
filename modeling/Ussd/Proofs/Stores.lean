import Ussd.Store.Records
import Ussd.Store.Sessions

/-! # Laws of tables and stores

Tables that were built by insertions list their keys in increasing order, and are therefore
determined by their look-ups. The laws of the stores say what an operation does to a look-up, for
the key that it is about and for every other key. -/

namespace Ussd

namespace Table

variable {α : Type}

/-- The keys increase. -/
def Ordered (table : Table α) : Prop := table.Pairwise fun left right => left.1 < right.1

theorem ordered_nil : Ordered ([] : Table α) := .nil

private theorem lt_of_not_lt_of_ne {left right : String} (notLess : ¬left < right)
    (different : left ≠ right) : right < left := by
  rcases Decidable.em (right < left) with less | notGreater
  · exact less
  · exact absurd (String.le_antisymm (String.not_lt.mp notGreater) (String.not_lt.mp notLess))
      different

theorem mem_insert {table : Table α} {key : String} {value : α} {entry : String × α}
    (member : entry ∈ insert table key value) : entry = (key, value) ∨ entry ∈ table := by
  induction table with
  | nil => simpa [insert] using member
  | cons head tail induction =>
      rcases head with ⟨known, old⟩
      simp only [insert] at member
      split at member
      case isTrue equal => grind
      case isFalse => split at member <;> grind

theorem Ordered.insert {table : Table α} (ordered : table.Ordered) (key : String) (value : α) :
    (table.insert key value).Ordered := by
  induction table with
  | nil => exact List.pairwise_singleton _ _
  | cons head tail induction =>
      rcases head with ⟨known, old⟩
      rcases List.pairwise_cons.mp ordered with ⟨headLess, tailOrdered⟩
      simp only [Table.insert]
      split
      · exact List.pairwise_cons.mpr ⟨headLess, tailOrdered⟩
      · rename_i different
        split
        · rename_i less
          refine List.pairwise_cons.mpr ⟨?_, ordered⟩
          intro entry member
          rcases List.mem_cons.mp member with rfl | later
          · exact less
          · exact String.lt_trans less (headLess entry later)
        · rename_i notLess
          refine List.pairwise_cons.mpr ⟨?_, induction tailOrdered⟩
          intro entry member
          rcases mem_insert member with rfl | later
          · exact lt_of_not_lt_of_ne notLess (Ne.symm different)
          · exact headLess entry later

theorem mem_of_get? {table : Table α} {key : String} {value : α}
    (found : get? table key = some value) : (key, value) ∈ table := by
  induction table with
  | nil => cases found
  | cons head tail induction =>
      rcases head with ⟨known, old⟩
      rw [get?] at found
      split at found
      · rename_i equal
        cases found
        rw [equal]
        exact List.mem_cons_self
      · exact List.mem_cons_of_mem _ (induction found)

theorem get?_eq_none_of_lt {table : Table α} {key : String}
    (less : ∀ entry ∈ table, key < entry.1) : get? table key = none := by
  induction table with
  | nil => rfl
  | cons head tail induction =>
      rcases head with ⟨known, value⟩
      have different : known ≠ key := by
        rintro rfl
        exact String.lt_irrefl _ (less _ (List.mem_cons_self ..))
      simp only [get?, different, if_false]
      exact induction fun entry member => less entry (List.mem_cons_of_mem _ member)

/-- Where look-ups agree, the first key of one ordered table is not below that of another. -/
private theorem not_lt_of_same {known otherKnown : String} {value otherValue : α}
    {tail rest : Table α} (ordered : Ordered ((otherKnown, otherValue) :: rest))
    (same : get? ((known, value) :: tail) known = get? ((otherKnown, otherValue) :: rest) known) :
    ¬known < otherKnown := by
  intro less
  have absent : get? ((otherKnown, otherValue) :: rest) known = none := by
    apply get?_eq_none_of_lt
    intro entry member
    rcases List.mem_cons.mp member with rfl | later
    · exact less
    · exact String.lt_trans less ((List.pairwise_cons.mp ordered).1 entry later)
  rw [absent] at same
  simp [get?] at same

/-- Ordered tables with the same look-ups are the same. -/
theorem Ordered.ext {left right : Table α} (leftOrdered : left.Ordered)
    (rightOrdered : right.Ordered) (same : ∀ key, left.get? key = right.get? key) :
    left = right := by
  induction left generalizing right with
  | nil =>
      cases right with
      | nil => rfl
      | cons head tail => simpa [get?] using same head.1
  | cons head tail induction =>
      rcases head with ⟨known, value⟩
      cases right with
      | nil => simpa [get?] using same known
      | cons other rest =>
          rcases other with ⟨otherKnown, otherValue⟩
          rcases List.pairwise_cons.mp leftOrdered with ⟨leftLess, leftRest⟩
          rcases List.pairwise_cons.mp rightOrdered with ⟨rightLess, rightRest⟩
          have notLess := not_lt_of_same rightOrdered (same known)
          have notGreater := not_lt_of_same leftOrdered (same otherKnown).symm
          have keys : known = otherKnown :=
            String.le_antisymm (String.not_lt.mp notGreater) (String.not_lt.mp notLess)
          subst keys
          have values : value = otherValue := by simpa [get?] using same known
          subst values
          congr 1
          refine induction leftRest rightRest fun key => ?_
          rcases Decidable.em (known = key) with rfl | different
          · rw [get?_eq_none_of_lt leftLess, get?_eq_none_of_lt rightLess]
          · simpa [get?, different] using same key

/-- Where no key occurs twice, every entry is found under its key. -/
theorem get?_of_mem {table : Table α} (once : table.keys.Nodup) {key : String} {value : α}
    (member : (key, value) ∈ table) : table.get? key = some value := by
  induction table with
  | nil => cases member
  | cons head tail induction =>
      have parts := List.nodup_cons.mp once
      rcases List.mem_cons.mp member with isHead | later
      · subst isHead
        exact if_pos rfl
      · have isKey : key ∈ keys tail := List.mem_map_of_mem later
        have different : head.1 ≠ key := fun same => parts.1 (same ▸ isKey)
        rw [get?, if_neg different]
        exact induction parts.2 later

theorem Ordered.nodup_keys {table : Table α} (ordered : table.Ordered) : table.keys.Nodup := by
  apply List.pairwise_map.mpr
  apply List.Pairwise.imp _ ordered
  intro left right less same
  exact String.lt_irrefl _ (same ▸ less)

/-- In an ordered table every entry is found under its key. -/
theorem Ordered.get?_eq_some_iff {table : Table α} (ordered : table.Ordered) (key : String)
    (value : α) : table.get? key = some value ↔ (key, value) ∈ table := by
  induction table with
  | nil => simp
  | cons head tail induction =>
      rcases head with ⟨known, old⟩
      rcases List.pairwise_cons.mp ordered with ⟨less, rest⟩
      rcases Decidable.em (known = key) with rfl | different
      · have absent : (known, value) ∉ tail :=
          fun member => String.lt_irrefl _ (less (known, value) member)
        simp [get?, absent, eq_comm]
      · simp [get?, different, Ne.symm different, induction rest]

/-- What is found after entries have been set is one of them or was there before. -/
theorem get?_merge_cases {table : Table α} {entries : List (String × α)} {key : String} {value : α}
    (found : get? (merge table entries) key = some value) :
    (key, value) ∈ entries ∨ get? table key = some value := by
  induction entries generalizing table with
  | nil => exact .inr found
  | cons entry rest induction =>
      rcases entry with ⟨name, set⟩
      rcases induction found with member | before
      · exact .inl (List.mem_cons_of_mem _ member)
      · rcases Decidable.em (key = name) with rfl | different
        · rw [get?_insert_same] at before
          cases before
          exact .inl List.mem_cons_self
        · rw [get?_insert_other _ _ _ _ different] at before
          exact .inr before

/-! ## Erasing -/

theorem erase_sublist (table : Table α) (key : String) : (table.erase key).Sublist table := by
  induction table with
  | nil => exact .slnil
  | cons head tail induction =>
      rcases head with ⟨known, value⟩
      simp only [erase]
      split
      · exact List.sublist_cons_self _ _
      · exact induction.cons_cons _

theorem Ordered.erase {table : Table α} (ordered : table.Ordered) (key : String) :
    (table.erase key).Ordered :=
  ordered.sublist (erase_sublist table key)

theorem get?_erase_other (table : Table α) {key other : String} (different : other ≠ key) :
    (table.erase key).get? other = table.get? other := by
  induction table with
  | nil => rfl
  | cons head tail induction =>
      rcases head with ⟨known, value⟩
      simp only [Table.erase]
      split
      · rename_i equal
        simp [get?, equal, Ne.symm different]
      · simp [get?, induction]

theorem Ordered.get?_erase_same {table : Table α} (ordered : table.Ordered) (key : String) :
    (table.erase key).get? key = none := by
  induction table with
  | nil => rfl
  | cons head tail induction =>
      rcases head with ⟨known, value⟩
      rcases List.pairwise_cons.mp ordered with ⟨less, rest⟩
      simp only [Table.erase]
      split
      · rename_i equal
        exact get?_eq_none_of_lt (equal ▸ less)
      · rename_i different
        simpa [get?, different] using induction rest

/-- Erasing takes out the entry that a look-up finds. -/
theorem erase_split (table : Table α) (key : String) :
    (table.erase key = table) ∨
      ∃ before value after, table = before ++ (key, value) :: after ∧
        table.get? key = some value ∧ table.erase key = before ++ after := by
  induction table with
  | nil => exact .inl rfl
  | cons head tail induction =>
      rcases head with ⟨known, value⟩
      rcases Decidable.em (known = key) with rfl | different
      · exact .inr ⟨[], value, tail, rfl, by simp [get?], by simp [erase]⟩
      · simp only [erase, get?, if_neg different]
        rcases induction with same | ⟨before, stored, after, split, found, erased⟩
        · exact .inl (by rw [same])
        · refine .inr ⟨(known, value) :: before, stored, after, ?_, found, ?_⟩
          · rw [split, List.cons_append]
          · rw [erased, List.cons_append]

/-- Erasing an entry that is set anew makes no difference. -/
theorem Ordered.insert_erase {table : Table α} (ordered : table.Ordered) (key : String)
    (value : α) : (table.erase key).insert key value = table.insert key value := by
  refine ((ordered.erase key).insert key value).ext (ordered.insert key value) fun other => ?_
  rcases Decidable.em (other = key) with rfl | different
  · rw [get?_insert_same, get?_insert_same]
  · rw [get?_insert_other _ _ _ _ different, get?_insert_other _ _ _ _ different,
      get?_erase_other _ different]

/-- Erasing one entry and setting another may change places. -/
theorem Ordered.insert_erase_other {table : Table α} (ordered : table.Ordered)
    {key other : String} (value : α) (different : other ≠ key) :
    (table.erase key).insert other value = (table.insert other value).erase key := by
  refine ((ordered.erase key).insert other value).ext ((ordered.insert other value).erase key)
    fun third => ?_
  rcases Decidable.em (third = key) with rfl | notErased
  · rw [get?_insert_other _ _ _ _ (Ne.symm different), ordered.get?_erase_same,
      (ordered.insert other value).get?_erase_same]
  · rw [get?_erase_other _ notErased]
    rcases Decidable.em (third = other) with rfl | notSet
    · rw [get?_insert_same, get?_insert_same]
    · rw [get?_insert_other _ _ _ _ notSet, get?_insert_other _ _ _ _ notSet,
        get?_erase_other _ notErased]

end Table

/-! ## Sessions -/

namespace SessionStore

/-- Every session is stored under its own id. -/
def Keyed (store : SessionStore) : Prop :=
  ∀ id session, Table.get? store id = some session → session.id = id

theorem get?_save_same (store : SessionStore) (session : Session) :
    Table.get? (store.save session) session.id = some session :=
  Table.get?_insert_same _ _ _

theorem get?_save_other (store : SessionStore) {session : Session} {other : String}
    (different : other ≠ session.id) :
    Table.get? (store.save session) other = Table.get? store other :=
  Table.get?_insert_other _ _ _ _ different

theorem get?_save_cases {store : SessionStore} {session found : Session} {id : String}
    (listed : Table.get? (store.save session) id = some found) :
    found = session ∨ Table.get? store id = some found := by
  rcases Decidable.em (id = session.id) with rfl | different
  · exact .inl (Option.some.inj ((get?_save_same store session).symm.trans listed)).symm
  · exact .inr (get?_save_other store different ▸ listed)

theorem Keyed.save {store : SessionStore} (keyed : store.Keyed) (session : Session) :
    (store.save session).Keyed := by
  intro id found listed
  rcases Decidable.em (id = session.id) with equal | different
  · rw [equal, get?_save_same] at listed
    cases listed
    exact equal.symm
  · rw [get?_save_other _ different] at listed
    exact keyed id found listed

theorem get?_update (store : SessionStore) (id other : String) (change : Session → Session) :
    Table.get? (update store id change) other =
      if other = id then (Table.get? store other).map change else Table.get? store other := by
  induction store with
  | nil => simp [update]
  | cons head tail induction =>
      rcases head with ⟨known, session⟩
      simp only [update, List.map_cons] at induction ⊢
      grind [Table.get?]

theorem ordered_update {store : SessionStore} (ordered : Table.Ordered store) (id : String)
    (change : Session → Session) : Table.Ordered (update store id change) := by
  refine List.pairwise_map.mpr (List.Pairwise.imp (fun less => ?_) ordered)
  split <;> split <;> exact less

theorem get?_update_other (store : SessionStore) {id other : String} (different : other ≠ id)
    (change : Session → Session) :
    Table.get? (update store id change) other = Table.get? store other := by
  rw [get?_update, if_neg different]

theorem erase_update (store : SessionStore) (id other : String) (change : Session → Session) :
    Table.erase (update store id change) other = update (Table.erase store other) id change := by
  induction store with
  | nil => rfl
  | cons head tail induction =>
      rcases head with ⟨known, session⟩
      simp only [update, List.map_cons] at induction ⊢
      rcases Decidable.em (known = other) with erased | kept
      · split <;> simp [Table.erase, erased]
      · split <;> simp [Table.erase, kept, induction] <;> simp [*]

theorem Keyed.update {store : SessionStore} (keyed : store.Keyed) (id : String)
    (change : Session → Session) (sameId : ∀ session, (change session).id = session.id) :
    (SessionStore.update store id change).Keyed := by
  intro other found listed
  rw [get?_update] at listed
  split at listed
  · rcases Option.map_eq_some_iff.mp listed with ⟨stored, storedListed, rfl⟩
    rw [sameId]
    exact keyed other stored storedListed
  · exact keyed other found listed

/-! ### Sweeping -/

theorem get?_expire (store : SessionStore) (now : Instant) (id : String) :
    Table.get? (expire store now).1 id = (Table.get? store id).map fun session =>
      if isOverdue now session then session.deactivate now else session := by
  induction store with
  | nil => rfl
  | cons head tail induction =>
      rcases head with ⟨known, session⟩
      simp only [expire, List.map_cons] at induction ⊢
      grind [Table.get?]

theorem Keyed.expire {store : SessionStore} (keyed : store.Keyed) (now : Instant) :
    (SessionStore.expire store now).1.Keyed := by
  intro id found listed
  rw [get?_expire] at listed
  rcases Option.map_eq_some_iff.mp listed with ⟨stored, storedListed, rfl⟩
  have sameId := keyed id stored storedListed
  split <;> exact sameId

theorem ordered_expire {store : SessionStore} (ordered : Table.Ordered store) (now : Instant) :
    Table.Ordered (expire store now).1 := by
  refine List.pairwise_map.mpr (List.Pairwise.imp (fun less => ?_) ordered)
  split <;> split <;> exact less

theorem ordered_purge {store : SessionStore} (ordered : Table.Ordered store)
    (threshold : Instant) : Table.Ordered (purge store threshold).1 :=
  ordered.sublist List.filter_sublist

theorem get?_purge {store : SessionStore} (ordered : Table.Ordered store) (threshold : Instant)
    (id : String) :
    Table.get? (purge store threshold).1 id =
      (Table.get? store id).filter fun session => !isStale threshold session := by
  apply Option.ext
  intro session
  rw [(ordered_purge ordered threshold).get?_eq_some_iff, Option.filter_eq_some_iff,
    ordered.get?_eq_some_iff]
  simp [purge]

/-- What a purge leaves was there before. -/
theorem get?_of_purge {store : SessionStore} (ordered : Table.Ordered store)
    {threshold : Instant} {id : String} {session : Session}
    (found : Table.get? (purge store threshold).1 id = some session) :
    Table.get? store id = some session := by
  rw [get?_purge ordered, Option.filter_eq_some_iff] at found
  exact found.1

/-- The sessions after a sweep. -/
def swept (store : SessionStore) (now : Instant) (days : Int) : SessionStore :=
  ((store.expire now).1.purge (now.minusDays days)).1

theorem ordered_swept {store : SessionStore} (ordered : Table.Ordered store) (now : Instant)
    (days : Int) : Table.Ordered (store.swept now days) :=
  ordered_purge (ordered_expire ordered now) _

end SessionStore

/-! ## Records -/

namespace RecordStore

theorem get?_remove_other (store : RecordStore) {key other : RecordKey} (different : other ≠ key) :
    get? (remove store key) other = get? store other := by
  induction store with
  | nil => rfl
  | cons head tail induction =>
      rcases head with ⟨known, value⟩
      simp only [remove, ne_eq, decide_not] at induction ⊢
      rcases Decidable.em (known = key) with rfl | kept
      · simp [get?, Ne.symm different, induction]
      · simp [get?, kept, induction]

theorem get?_remove_same (store : RecordStore) (key : RecordKey) :
    get? (remove store key) key = none := by
  induction store with
  | nil => rfl
  | cons head tail induction =>
      rcases head with ⟨known, value⟩
      simp only [remove, ne_eq, decide_not] at induction ⊢
      rcases Decidable.em (known = key) with rfl | kept
      · simp [induction]
      · simp [get?, kept, induction]

end RecordStore

end Ussd
