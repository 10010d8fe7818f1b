import Ussd.Json.Decode
import Ussd.Proofs.Stores

/-! # Values as documents

An object that was written lists its fields in the order of their names, whatever order they were
given in. Reading a value as a document and taking the value that this denotes puts the fields of
all its objects into that order, and a value that is in order is given back as it is. -/

namespace Ussd

namespace Table

variable {α : Type}

theorem ordered_ofList (entries : List (String × α)) : Ordered (ofList entries) := by
  have ordered_merge : ∀ (table : Table α), table.Ordered → (merge table entries).Ordered := by
    induction entries with
    | nil => exact fun _ ordered => ordered
    | cons entry rest induction => exact fun _ ordered => induction _ (ordered.insert _ _)
  exact ordered_merge [] ordered_nil

@[simp] theorem get?_append (left right : Table α) (key : String) :
    get? (left ++ right) key = (get? left key).or (get? right key) := by
  induction left with
  | nil => rfl
  | cons head tail induction =>
      by_cases equal : head.1 = key <;> simp [get?, equal, induction]

/-- The last of the entries that are set under a key stays. -/
theorem get?_merge (table : Table α) (entries : List (String × α)) (key : String) :
    get? (merge table entries) key = (get? entries.reverse key).or (get? table key) := by
  induction entries generalizing table with
  | nil => rfl
  | cons entry rest induction =>
      have inserted : get? (table.insert entry.1 entry.2) key =
          if entry.1 = key then some entry.2 else get? table key := by
        split
        case isTrue equal => rw [← equal, get?_insert_same]
        case isFalse different => exact get?_insert_other _ _ _ _ (Ne.symm different)
      have step : merge table (entry :: rest) = merge (table.insert entry.1 entry.2) rest := rfl
      rw [step, induction, inserted, List.reverse_cons, get?_append]
      by_cases equal : entry.1 = key <;> simp [get?, equal]

/-- The last entry with a key stays. -/
theorem get?_ofList (entries : List (String × α)) (key : String) :
    get? (ofList entries) key = get? entries.reverse key := by
  rw [ofList, get?_merge, get?_nil, Option.or_none]

/-- A table with increasing keys is the table of its entries. -/
theorem Ordered.ofList_eq {table : Table α} (ordered : table.Ordered) : ofList table = table := by
  refine (ordered_ofList table).ext ordered fun key => ?_
  rw [get?_ofList]
  induction table with
  | nil => rfl
  | cons head tail induction =>
      rcases List.pairwise_cons.mp ordered with ⟨less, rest⟩
      rw [List.reverse_cons, get?_append, induction rest]
      by_cases equal : head.1 = key
      · rw [get?_eq_none_of_lt (equal ▸ less)]
        simp [get?, equal]
      · simp [get?, equal]

/-- The entries of a table come before what was there. -/
theorem Ordered.get?_merge {entries : Table α} (ordered : entries.Ordered) (table : Table α)
    (key : String) : get? (merge table entries) key = (get? entries key).or (get? table key) := by
  rw [Table.get?_merge, ← get?_ofList, ordered.ofList_eq]

theorem get?_mapValues {α' : Type} (table : Table α) (change : α → α') (key : String) :
    get? (table.map fun entry => (entry.1, change entry.2)) key = (get? table key).map change := by
  induction table with
  | nil => rfl
  | cons head tail induction =>
      by_cases equal : head.1 = key <;> simp [get?, equal, induction]

theorem mem_ofList {entries : List (String × α)} {entry : String × α}
    (member : entry ∈ ofList entries) : entry ∈ entries := by
  have found := ((ordered_ofList entries).get?_eq_some_iff entry.1 entry.2).mpr member
  rw [get?_ofList] at found
  exact List.mem_reverse.mp (mem_of_get? found)

/-- Leaving out a key does not change what is found under the others. -/
theorem get?_filter_other (table : Table α) {key other : String} (different : other ≠ key) :
    get? (table.filter fun entry => entry.1 != key) other = get? table other := by
  induction table with
  | nil => rfl
  | cons head tail induction =>
      by_cases leftOut : head.1 = key
      · have notOther : head.1 ≠ other := leftOut ▸ Ne.symm different
        rw [List.filter_cons_of_neg (by simp [leftOut]), induction]
        simp only [get?, if_neg notOther]
      · rw [List.filter_cons_of_pos (by simp [leftOut])]
        simp only [get?, induction]

end Table

namespace Node

/-! ## Values have nothing unquoted -/

mutual

@[simp] theorem settle_ofJson : ∀ value : Json, (ofJson value).settle = ofJson value
  | .null => rfl
  | .bool _ => rfl
  | .number _ => rfl
  | .text _ => rfl
  | .list items => congrArg Node.list (settleItems_ofItems items)
  | .object fields => congrArg Node.map (settleEntries_ofFields fields)

theorem settleItems_ofItems : ∀ items : List Json, settleItems (ofItems items) = ofItems items
  | [] => rfl
  | item :: rest => by
      simp only [ofItems, settleItems, settle_ofJson item, settleItems_ofItems rest]

theorem settleEntries_ofFields :
    ∀ fields : List (String × Json), settleEntries (ofFields fields) = ofFields fields
  | [] => rfl
  | (name, value) :: rest => by
      simp only [ofFields, settleEntries, settle_ofJson value, settleEntries_ofFields rest]

end

/-! ## The value that a value denotes -/

theorem ofFields_filter (fields : List (String × Json)) (key : String) :
    (ofFields fields).filter (fun entry => entry.1 != some key) =
      ofFields (fields.filter fun field => field.1 != key) := by
  induction fields with
  | nil => rfl
  | cons field rest induction =>
      by_cases leftOut : field.1 = key <;> simp [ofFields, leftOut, induction]

theorem itemsToJson_ofItems {items : List Json}
    (denoted : ∀ item ∈ items, (ofJson item).toJson = .ok item) :
    itemsToJson (ofItems items) = .ok items := by
  induction items with
  | nil => rfl
  | cons item rest induction =>
      have first := denoted item List.mem_cons_self
      have others := induction fun other member => denoted other (List.mem_cons_of_mem _ member)
      simp only [ofItems, itemsToJson, first, others]
      rfl

theorem entriesToJson_ofFields {fields : List (String × Json)}
    (denoted : ∀ field ∈ fields, (ofJson field.2).toJson = .ok field.2) :
    entriesToJson (ofFields fields) = .ok fields := by
  induction fields with
  | nil => rfl
  | cons field rest induction =>
      have first := denoted field List.mem_cons_self
      have others := induction fun other member => denoted other (List.mem_cons_of_mem _ member)
      simp only [ofFields, entriesToJson, first, others]
      rfl

mutual

/-- Every value denotes a value, which denotes itself. -/
theorem toJson_ofJson : ∀ value : Json, ∃ denoted, (ofJson value).toJson = .ok denoted ∧
    (ofJson denoted).toJson = .ok denoted
  | .null => ⟨.null, rfl, rfl⟩
  | .bool value => ⟨.bool value, rfl, rfl⟩
  | .number value => ⟨.number value, rfl, rfl⟩
  | .text value => ⟨.text value, rfl, rfl⟩
  | .list items => by
      obtain ⟨denoted, isDenoted, each⟩ := itemsToJson_cases items
      refine ⟨.list denoted, ?_, ?_⟩
      · simp only [ofJson, toJson, isDenoted]
        rfl
      · simp only [ofJson, toJson, itemsToJson_ofItems each]
        rfl
  | .object fields => by
      obtain ⟨entries, isDenoted, each⟩ := entriesToJson_cases fields
      have denotesItself : entriesToJson (ofFields (Table.ofList entries)) =
          .ok (Table.ofList entries) :=
        entriesToJson_ofFields fun field member => each field (Table.mem_ofList member)
      refine ⟨Json.ofFields entries, ?_, ?_⟩
      · simp only [ofJson, toJson, isDenoted]
        rfl
      · have inOrder := (Table.ordered_ofList entries).ofList_eq
        simp only [Json.ofFields, ofJson, toJson, denotesItself, Except.map, inOrder]

theorem itemsToJson_cases : ∀ items : List Json,
    ∃ denoted, itemsToJson (ofItems items) = .ok denoted ∧
      ∀ item ∈ denoted, (ofJson item).toJson = .ok item
  | [] => ⟨[], rfl, by simp⟩
  | item :: rest => by
      obtain ⟨first, firstDenoted, firstItself⟩ := toJson_ofJson item
      obtain ⟨others, othersDenoted, each⟩ := itemsToJson_cases rest
      refine ⟨first :: others, ?_, ?_⟩
      · simp only [ofItems, itemsToJson, firstDenoted, othersDenoted]
        rfl
      · simpa using ⟨firstItself, each⟩

theorem entriesToJson_cases : ∀ fields : List (String × Json),
    ∃ entries, entriesToJson (ofFields fields) = .ok entries ∧
      ∀ entry ∈ entries, (ofJson entry.2).toJson = .ok entry.2
  | [] => ⟨[], rfl, by simp⟩
  | (name, value) :: rest => by
      obtain ⟨first, firstDenoted, firstItself⟩ := toJson_ofJson value
      obtain ⟨others, othersDenoted, each⟩ := entriesToJson_cases rest
      refine ⟨(name, first) :: others, ?_, ?_⟩
      · simp only [ofFields, entriesToJson, firstDenoted, othersDenoted]
        rfl
      · intro entry member
        rcases List.mem_cons.mp member with rfl | later
        · exact firstItself
        · exact each entry later

end

end Node

end Ussd
