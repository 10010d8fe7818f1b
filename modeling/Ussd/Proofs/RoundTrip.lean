import Ussd.Proofs.JsonDocument

/-! # Decoding what was encoded

A decoder accepts more than one form of a value: fields in any order or in a list, fields that are
null or left out, names in several spellings. What it gives is encoded in one form only. A decoder
round trips with an encoding if that form is decoded to the same result again. Structures round
trip because their fields do, whatever else the record that was read contained. -/

namespace Ussd

variable {α γ ε : Type}

theorem bind_eq_ok {first : Except ε α} {next : α → Except ε γ} {result : γ} :
    (first >>= next) = .ok result ↔ ∃ value, first = .ok value ∧ next value = .ok result := by
  cases first <;> simp [bind, Except.bind]

theorem pure_eq_ok {value result : α} :
    (pure value : Except ε α) = .ok result ↔ value = result :=
  Except.ok.injEq value result ▸ Iff.rfl

theorem map_eq_ok {first : Except ε α} {change : α → γ} {result : γ} :
    first.map change = .ok result ↔ ∃ value, first = .ok value ∧ change value = result := by
  cases first <;> simp [Except.map]

theorem toOption_eq_some {result : Except ε α} {value : α} :
    result.toOption = some value ↔ result = .ok value := by
  cases result <;> simp [Except.toOption]

namespace Decoder

/-- Whatever is decoded from a value is decoded again from what it is encoded as. As null counts as
absence, nothing but null is encoded as null. -/
structure RoundTrips (decode : Decoder α) (encode : α → Json) : Prop where
  again {value : Json} {result : α} :
    decode (.ofJson value) = .ok result → decode (.ofJson (encode result)) = .ok result
  null {value : Json} {result : α} :
    decode (.ofJson value) = .ok result → (encode result).isNull → value.isNull

/-! ## Scalars -/

@[simp] theorem meaning_ofJson (value : Json) : meaning (.ofJson value) = .ofJson value := by
  cases value <;> rfl

theorem text_roundTrips : text.RoundTrips Json.text where
  again _ := rfl
  null _ isNull := nomatch isNull

theorem bool_roundTrips : bool.RoundTrips Json.bool where
  again _ := rfl
  null _ isNull := nomatch isNull

theorem double_roundTrips : double.RoundTrips fun value => .number (.double value) where
  again _ := rfl
  null _ isNull := nomatch isNull

theorem natural_le {greatest result : Nat} {value : Json}
    (reads : natural greatest (.ofJson value) = .ok result) : result ≤ greatest := by
  obtain ⟨whole, isWhole, rfl⟩ := map_eq_ok.mp reads
  simp only [Decoder.whole, meaning_ofJson] at isWhole
  split at isWhole
  · split at isWhole
    case isTrue within =>
      cases isWhole
      omega
    case isFalse => cases isWhole
  · cases isWhole

theorem natural_roundTrips (greatest : Nat) : (natural greatest).RoundTrips Json.natural where
  again {_ result} reads := by
    have within : (0 : Int) ≤ result ∧ (result : Int) ≤ greatest := by
      have small := natural_le reads
      omega
    simp [natural, whole, Json.natural, Node.ofJson, meaning, within, Except.map]
  null _ isNull := nomatch isNull

theorem word_roundTrips : word.RoundTrips Json.natural := natural_roundTrips Text.greatestWord

theorem json_roundTrips : json.RoundTrips id where
  again {value result} reads := by
    obtain ⟨denoted, isDenoted, denotesItself⟩ := Node.toJson_ofJson value
    cases isDenoted.symm.trans reads
    exact denotesItself
  null {value result} reads isNull := by
    cases value with
    | null => rfl
    | bool _ =>
        cases reads
        cases isNull
    | number _ =>
        cases reads
        cases isNull
    | text _ =>
        cases reads
        cases isNull
    | list items =>
        obtain ⟨_, _, rfl⟩ := map_eq_ok.mp reads
        cases isNull
    | object fields =>
        obtain ⟨_, _, rfl⟩ := map_eq_ok.mp reads
        cases isNull

/-- A text that is read as something else, and may be written differently. -/
theorem worded_roundTrips {read : String → α} {write : α → String}
    (stable : ∀ raw, read (write (read raw)) = read raw) :
    RoundTrips (fun node => (text node).map read) fun result => .text (write result) where
  again {value result} reads := by
    obtain ⟨raw, _, rfl⟩ := map_eq_ok.mp reads
    exact congrArg Except.ok (stable raw)
  null _ isNull := nomatch isNull

theorem choice_roundTrips {select : String → Option α} {label : α → String}
    (labelled : ∀ value, select (label value) = some value) :
    (choice select).RoundTrips fun value => .text (label value) where
  again {value result} _ := by
    simp [choice, Node.ofJson, labelled]
  null _ isNull := nomatch isNull

/-! ## Lists and tables -/

theorem items_ofItems {decode : Decoder α} {encode : α → Json}
    (trips : decode.RoundTrips encode) {values : List Json} {results : List α}
    (reads : items decode (Node.ofItems values) = .ok results) :
    items decode (Node.ofItems (results.map encode)) = .ok results := by
  induction values generalizing results with
  | nil =>
      cases reads
      rfl
  | cons value rest induction =>
      simp only [Node.ofItems, items] at reads
      split at reads
      · cases reads
      · rename_i first readsFirst
        obtain ⟨others, readsOthers, rfl⟩ := map_eq_ok.mp reads
        simp only [List.map_cons, Node.ofItems, items, trips.again readsFirst,
          induction readsOthers, Except.map]

theorem list_roundTrips {decode : Decoder α} {encode : α → Json}
    (trips : decode.RoundTrips encode) :
    (list decode).RoundTrips fun values => .list (values.map encode) where
  again {value results} reads := by
    cases value with
    | list values => exact items_ofItems trips reads
    | _ => cases reads
  null _ isNull := nomatch isNull

theorem entries_textFields (table : Table String) :
    entries text (Node.ofFields (table.map fun entry => (entry.1, .text entry.2))) =
      .ok table := by
  induction table with
  | nil => rfl
  | cons entry rest induction =>
      simp only [List.map_cons, Node.ofFields, entries, Node.ofJson, text, induction, Except.map]

theorem textTable_roundTrips : (table text).RoundTrips textTable where
  again {value result} reads := by
    cases value with
    | object fields =>
        obtain ⟨entries, _, rfl⟩ := map_eq_ok.mp reads
        have inOrder := (Table.ordered_ofList entries).ofList_eq
        simp only [textTable, Node.ofJson, table, entries_textFields, Except.map, inOrder]
    | _ => cases reads
  null _ isNull := nomatch isNull

end Decoder

/-! ## Records -/

/-- What a record shows of a field that a value has or has not. -/
def Slot.ofField : Option Json → Slot
  | some value => .given (.ofJson value)
  | none => .absent

namespace Record

/-- What the fields of a record were given as are values. -/
def OfValues (record : Record) : Prop :=
  ∀ entry ∈ record.slots, ∀ node, entry.2 = .given node → ∃ value, node = .ofJson value

theorem OfValues.slot {record : Record} (ofValues : record.OfValues) {name : String} {node : Node}
    (given : record.slot name = .given node) : ∃ value, node = .ofJson value := by
  unfold Record.slot at given
  split at given
  · rename_i entry found
    exact ofValues entry (List.mem_of_find?_eq_some found) node given
  · cases given

private theorem ofValues_collect {names : List String} {fields : List (String × Json)}
    {found slots : List (String × Slot)} (before : OfValues ⟨found⟩)
    (collected : collect names (Node.ofFields fields) found = .ok slots) : OfValues ⟨slots⟩ := by
  induction fields generalizing found with
  | nil =>
      cases collected
      exact before
  | cons field rest induction =>
      simp only [Node.ofFields, collect] at collected
      split at collected
      · split at collected
        · cases collected
        · refine induction ?_ collected
          intro entry member node given
          rcases List.mem_cons.mp member with rfl | later
          · cases given
            exact ⟨field.2, rfl⟩
          · exact before entry later node given
      · exact induction before collected

private theorem ofValues_align {names : List String} {values : List Json}
    {slots : List (String × Slot)} (aligned : align names (Node.ofItems values) = .ok slots) :
    OfValues ⟨slots⟩ := by
  induction names generalizing values slots with
  | nil =>
      cases values with
      | nil =>
          cases aligned
          exact fun _ member => absurd member List.not_mem_nil
      | cons value rest => cases aligned
  | cons name names induction =>
      cases values with
      | nil =>
          obtain ⟨others, alignedOthers, rfl⟩ := map_eq_ok.mp aligned
          have beyond : OfValues ⟨others⟩ :=
            induction (show align names (Node.ofItems []) = .ok others from alignedOthers)
          intro entry member node given
          rcases List.mem_cons.mp member with rfl | later
          · cases given
          · exact beyond entry later node given
      | cons value rest =>
          obtain ⟨others, alignedOthers, rfl⟩ := map_eq_ok.mp aligned
          intro entry member node given
          rcases List.mem_cons.mp member with rfl | later
          · cases given
            exact ⟨value, rfl⟩
          · exact induction alignedOthers entry later node given

theorem ofValues_of_ofNode {names : List String} {value : Json} {record : Record}
    (reads : ofNode names (.ofJson value) = .ok record) : record.OfValues := by
  cases value with
  | object fields =>
      obtain ⟨slots, collected, rfl⟩ := map_eq_ok.mp reads
      exact ofValues_collect (fun _ member => absurd member List.not_mem_nil) collected
  | list values =>
      obtain ⟨slots, aligned, rfl⟩ := map_eq_ok.mp reads
      exact ofValues_align aligned
  | _ => cases reads

/-- An object whose fields are in order is collected into a record that shows all of them. -/
private theorem collect_ofFields (names : List String) {fields : Table Json}
    (ordered : fields.Ordered) {found : List (String × Slot)}
    (fresh : ∀ field ∈ fields, found.any (·.1 == field.1) = false) :
    ∃ slots, collect names (Node.ofFields fields) found = .ok slots ∧
      ∀ name ∈ names, slot ⟨slots⟩ name =
        match Table.get? fields name with
        | some value => .given (.ofJson value)
        | none => slot ⟨found⟩ name := by
  induction fields generalizing found with
  | nil => exact ⟨found, rfl, fun _ _ => rfl⟩
  | cons field rest induction =>
      rcases List.pairwise_cons.mp ordered with ⟨less, restOrdered⟩
      have freshRest : ∀ other ∈ rest, found.any (·.1 == other.1) = false :=
        fun other member => fresh other (List.mem_cons_of_mem _ member)
      have isFresh := fresh field List.mem_cons_self
      by_cases known : names.contains field.1
      · have freshWith : ∀ other ∈ rest,
            ((field.1, Slot.given (.ofJson field.2)) :: found).any (·.1 == other.1) = false := by
          intro other member
          have different : field.1 ≠ other.1 := by
            intro equal
            exact String.lt_irrefl _ (equal ▸ less other member)
          simp [different, freshRest other member]
        obtain ⟨slots, collected, shows⟩ := induction restOrdered freshWith
        refine ⟨slots, ?_, fun name isName => ?_⟩
        · simp only [Node.ofFields, collect, known, isFresh]
          exact collected
        · rw [shows name isName]
          by_cases equal : field.1 = name
          · have later : Table.get? rest name = none :=
              Table.get?_eq_none_of_lt (equal ▸ less)
            simp [Table.get?, equal, later, slot]
          · simp only [Table.get?, if_neg equal]
            split
            · rfl
            · simp [slot, List.find?_cons_of_neg, equal]
      · obtain ⟨slots, collected, shows⟩ := induction restOrdered freshRest
        refine ⟨slots, ?_, fun name isName => ?_⟩
        · simp only [Node.ofFields, collect, known]
          exact collected
        · have different : field.1 ≠ name := by
            rintro rfl
            exact known (List.contains_iff_mem.mpr isName)
          rw [shows name isName]
          simp only [Table.get?, if_neg different]

private theorem collect_of_unknown {names : List String} {fields : List (String × Json)}
    (unknown : ∀ field ∈ fields, names.contains field.1 = false) (found : List (String × Slot)) :
    collect names (Node.ofFields fields) found = .ok found := by
  induction fields with
  | nil => rfl
  | cons field rest induction =>
      have first := unknown field List.mem_cons_self
      have others := induction fun other member => unknown other (List.mem_cons_of_mem _ member)
      simp only [Node.ofFields, collect, first]
      exact others

/-- The only known field of an object whose fields are in order. -/
theorem collect_single {fields : Table Json} (ordered : fields.Ordered) {name : String}
    {value : Json} (listed : Table.get? fields name = some value) :
    collect [name] (Node.ofFields fields) [] = .ok [(name, .given (.ofJson value))] := by
  induction fields with
  | nil => cases listed
  | cons field rest induction =>
      rcases List.pairwise_cons.mp ordered with ⟨less, restOrdered⟩
      by_cases equal : field.1 = name
      · subst equal
        have isValue : field.2 = value := by simpa [Table.get?] using listed
        have unknown : ∀ other ∈ rest, [field.1].contains other.1 = false := by
          intro other member
          have different : other.1 ≠ field.1 := by
            intro same
            exact String.lt_irrefl _ (same ▸ less other member)
          simp [different]
        simp [Node.ofFields, collect, isValue, collect_of_unknown unknown]
      · have listedLater : Table.get? rest name = some value := by
          simpa [Table.get?, equal] using listed
        simpa [Node.ofFields, collect, equal] using induction restOrdered listedLater

theorem ofNode_object (names : List String) {fields : Table Json} (ordered : fields.Ordered) :
    ∃ record, ofNode names (.ofJson (.object fields)) = .ok record ∧
      ∀ name ∈ names, record.slot name = Slot.ofField (Table.get? fields name) := by
  have fresh : ∀ field ∈ fields, ([] : List (String × Slot)).any (·.1 == field.1) = false :=
    fun _ _ => rfl
  obtain ⟨slots, collected, shows⟩ := collect_ofFields names ordered fresh
  refine ⟨⟨slots⟩, ?_, fun name isName => ?_⟩
  · simp only [Node.ofJson, ofNode, collected, Except.map]
  · rw [shows name isName]
    cases Table.get? fields name <;> rfl

/-- A record was read from a value, and another one shows the fields that were written for it. -/
structure Rewritten (names : List String) (fields : List (String × Json))
    (record written : Record) : Prop where
  ofValues : record.OfValues
  shows : ∀ name ∈ names, written.slot name = Slot.ofField (Table.get? fields.reverse name)

variable {names : List String} {fields : List (String × Json)} {record written : Record}

theorem rewritten_of_same {value : Json} (reads : ofNode names (.ofJson value) = .ok record)
    {table : Table Json} (ordered : table.Ordered)
    (same : ∀ name ∈ names, Table.get? table name = Table.get? fields.reverse name) :
    ∃ written, ofNode names (.ofJson (.object table)) = .ok written ∧
      Rewritten names fields record written := by
  obtain ⟨written, isWritten, shows⟩ := ofNode_object names ordered
  refine ⟨written, isWritten, ofValues_of_ofNode reads, fun name isName => ?_⟩
  rw [shows name isName, same name isName]

theorem rewritten {value : Json} (reads : ofNode names (.ofJson value) = .ok record)
    (fields : List (String × Json)) :
    ∃ written, ofNode names (.ofJson (.ofFields fields)) = .ok written ∧
      Rewritten names fields record written :=
  rewritten_of_same reads (Table.ordered_ofList fields) fun _ _ => Table.get?_ofList _ _

/-! ### Fields -/

theorem optional_ofJson (decode : Decoder α) (value : Json) :
    Decoder.optional decode (.ofJson value) =
      if value.isNull then .ok none else (decode (.ofJson value)).map some := by
  unfold Decoder.optional
  cases value <;> rfl

namespace Rewritten

variable {decode : Decoder α} {encode : α → Json} {name : String}

theorem required (rewritten : Rewritten names fields record written)
    (trips : decode.RoundTrips encode) {result : α}
    (reads : record.required name decode = .ok result) (isName : name ∈ names)
    (field : Table.get? fields.reverse name = some (encode result)) :
    written.required name decode = .ok result := by
  unfold Record.required at reads ⊢
  rw [rewritten.shows name isName, field]
  split at reads
  · rename_i node given
    obtain ⟨value, rfl⟩ := rewritten.ofValues.slot given
    exact trips.again reads
  · cases reads

theorem defaulted (rewritten : Rewritten names fields record written)
    (trips : decode.RoundTrips encode) {default : α}
    (defaultAgain : decode (.ofJson (encode default)) = .ok default) {result : α}
    (reads : record.defaulted name default decode = .ok result) (isName : name ∈ names)
    (field : Table.get? fields.reverse name = some (encode result)) :
    written.defaulted name default decode = .ok result := by
  unfold Record.defaulted at reads ⊢
  rw [rewritten.shows name isName, field]
  split at reads
  · rename_i node given
    obtain ⟨value, rfl⟩ := rewritten.ofValues.slot given
    exact trips.again reads
  · cases reads
    exact defaultAgain

theorem voluntary (rewritten : Rewritten names fields record written)
    (trips : decode.RoundTrips encode) {result : Option α}
    (reads : record.voluntary name decode = .ok result) (isName : name ∈ names)
    (field : Table.get? fields.reverse name = result.map encode) :
    written.voluntary name decode = .ok result := by
  unfold Record.voluntary Record.defaulted at reads ⊢
  rw [rewritten.shows name isName, field]
  cases result with
  | none => rfl
  | some result =>
      split at reads
      · rename_i node given
        obtain ⟨value, rfl⟩ := rewritten.ofValues.slot given
        rw [optional_ofJson] at reads
        split at reads
        · cases reads
        · rename_i notNull
          obtain ⟨_, readsValue, isResult⟩ := map_eq_ok.mp reads
          cases isResult
          have stillNotNull : ¬(encode result).isNull := fun null =>
            notNull (trips.null readsValue null)
          simp only [Option.map_some, Slot.ofField, optional_ofJson, if_neg stillNotNull,
            trips.again readsValue, Except.map]
      · cases reads

end Rewritten

/-- What is found of a field that is left out without a value. -/
@[simp] theorem get?_fieldIfSome (name key : String) (value : Option Json) :
    Table.get? (fieldIfSome name value).reverse key = if name = key then value else none := by
  cases value <;> simp [fieldIfSome, Table.get?]

end Record

end Ussd
