import Ussd.Proofs.JsonNumber

/-! # Reading what was written

The text of a value is read as that value again, if the value is not nested too deeply for the
reader and every number in it is legible. Only a number can depend on what follows it, and nothing
that follows a value inside a document goes on with a numeral. -/

namespace Ussd

namespace Json

/-! ## Quoted texts -/

theorem digitsIn?_hexDigits : ∀ code < 32,
    Text.digitsIn? 16 ['0', '0', hexDigit (code / 16), hexDigit (code % 16)] = some code := by
  decide

/-- A character is read from what it is written as, whatever follows. -/
theorem readTextFrom_escapeChar (fuel : Nat) (c : Char) (rest : List Char) :
    readTextFrom (fuel + 1) (escapeChar c ++ rest) =
      (readTextFrom fuel rest).map fun parts => (parts.1.map (c :: ·), parts.2) := by
  unfold escapeChar
  split
  case isTrue isQuote => simp [readTextFrom, readEscape, isQuote]
  split
  case isTrue isBackslash => simp [readTextFrom, readEscape, isBackslash]
  split
  case isTrue isNewline => simp [readTextFrom, readEscape, isNewline]
  split
  case isTrue isReturn => simp [readTextFrom, readEscape, isReturn]
  split
  case isTrue isTab => simp [readTextFrom, readEscape, isTab]
  split
  case isTrue isBackspace =>
    obtain rfl : c = Char.ofNat 8 := by rw [← isBackspace, Char.ofNat_toNat]
    rfl
  split
  case isTrue isFeed =>
    obtain rfl : c = Char.ofNat 12 := by rw [← isFeed, Char.ofNat_toNat]
    rfl
  split
  case isTrue isControl =>
    have digits := digitsIn?_hexDigits c.toNat isControl
    have notHigh : ¬(55296 ≤ c.toNat ∧ c.toNat < 56320) := by omega
    have notLow : ¬(56320 ≤ c.toNat ∧ c.toNat < 57344) := by omega
    simp [readTextFrom, readEscape, hexUnit?, digits, notHigh, notLow]
  case isFalse notQuote notBackslash _ _ _ _ _ notControl =>
    simp [readTextFrom, notQuote, notBackslash, notControl]

theorem readTextFrom_escaped (text rest : List Char) {fuel : Nat} (enough : text.length < fuel) :
    readTextFrom fuel (text.flatMap escapeChar ++ '"' :: rest) = some (some text, rest) := by
  induction text generalizing fuel with
  | nil =>
      obtain ⟨fuel, rfl⟩ : ∃ less, fuel = less + 1 := ⟨fuel - 1, by simp at enough; omega⟩
      rfl
  | cons c text induction =>
      obtain ⟨fuel, rfl⟩ : ∃ less, fuel = less + 1 := ⟨fuel - 1, by simp at enough; omega⟩
      have enoughLeft : text.length < fuel := by simp at enough; omega
      rw [List.flatMap_cons, List.append_assoc, readTextFrom_escapeChar, induction enoughLeft]
      rfl

theorem length_le_escaped (text : List Char) : text.length ≤ (text.flatMap escapeChar).length := by
  induction text with
  | nil => simp
  | cons c text induction =>
      have one : 1 ≤ (escapeChar c).length := by
        unfold escapeChar
        repeat' split
        all_goals simp
      simp only [List.flatMap_cons, List.length_append, List.length_cons]
      omega

theorem readText_quote (text rest : List Char) :
    readText (text.flatMap escapeChar ++ '"' :: rest) = some (some text, rest) := by
  have enough := length_le_escaped text
  exact readTextFrom_escaped text rest (by simp only [List.length_append]; omega)

/-! ## Values -/

mutual

/-- How many lists and objects stand inside one another. -/
def depth : Json → Nat
  | .list items => itemsDepth items + 1
  | .object fields => fieldsDepth fields + 1
  | _ => 0

def itemsDepth : List Json → Nat
  | [] => 0
  | item :: rest => max (depth item) (itemsDepth rest)

def fieldsDepth : List (String × Json) → Nat
  | [] => 0
  | (_, value) :: rest => max (depth value) (fieldsDepth rest)

end

mutual

def numbers : Json → List Number
  | .number value => [value]
  | .list items => itemsNumbers items
  | .object fields => fieldsNumbers fields
  | _ => []

def itemsNumbers : List Json → List Number
  | [] => []
  | item :: rest => numbers item ++ itemsNumbers rest

def fieldsNumbers : List (String × Json) → List Number
  | [] => []
  | (_, value) :: rest => numbers value ++ fieldsNumbers rest

end

theorem write_starts {value : Json} (legible : ∀ number ∈ value.numbers, number.Legible)
    (rest : List Char) : ∃ c tail, skipSpace (value.write ++ rest) = c :: tail ∧ c ≠ ']' := by
  cases value with
  | null => exact ⟨_, _, rfl, by decide⟩
  | bool truth => cases truth <;> exact ⟨_, _, rfl, by decide⟩
  | number number => exact (legible number (by simp [numbers])).starts rest
  | text _ => exact ⟨_, _, rfl, by decide⟩
  | list _ => exact ⟨_, _, rfl, by decide⟩
  | object _ => exact ⟨_, _, rfl, by decide⟩

theorem writeItems_starts {item : Json} (legible : ∀ number ∈ item.numbers, number.Legible)
    (items : List Json) (rest : List Char) :
    ∃ c tail, skipSpace (writeItems (item :: items) ++ rest) = c :: tail ∧ c ≠ ']' := by
  cases items with
  | nil => exact write_starts legible rest
  | cons next items =>
      have written : writeItems (item :: next :: items) =
          item.write ++ ',' :: writeItems (next :: items) := rfl
      rw [written, List.append_assoc]
      exact write_starts legible _

/-- The fields of an object begin with a quoted name. -/
theorem writeFields_starts (field : String × Json) (fields : List (String × Json)) :
    ∃ text, writeFields (field :: fields) = '"' :: text := by
  cases fields with
  | nil => exact ⟨_, rfl⟩
  | cons next fields => exact ⟨_, rfl⟩

theorem write_length_pos {value : Json} (legible : ∀ number ∈ value.numbers, number.Legible) :
    0 < value.write.length := by
  obtain ⟨c, tail, starts, _⟩ := write_starts legible []
  cases written : value.write with
  | nil =>
      rw [written] at starts
      cases starts
  | cons _ _ => simp

theorem readValue_skipSpace (fuel depth : Nat) (text : List Char) :
    readValue fuel depth (skipSpace text) = readValue fuel depth text := by
  have again : skipSpace (skipSpace text) = skipSpace text := by
    have first := List.head?_dropWhile_not isSpace text
    rw [← skipSpace] at first
    cases skipped : skipSpace text with
    | nil => rfl
    | cons c rest =>
        rw [skipped] at first
        have notSpace : isSpace c = false := first
        exact List.dropWhile_cons_of_neg (by simp [notSpace])
  cases fuel with
  | zero => rfl
  | succ fuel =>
      unfold readValue
      rw [again]

theorem readItems_skipSpace (fuel depth : Nat) (text : List Char) :
    readItems fuel depth (skipSpace text) = readItems fuel depth text := by
  cases fuel with
  | zero => rfl
  | succ fuel =>
      unfold readItems
      rw [readValue_skipSpace]

theorem limitDepth_of_lt {depth : Nat} (shallow : depth < depthLimit) (node : Node) :
    limitDepth depth node = node := if_pos shallow

/-- A list is read from its items. -/
theorem readValue_list {fuel depth : Nat} {text rest : List Char} {items : List Node}
    (shallow : depth < depthLimit)
    (starts : ∃ c tail, skipSpace text = c :: tail ∧ c ≠ ']')
    (reads : readItems fuel (depth + 1) text = (items, rest)) :
    readValue (fuel + 1) depth ('[' :: text) = (.list items, rest) := by
  obtain ⟨c, tail, isStart, notEnd⟩ := starts
  have readsHere : readItems fuel (depth + 1) (c :: tail) = (items, rest) := by
    rw [← isStart, readItems_skipSpace]
    exact reads
  have bracket : skipSpace ('[' :: text) = '[' :: text := rfl
  unfold readValue
  simp only [bracket, isStart]
  split
  case h_1 isEnd => exact absurd (List.cons.inj isEnd).1 notEnd
  case h_2 => rw [readsHere, limitDepth_of_lt shallow]

/-- An object is read from its entries. -/
theorem readValue_object {fuel depth : Nat} {text rest : List Char}
    {entries : List (Option String × Node)} (shallow : depth < depthLimit)
    (reads : readEntries fuel (depth + 1) ('"' :: text) = (entries, rest)) :
    readValue (fuel + 1) depth ('\x7b' :: '"' :: text) = (.map entries, rest) := by
  have brace : skipSpace ('\x7b' :: '"' :: text) = '\x7b' :: '"' :: text := rfl
  have mark : skipSpace ('"' :: text) = '"' :: text := rfl
  unfold readValue
  simp only [brace, mark, limitDepth_of_lt shallow]
  split
  case h_1 isEnd => cases isEnd
  case h_2 => rw [reads]

theorem readItems_last {fuel depth : Nat} {text rest : List Char} {item : Node}
    (reads : readValue fuel depth text = (item, ']' :: rest)) :
    readItems (fuel + 1) depth text = ([item], rest) := by
  unfold readItems
  rw [reads]
  rfl

theorem readItems_more {fuel depth : Nat} {text next rest : List Char} {item : Node}
    {items : List Node} (reads : readValue fuel depth text = (item, ',' :: next))
    (readsMore : readItems fuel depth next = (items, rest)) :
    readItems (fuel + 1) depth text = (item :: items, rest) := by
  have comma : skipSpace (',' :: next) = ',' :: next := rfl
  unfold readItems
  simp only [reads, comma, readsMore]

theorem readEntries_last {fuel depth : Nat} {name : String} {text rest : List Char} {value : Node}
    (reads : readValue fuel depth text = (value, '\x7d' :: rest)) :
    readEntries (fuel + 1) depth (quote name.toList ++ ':' :: text) =
      ([(some name, value)], rest) := by
  have mark (tail : List Char) : skipSpace ('"' :: tail) = '"' :: tail := rfl
  have colon : skipSpace (':' :: text) = ':' :: text := rfl
  have brace : skipSpace ('\x7d' :: rest) = '\x7d' :: rest := rfl
  unfold readEntries
  simp [quote, mark, readText_quote, colon, reads, brace]

theorem readEntries_more {fuel depth : Nat} {name : String} {text next rest : List Char}
    {value : Node} {entries : List (Option String × Node)}
    (reads : readValue fuel depth text = (value, ',' :: next))
    (readsMore : readEntries fuel depth next = (entries, rest)) :
    readEntries (fuel + 1) depth (quote name.toList ++ ':' :: text) =
      ((some name, value) :: entries, rest) := by
  have mark (tail : List Char) : skipSpace ('"' :: tail) = '"' :: tail := rfl
  have colon : skipSpace (':' :: text) = ':' :: text := rfl
  have comma : skipSpace (',' :: next) = ',' :: next := rfl
  unfold readEntries
  simp [quote, mark, readText_quote, colon, reads, comma, readsMore]

theorem readValue_text (fuel depth : Nat) (text : String) (rest : List Char) :
    readValue (fuel + 1) depth (quote text.toList ++ rest) = (.text text, rest) := by
  have mark (tail : List Char) : skipSpace ('"' :: tail) = '"' :: tail := rfl
  unfold readValue
  simp [quote, mark, readText_quote]

/-! ### The round trip -/

theorem afterNumeral_cons {c : Char} (other : c ∈ [',', ']', '\x7d']) (rest : List Char) :
    AfterNumeral (c :: rest) := by
  intro first isFirst
  cases isFirst
  simp only [List.mem_cons, List.not_mem_nil, or_false] at other
  rcases other with rfl | rfl | rfl <;> decide

mutual

/-- The induction is on the value; the fuel is used up by characters, two for each of them. -/
theorem readValue_write : ∀ (value : Json) {fuel depth : Nat} {rest : List Char},
    (∀ number ∈ value.numbers, number.Legible) → 2 * value.write.length ≤ fuel →
    depth + value.depth ≤ depthLimit → AfterNumeral rest →
    readValue fuel depth (value.write ++ rest) = (.ofJson value, rest)
  | value, 0, depth, rest, legible, enough, _, _ => by
      have some := write_length_pos legible
      omega
  | .null, fuel + 1, depth, rest, _, _, _, _ => rfl
  | .bool true, fuel + 1, depth, rest, _, _, _, _ => rfl
  | .bool false, fuel + 1, depth, rest, _, _, _, _ => rfl
  | .number value, fuel + 1, depth, rest, legible, _, _, after =>
      (legible value (by simp [numbers])).readValue fuel depth after
  | .text value, fuel + 1, depth, rest, _, _, _, _ => readValue_text fuel depth value rest
  | .list [], fuel + 1, depth, rest, _, _, shallow, _ => by
      have below : depth < depthLimit := by
        simp only [Json.depth] at shallow
        omega
      simp [write, writeItems, readValue, skipSpace, isSpace, limitDepth_of_lt below]
      rfl
  | .list (item :: items), fuel + 1, depth, rest, legible, enough, shallow, _ => by
      rw [Json.depth] at shallow
      rw [numbers] at legible
      simp only [write, List.length_cons, List.length_append] at enough
      have below : depth < depthLimit := by omega
      have ofItem : ∀ number ∈ item.numbers, number.Legible :=
        (List.forall_mem_append.mp legible).1
      have reads : readItems fuel (depth + 1) (writeItems (item :: items) ++ ']' :: rest) =
          (Node.ofItems (item :: items), rest) :=
        readItems_write item items legible (by omega) (by omega)
      have starts := writeItems_starts ofItem items (']' :: rest)
      simpa [write, Node.ofJson] using readValue_list below starts reads
  | .object [], fuel + 1, depth, rest, _, _, shallow, _ => by
      have below : depth < depthLimit := by
        simp only [Json.depth] at shallow
        omega
      simp [write, writeFields, readValue, skipSpace, isSpace, limitDepth_of_lt below]
      rfl
  | .object (field :: fields), fuel + 1, depth, rest, legible, enough, shallow, _ => by
      rw [Json.depth] at shallow
      rw [numbers] at legible
      simp only [write, List.length_cons, List.length_append] at enough
      have below : depth < depthLimit := by omega
      have reads : readEntries fuel (depth + 1) (writeFields (field :: fields) ++ '\x7d' :: rest) =
          (Node.ofFields (field :: fields), rest) :=
        readEntries_write field fields legible (by omega) (by omega)
      obtain ⟨text, isText⟩ := writeFields_starts field fields
      rw [isText] at reads
      simpa [write, isText, Node.ofJson] using readValue_object below reads

theorem readItems_write : ∀ (item : Json) (items : List Json) {fuel depth : Nat}
    {rest : List Char}, (∀ number ∈ itemsNumbers (item :: items), number.Legible) →
    2 * (writeItems (item :: items)).length < fuel →
    depth + itemsDepth (item :: items) ≤ depthLimit →
    readItems fuel depth (writeItems (item :: items) ++ ']' :: rest) =
      (Node.ofItems (item :: items), rest)
  | item, [], fuel + 1, depth, rest, legible, enough, shallow => by
      rw [itemsDepth] at shallow
      rw [writeItems] at enough
      have ofItem := (List.forall_mem_append.mp legible).1
      have after : AfterNumeral (']' :: rest) := afterNumeral_cons (by decide) rest
      have reads : readValue fuel depth (item.write ++ ']' :: rest) = (.ofJson item, ']' :: rest) :=
        readValue_write item ofItem (by omega) (by omega) after
      exact readItems_last reads
  | item, next :: items, fuel + 1, depth, rest, legible, enough, shallow => by
      rw [itemsDepth] at shallow
      simp only [writeItems, List.length_append, List.length_cons] at enough
      obtain ⟨ofItem, ofRest⟩ := List.forall_mem_append.mp legible
      let more := writeItems (next :: items) ++ ']' :: rest
      have after : AfterNumeral (',' :: more) := afterNumeral_cons (by decide) more
      have reads : readValue fuel depth (item.write ++ ',' :: more) = (.ofJson item, ',' :: more) :=
        readValue_write item ofItem (by omega) (by omega) after
      have readsMore : readItems fuel depth more = (Node.ofItems (next :: items), rest) :=
        readItems_write next items ofRest (by omega) (by omega)
      simpa [writeItems, Node.ofItems, more] using readItems_more reads readsMore

theorem readEntries_write : ∀ (field : String × Json) (fields : List (String × Json))
    {fuel depth : Nat} {rest : List Char},
    (∀ number ∈ fieldsNumbers (field :: fields), number.Legible) →
    2 * (writeFields (field :: fields)).length < fuel →
    depth + fieldsDepth (field :: fields) ≤ depthLimit →
    readEntries fuel depth (writeFields (field :: fields) ++ '\x7d' :: rest) =
      (Node.ofFields (field :: fields), rest)
  | (name, value), [], fuel + 1, depth, rest, legible, enough, shallow => by
      rw [fieldsDepth] at shallow
      simp only [writeFields, List.length_append, List.length_cons] at enough
      have ofValue := (List.forall_mem_append.mp legible).1
      have after : AfterNumeral ('\x7d' :: rest) := afterNumeral_cons (by decide) rest
      have reads : readValue fuel depth (value.write ++ '\x7d' :: rest) =
          (.ofJson value, '\x7d' :: rest) :=
        readValue_write value ofValue (by omega) (by omega) after
      simpa [writeFields, Node.ofFields] using readEntries_last reads
  | (name, value), next :: fields, fuel + 1, depth, rest, legible, enough, shallow => by
      rw [fieldsDepth] at shallow
      simp only [writeFields, List.length_append, List.length_cons] at enough
      obtain ⟨ofValue, ofRest⟩ := List.forall_mem_append.mp legible
      let more := writeFields (next :: fields) ++ '\x7d' :: rest
      have after : AfterNumeral (',' :: more) := afterNumeral_cons (by decide) more
      have reads : readValue fuel depth (value.write ++ ',' :: more) =
          (.ofJson value, ',' :: more) :=
        readValue_write value ofValue (by omega) (by omega) after
      have readsMore : readEntries fuel depth more = (Node.ofFields (next :: fields), rest) :=
        readEntries_write next fields ofRest (by omega) (by omega)
      simpa [writeFields, Node.ofFields, more] using readEntries_more reads readsMore

end

/-- A value that is not nested too deeply and whose numbers are legible is read as itself. -/
theorem readDocument_write {value : Json} (legible : ∀ number ∈ value.numbers, number.Legible)
    (shallow : value.depth ≤ depthLimit) : readDocument value.write = .ofJson value := by
  have reads : readNode (value.write ++ []) = (.ofJson value, []) :=
    readValue_write value legible (by simp) (by omega) fun _ isFirst => nomatch isFirst
  rw [List.append_nil] at reads
  simp only [readDocument, reads]
  rfl

end Json

end Ussd
