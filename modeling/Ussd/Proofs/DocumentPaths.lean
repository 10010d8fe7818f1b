import Ussd.Json.Path
import Ussd.Proofs.Numerals
import Ussd.Proofs.Stores
import Ussd.Proofs.TextPieces

/-! # Paths into documents

A path is the text of a list of steps, each of which leads from a value to one directly inside it.
What stands at a path is what its steps lead to, one after the other, and nothing stands there only
if one of the steps leads nowhere. -/

namespace Ussd.Json

/-! ## Steps into a document -/

/-- A step, as a path names it. -/
inductive PathStep where
  | key (name : List Char)
  | index (position : Nat)
  deriving DecidableEq, Repr

/-- The step leads from the first value to the second. An object is entered by the name of a field,
and a list by a position, which is a number of 64 bits, in brackets or as a key that is its
numeral. -/
inductive Enters : PathStep → Json → Json → Prop
  | field {fields : Fields} {name : List Char} {value : Json}
      (found : Table.get? fields (String.ofList name) = some value) :
      Enters (.key name) (.object fields) value
  | numbered {items : List Json} {name : List Char} {position : Nat} {value : Json}
      (denotes : Text.Denotes name position) (fits : position ≤ Text.greatestWord)
      (found : items[position]? = some value) : Enters (.key name) (.list items) value
  | item {items : List Json} {position : Nat} {value : Json}
      (fits : position ≤ Text.greatestWord) (found : items[position]? = some value) :
      Enters (.index position) (.list items) value

inductive Reaches : List PathStep → Json → Json → Prop
  | here {data : Json} : Reaches [] data data
  | step {step : PathStep} {steps : List PathStep} {data inner value : Json}
      (enters : Enters step data inner) (further : Reaches steps inner value) :
      Reaches (step :: steps) data value

namespace PathStep

/-- The text of the step behind another one. -/
def text : PathStep → List Char
  | .key name => '.' :: name
  | .index position => '[' :: ((toString position).toList ++ [']'])

/-- A key is not empty and has no blank and no character that paths use. -/
def IsWritable : PathStep → Prop
  | .key name => name ≠ [] ∧ '.' ∉ name ∧ '[' ∉ name ∧ ∀ c ∈ name, Text.isBlank c = false
  | .index _ => True

def enter? (step : PathStep) (data : Json) : Option Json :=
  match step with
  | .key name => enterKey data name
  | .index position =>
    if position ≤ Text.greatestWord then data.items?.bind fun items => items[position]? else none

theorem enter?_eq_some_iff {step : PathStep} {data value : Json} :
    step.enter? data = some value ↔ Enters step data value := by
  constructor
  · intro entered
    cases step with
    | key name =>
        cases data with
        | object fields => exact .field entered
        | list items =>
            rcases Option.bind_eq_some_iff.mp entered with ⟨position, isNumeral, found⟩
            rcases Text.unsigned?_eq_some_iff.mp isNumeral with ⟨denotes, fits⟩
            exact .numbered denotes fits found
        | null | bool | number | text => cases entered
    | index position =>
        rw [enter?] at entered
        split at entered
        · rename_i fits
          cases data with
          | list items => exact .item fits entered
          | null | bool | number | text | object => cases entered
        · cases entered
  · intro enters
    cases enters with
    | field found => exact found
    | numbered denotes fits found =>
        have isNumeral := Text.unsigned?_eq_some_iff.mpr ⟨denotes, fits⟩
        exact Option.bind_eq_some_iff.mpr ⟨_, isNumeral, found⟩
    | item fits found =>
        rw [enter?, if_pos fits]
        exact found

end PathStep

/-- The text of a path, which does not begin with a dot. -/
def pathText : List PathStep → List Char
  | .key name :: steps => name ++ steps.flatMap PathStep.text
  | steps => steps.flatMap PathStep.text

def follow? (steps : List PathStep) (data : Json) : Option Json :=
  steps.foldlM (fun value step => step.enter? value) data

theorem follow?_cons (step : PathStep) (steps : List PathStep) (data : Json) :
    follow? (step :: steps) data = (step.enter? data).bind (follow? steps) := rfl

theorem follow?_append (before behind : List PathStep) (data : Json) :
    follow? (before ++ behind) data = (follow? before data).bind (follow? behind) :=
  List.foldlM_append

theorem follow?_eq_some_iff {steps : List PathStep} {data value : Json} :
    follow? steps data = some value ↔ Reaches steps data value := by
  induction steps generalizing data with
  | nil =>
      constructor
      · intro same
        cases same
        exact .here
      · intro reaches
        cases reaches
        rfl
  | cons step steps induction =>
      rw [follow?_cons, Option.bind_eq_some_iff]
      constructor
      · intro found
        rcases found with ⟨inner, entered, found⟩
        exact .step (PathStep.enter?_eq_some_iff.mp entered) (induction.mp found)
      · intro reaches
        cases reaches with
        | step enters further =>
            exact ⟨_, PathStep.enter?_eq_some_iff.mpr enters, induction.mpr further⟩

/-- Following steps comes to nothing only at a step that leads nowhere. -/
theorem follow?_eq_none_iff {steps : List PathStep} {data : Json} :
    follow? steps data = none ↔ ∃ taken step later value, steps = taken ++ step :: later ∧
      Reaches taken data value ∧ ∀ inner, ¬Enters step value inner := by
  constructor
  · intro missing
    induction steps generalizing data with
    | nil => cases missing
    | cons step steps induction =>
        rw [follow?_cons] at missing
        cases entered : step.enter? data with
        | none =>
            refine ⟨[], step, steps, data, rfl, .here, ?_⟩
            intro inner enters
            rw [← PathStep.enter?_eq_some_iff, entered] at enters
            cases enters
        | some inner =>
            rw [entered] at missing
            rcases induction missing with ⟨taken, stuck, later, value, split, reaches, leadsNowhere⟩
            rw [PathStep.enter?_eq_some_iff] at entered
            exact ⟨step :: taken, stuck, later, value, by rw [split]; rfl, .step entered reaches,
              leadsNowhere⟩
  · intro stops
    rcases stops with ⟨taken, step, later, value, split, reaches, leadsNowhere⟩
    have stuck : step.enter? value = none := by
      apply Option.eq_none_iff_forall_ne_some.mpr
      intro inner entered
      exact leadsNowhere inner (PathStep.enter?_eq_some_iff.mp entered)
    rw [split, follow?_append, follow?_eq_some_iff.mpr reaches, Option.bind_some, follow?_cons,
      stuck, Option.bind_none]

/-! ## Reading a segment -/

def bracketed (position : Nat) : List Char := (PathStep.index position).text

theorem readIndexes_bracketed (fuel position : Nat) (rest : List Char) :
    readIndexes (fuel + 1) (bracketed position ++ rest) =
      if position ≤ Text.greatestWord then (readIndexes fuel rest).map (position :: ·) else none := by
  have digits : ∀ c ∈ (toString position).toList, c.isDigit := fun _ =>
    Text.isDigit_of_mem_toString
  have noBracket : ∀ c ∈ (toString position).toList, (c == ']') = false := by
    intro c isMember
    rw [beq_eq_false_iff_ne]
    rintro rfl
    cases digits _ isMember
  have cut : Text.splitOnce ']' ((toString position).toList ++ ']' :: rest) =
      some ((toString position).toList, rest) := Text.cutAt?_append noBracket rfl rest
  have kept : Text.trim (toString position).toList = (toString position).toList :=
    Text.trim_of_forall fun c isMember =>
      Text.isBlank_of_class Char.isDigit (by decide) (digits c isMember)
  have layout : bracketed position ++ rest = '[' :: ((toString position).toList ++ ']' :: rest) := by
    simp [bracketed, PathStep.text]
  rw [layout, readIndexes, cut]
  dsimp only
  rw [kept, Text.unsigned?_toString]
  by_cases fits : position ≤ Text.greatestWord
  · rw [if_pos fits, if_pos fits]
  · rw [if_neg fits, if_neg fits]

theorem enterIndexes_cons (position : Nat) (positions : List Nat) (data : Json) :
    enterIndexes data (position :: positions) =
      (data.items?.bind fun items => items[position]?).bind fun item =>
        enterIndexes item positions := by
  cases data <;> rfl

/-- Reading indexes and entering by them is following them, although all are read before the first
one is used. -/
theorem enterIndexes_of_bracketed (positions : List Nat) {fuel : Nat}
    (enough : positions.length ≤ fuel) (data : Json) :
    (readIndexes fuel (positions.flatMap bracketed)).bind (enterIndexes data) =
      follow? (positions.map .index) data := by
  induction positions generalizing fuel data with
  | nil => cases fuel <;> rfl
  | cons position positions induction =>
      cases fuel with
      | zero => cases enough
      | succ fuel =>
          have enough : positions.length ≤ fuel := Nat.le_of_succ_le_succ enough
          rw [List.flatMap_cons, readIndexes_bracketed, List.map_cons, follow?_cons, PathStep.enter?]
          split
          · rw [Option.bind_map]
            simp only [Function.comp_def, enterIndexes_cons]
            cases data.items?.bind fun items => items[position]? with
            | none => exact Option.bind_fun_none _
            | some item => exact induction enough item
          · rfl

theorem length_le_flatMap_bracketed (positions : List Nat) :
    positions.length ≤ (positions.flatMap bracketed).length := by
  induction positions with
  | nil => exact Nat.le_refl 0
  | cons position positions induction =>
      rw [List.flatMap_cons, List.length_append, List.length_cons, Nat.add_comm]
      exact Nat.add_le_add (Nat.succ_le_succ (Nat.zero_le _)) induction

theorem dot_notMem_bracketed (positions : List Nat) : '.' ∉ positions.flatMap bracketed := by
  intro isMember
  rcases List.mem_flatMap.mp isMember with ⟨position, -, isMember⟩
  simp only [bracketed, PathStep.text, List.mem_cons, List.mem_append, List.not_mem_nil,
    or_false] at isMember
  rcases isMember with isOpen | isDigit | isClose
  · cases isOpen
  · cases Text.isDigit_of_mem_toString isDigit
  · cases isClose

/-- What a name in front of the first index leads to; without one it is the value itself. -/
def enterName? (name : List Char) (data : Json) : Option Json :=
  if name.isEmpty then some data else enterKey data name

theorem enterName?_eq {name : List Char} (nonempty : name ≠ []) (data : Json) :
    enterName? name data = (PathStep.key name).enter? data :=
  if_neg (by simpa using nonempty)

theorem enterSegment_eq {name : List Char} (noBracket : '[' ∉ name) (positions : List Nat)
    (data : Json) :
    enterSegment data (name ++ positions.flatMap bracketed) =
      (enterName? name data).bind (follow? (positions.map .index)) := by
  have passes : ∀ c ∈ name, (c != '[') = true := Text.bne_of_not_mem noBracket
  have taken : (name ++ positions.flatMap bracketed).takeWhile (· != '[') = name := by
    rw [List.takeWhile_append_of_pos passes]
    cases positions <;> simp [bracketed, PathStep.text]
  have dropped : (name ++ positions.flatMap bracketed).dropWhile (· != '[') =
      positions.flatMap bracketed := by
    rw [List.dropWhile_append_of_pos passes]
    cases positions <;> simp [bracketed, PathStep.text]
  have reads (value : Json) :
      (readIndexes (positions.flatMap bracketed).length (positions.flatMap bracketed)).bind
          (enterIndexes value) = follow? (positions.map .index) value :=
    enterIndexes_of_bracketed positions (length_le_flatMap_bracketed positions) value
  rw [← funext reads, enterSegment, splitIndexes, taken, dropped]
  cases readIndexes (positions.flatMap bracketed).length (positions.flatMap bracketed) with
  | none => exact (Option.bind_fun_none _).symm
  | some indexes => rfl

/-- The first segment of a path with its name and its indexes before the other steps. -/
theorem enterSegments_splitOn {steps : List PathStep}
    (writable : ∀ step ∈ steps, step.IsWritable) {name : List Char} (noDot : '.' ∉ name)
    (noBracket : '[' ∉ name) (positions : List Nat) (data : Json) :
    enterSegments data (Text.splitOn '.'
        (name ++ (positions.flatMap bracketed ++ steps.flatMap PathStep.text))) =
      (enterName? name data).bind (follow? (positions.map .index ++ steps)) := by
  induction steps generalizing name positions data with
  | nil =>
      have oneSegment : '.' ∉ name ++ positions.flatMap bracketed :=
        List.not_mem_append noDot (dot_notMem_bracketed positions)
      rw [List.flatMap_nil, List.append_nil, List.append_nil, Text.splitOn_of_not_mem oneSegment,
        enterSegments, enterSegment_eq noBracket]
      exact Option.bind_fun_some _
  | cons step steps induction =>
      rcases List.forall_mem_cons.mp writable with ⟨first, others⟩
      cases step with
      | index position =>
          have longer := induction others noDot noBracket (positions ++ [position]) data
          rw [List.flatMap_append, List.flatMap_singleton, List.append_assoc, List.map_append,
            List.append_assoc] at longer
          exact longer
      | key key =>
          rcases first with ⟨nonempty, keyNoDot, keyNoBracket, -⟩
          have segmentEnds : '.' ∉ name ++ positions.flatMap bracketed :=
            List.not_mem_append noDot (dot_notMem_bracketed positions)
          have layout : name ++ (positions.flatMap bracketed ++
              (PathStep.key key :: steps).flatMap PathStep.text) =
              name ++ positions.flatMap bracketed ++ '.' :: (key ++ steps.flatMap PathStep.text) := by
            simp [PathStep.text]
          have further (value : Json) : enterSegments value
              (Text.splitOn '.' (key ++ steps.flatMap PathStep.text)) =
              follow? (.key key :: steps) value := by
            rw [follow?_cons, ← enterName?_eq nonempty]
            exact induction others keyNoDot keyNoBracket [] value
          rw [layout, Text.splitOn_append segmentEnds, enterSegments, enterSegment_eq noBracket,
            Option.bind_assoc]
          simp only [further, ← follow?_append]

/-! ## Reading a path -/

/-- A path that stands for no whole document is read segment by segment. -/
theorem extract_eq_enterSegments {path text : List Char} (trimmed : Text.trim path = text)
    (nonempty : text ≠ []) (notDot : text ≠ ['.']) (notRoot : text ≠ ['$'])
    (notRooted : ¬['$', '.'] <+: text) (data : Json) :
    extract data path = enterSegments data (Text.splitOn '.' text) := by
  simp [extract, trimmed, nonempty, notDot, notRoot, Text.afterStart?_eq_none_iff.mpr notRooted]

theorem extract_rooted {path : List Char} (nonempty : path ≠ [])
    (noBlank : ∀ c ∈ path, Text.isBlank c = false) (data : Json) :
    extract data ('$' :: '.' :: path) = enterSegments data (Text.splitOn '.' path) := by
  have noBlanks : ∀ c ∈ '$' :: '.' :: path, Text.isBlank c = false :=
    List.forall_mem_cons.mpr ⟨rfl, List.forall_mem_cons.mpr ⟨rfl, noBlank⟩⟩
  have start : Text.afterStart? ['$', '.'] ('$' :: '.' :: path) = some path :=
    Text.afterStart?_eq_some_iff.mpr rfl
  simp [extract, Text.trim_of_forall noBlanks, start, nonempty]

theorem isBlank_of_mem_text {step : PathStep} (writable : step.IsWritable) {c : Char}
    (isMember : c ∈ step.text) : Text.isBlank c = false := by
  cases step with
  | key name =>
      rcases List.mem_cons.mp isMember with rfl | isMember
      · rfl
      · exact writable.2.2.2 c isMember
  | index position =>
      simp only [PathStep.text, List.mem_cons, List.mem_append, List.not_mem_nil,
        or_false] at isMember
      rcases isMember with rfl | isDigit | rfl
      · rfl
      · exact Text.isBlank_of_class Char.isDigit (by decide) (Text.isDigit_of_mem_toString isDigit)
      · rfl

section Path

variable {steps : List PathStep}

theorem isBlank_of_mem_pathText (writable : ∀ step ∈ steps, step.IsWritable) {c : Char}
    (isMember : c ∈ pathText steps) : Text.isBlank c = false := by
  have ofTexts {steps : List PathStep} (writable : ∀ step ∈ steps, step.IsWritable)
      (isMember : c ∈ steps.flatMap PathStep.text) : Text.isBlank c = false := by
    rcases List.mem_flatMap.mp isMember with ⟨step, isStep, isMember⟩
    exact isBlank_of_mem_text (writable step isStep) isMember
  cases steps with
  | nil => cases isMember
  | cons step steps =>
      rcases List.forall_mem_cons.mp writable with ⟨first, others⟩
      cases step with
      | key name =>
          rcases List.mem_append.mp isMember with isMember | isMember
          · exact first.2.2.2 c isMember
          · exact ofTexts others isMember
      | index position => exact ofTexts writable isMember

/-- The segments of a path are entered as its steps are followed. -/
theorem enterSegments_pathText (nonempty : steps ≠ [])
    (writable : ∀ step ∈ steps, step.IsWritable) (data : Json) :
    enterSegments data (Text.splitOn '.' (pathText steps)) = follow? steps data := by
  cases steps with
  | nil => exact absurd rfl nonempty
  | cons step steps =>
      rcases List.forall_mem_cons.mp writable with ⟨first, others⟩
      cases step with
      | key name =>
          rcases first with ⟨named, noDot, noBracket, -⟩
          rw [follow?_cons, ← enterName?_eq named]
          exact enterSegments_splitOn others noDot noBracket [] data
      | index position =>
          exact enterSegments_splitOn writable List.not_mem_nil List.not_mem_nil [] data

theorem pathText_ne_root (nonempty : steps ≠ []) (writable : ∀ step ∈ steps, step.IsWritable)
    (notRoot : steps.head? ≠ some (.key ['$'])) :
    pathText steps ≠ [] ∧ pathText steps ≠ ['.'] ∧ pathText steps ≠ ['$'] ∧
      ¬['$', '.'] <+: pathText steps := by
  cases steps with
  | nil => exact absurd rfl nonempty
  | cons step steps =>
      cases step with
      | index position => simp [pathText, PathStep.text]
      | key name =>
          rcases (List.forall_mem_cons.mp writable).1 with ⟨named, noDot, -, -⟩
          rcases List.exists_cons_of_ne_nil named with ⟨c, rest, rfl⟩
          have notDot : c ≠ '.' := by
            rintro rfl
            exact noDot List.mem_cons_self
          cases rest with
          | nil =>
              have notDollar : c ≠ '$' := by
                rintro rfl
                exact notRoot rfl
              simp [pathText, notDot, notDollar, Ne.symm notDollar]
          | cons second rest =>
              have secondNotDot : '.' ≠ second := by
                rintro rfl
                exact noDot (List.mem_cons_of_mem _ List.mem_cons_self)
              simp [pathText, secondNotDot]

theorem extract_pathText (nonempty : steps ≠ []) (writable : ∀ step ∈ steps, step.IsWritable)
    (notRoot : steps.head? ≠ some (.key ['$'])) (data : Json) :
    extract data (pathText steps) = follow? steps data := by
  have kept : Text.trim (pathText steps) = pathText steps :=
    Text.trim_of_forall fun c => isBlank_of_mem_pathText writable
  rcases pathText_ne_root nonempty writable notRoot with ⟨notEmpty, notDot, notDollar, notRooted⟩
  rw [extract_eq_enterSegments kept notEmpty notDot notDollar notRooted,
    enterSegments_pathText nonempty writable]

end Path

/-- What is extracted at a path is what its steps lead to, and nothing is extracted exactly if one of
the steps leads nowhere. A path may as well begin at the name of the whole document. -/
theorem extract_path_follows_its_steps {steps : List PathStep} (nonempty : steps ≠ [])
    (writable : ∀ step ∈ steps, step.IsWritable) (notRoot : steps.head? ≠ some (.key ['$']))
    (data : Json) :
    (∀ value, extract data (pathText steps) = some value ↔ Reaches steps data value) ∧
    (extract data (pathText steps) = none ↔
      ∃ taken step later value, steps = taken ++ step :: later ∧ Reaches taken data value ∧
        ∀ inner, ¬Enters step value inner) ∧
    extract data ('$' :: '.' :: pathText steps) = extract data (pathText steps) := by
  have notEmpty := (pathText_ne_root nonempty writable notRoot).1
  rw [extract_pathText nonempty writable notRoot, extract_rooted notEmpty,
    enterSegments_pathText nonempty writable]
  · exact ⟨fun value => follow?_eq_some_iff, follow?_eq_none_iff, rfl⟩
  · exact fun c => isBlank_of_mem_pathText writable

namespace Sample

/-- The second key is a name, the third one a numeral. -/
def steps : List PathStep :=
  [.key "items".toList, .index 0, .index 1, .key "+1".toList, .key "+1".toList]

def document : Json :=
  .object [("items", .list [.list [.null, .object [("+1", .list [.null, .bool true])]]])]

theorem reaches_document : Reaches steps document (.bool true) := by
  have isOne : Text.Denotes "+1".toList 1 := (Text.unsigned?_eq_some_iff.mp (by decide)).1
  apply Reaches.step (.field rfl)
  apply Reaches.step (.item (by decide) rfl)
  apply Reaches.step (.item (by decide) rfl)
  apply Reaches.step (.field rfl)
  apply Reaches.step (.numbered isOne (by decide) rfl)
  exact .here

end Sample

theorem value_below_lists_is_extracted :
    Sample.steps ≠ [] ∧ (∀ step ∈ Sample.steps, step.IsWritable) ∧
    Sample.steps.head? ≠ some (.key ['$']) ∧
    pathText Sample.steps = "items[0][1].+1.+1".toList ∧
    Reaches Sample.steps Sample.document (.bool true) ∧
    extract Sample.document (pathText Sample.steps) = some (.bool true) ∧
    extract Sample.document ('$' :: '.' :: pathText Sample.steps) = some (.bool true) := by
  have nonempty : Sample.steps ≠ [] := List.cons_ne_nil _ _
  have word : (PathStep.key "items".toList).IsWritable :=
    ⟨by decide, by decide, by decide, Text.forall_of_all (by decide)⟩
  have numeral : (PathStep.key "+1".toList).IsWritable :=
    ⟨by decide, by decide, by decide, Text.forall_of_all (by decide)⟩
  have index (position : Nat) : (PathStep.index position).IsWritable := trivial
  have writable : ∀ step ∈ Sample.steps, step.IsWritable := by
    simp only [Sample.steps, List.forall_mem_cons]
    exact ⟨word, index 0, index 1, numeral, numeral, by simp⟩
  have notRoot : Sample.steps.head? ≠ some (.key ['$']) := by decide
  rcases extract_path_follows_its_steps nonempty writable notRoot Sample.document with
    ⟨follows, -, rooted⟩
  have found := (follows _).mpr Sample.reaches_document
  exact ⟨nonempty, writable, notRoot, by decide, Sample.reaches_document, found,
    rooted.trans found⟩

/-! ## Walking and extracting -/

/-- No list occurs in the document. -/
inductive ListFree : Json → Prop
  | null : ListFree .null
  | bool (value : Bool) : ListFree (.bool value)
  | number (value : Number) : ListFree (.number value)
  | text (value : String) : ListFree (.text value)
  | object {fields : Fields} (each : ∀ entry ∈ fields, ListFree entry.2) :
      ListFree (.object fields)

theorem enterSegment_of_plain {segment : List Char} (nonempty : segment ≠ [])
    (noBracket : '[' ∉ segment) (data : Json) :
    enterSegment data segment = enterKey data segment := by
  have entered := enterSegment_eq noBracket [] data
  rw [List.flatMap_nil, List.append_nil, enterName?_eq nonempty] at entered
  exact entered.trans (Option.bind_fun_some _)

section Walk

variable {segments : List (List Char)}
  (plain : ∀ segment ∈ segments, segment ≠ [] ∧ '[' ∉ segment)

include plain

theorem enterSegments_of_walk {data value : Json} (found : walk data segments = some value) :
    enterSegments data segments = some value := by
  induction segments generalizing data with
  | nil => exact found
  | cons segment segments induction =>
      rcases List.forall_mem_cons.mp plain with ⟨⟨nonempty, noBracket⟩, others⟩
      rcases Option.bind_eq_some_iff.mp found with ⟨inner, isField, further⟩
      rcases Option.bind_eq_some_iff.mp isField with ⟨fields, isObject, entered⟩
      cases data with
      | object =>
          cases isObject
          rw [enterSegments, enterSegment_of_plain nonempty noBracket, enterKey, entered]
          exact induction others further
      | null | bool | number | text | list => cases isObject

/-- Where there are no lists to enter, extracting is walking. -/
theorem enterSegments_of_listFree {data : Json} (free : ListFree data) :
    enterSegments data segments = walk data segments := by
  induction segments generalizing data with
  | nil => rfl
  | cons segment segments induction =>
      rcases List.forall_mem_cons.mp plain with ⟨⟨nonempty, noBracket⟩, others⟩
      rw [enterSegments, enterSegment_of_plain nonempty noBracket, walk]
      cases free with
      | object each =>
          rename_i fields
          have entered : enterKey (.object fields) segment =
              field? (.object fields) (String.ofList segment) := rfl
          rw [entered]
          cases found : field? (.object fields) (String.ofList segment) with
          | none => rfl
          | some inner => exact induction others (each _ (Table.mem_of_get? found))
      | null | bool | number | text => rfl

end Walk

/-- A path of keys without brackets that does not begin at the name of the whole document. What
conditions and templates see there is what is extracted, and where there are no lists, nothing else
is extracted. -/
theorem paths_of_keys_agree {path : List Char}
    (plain : ∀ segment ∈ Text.splitOn '.' (Text.trim path), segment ≠ [] ∧ '[' ∉ segment)
    (notRoot : (Text.splitOn '.' (Text.trim path)).head? ≠ some ['$']) (data : Json) :
    (∀ value, lookup data path = some value → extract data path = some value) ∧
    (ListFree data → extract data path = lookup data path) := by
  have nonempty : Text.trim path ≠ [] := by
    intro isEmpty
    rw [isEmpty] at plain
    exact (plain [] List.mem_cons_self).1 rfl
  have notDot : Text.trim path ≠ ['.'] := by
    intro isDot
    rw [isDot] at plain
    exact (plain [] List.mem_cons_self).1 rfl
  have notDollar : Text.trim path ≠ ['$'] := by
    intro isDollar
    rw [isDollar] at notRoot
    exact notRoot rfl
  have notRooted : ¬['$', '.'] <+: Text.trim path := by
    rintro ⟨rest, isRooted⟩
    have layout : ['$'] ++ '.' :: rest = Text.trim path := isRooted
    rw [← layout, Text.splitOn_append (by decide)] at notRoot
    exact notRoot rfl
  have walks : lookup data path = walk data (Text.splitOn '.' (Text.trim path)) :=
    if_neg (by simpa using nonempty)
  rw [extract_eq_enterSegments rfl nonempty notDot notDollar notRooted, walks]
  exact ⟨fun value => enterSegments_of_walk plain, enterSegments_of_listFree plain⟩

namespace Sample

def keys : List Char := " items.0 ".toList

/-- An object whose field has the name of a position. -/
def numberedFields : Json := .object [("items", .object [("0", .bool true)])]

def noFields : Json := .object [("items", .object [])]

end Sample

/-- Nothing is walked to in the list at the same place, but its first item is extracted. -/
theorem numbered_field_is_walked_to :
    (∀ segment ∈ Text.splitOn '.' (Text.trim Sample.keys), segment ≠ [] ∧ '[' ∉ segment) ∧
    (Text.splitOn '.' (Text.trim Sample.keys)).head? ≠ some ['$'] ∧
    lookup Sample.numberedFields Sample.keys = some (.bool true) ∧
    extract Sample.numberedFields Sample.keys = some (.bool true) ∧
    ListFree Sample.noFields ∧ extract Sample.noFields Sample.keys = none ∧
    lookup Sample.document Sample.keys = none ∧
    (extract Sample.document Sample.keys).isSome := by
  have segments : Text.splitOn '.' (Text.trim Sample.keys) = ["items".toList, ['0']] := by decide
  have plain : ∀ segment ∈ Text.splitOn '.' (Text.trim Sample.keys),
      segment ≠ [] ∧ '[' ∉ segment := by
    rw [segments]
    simp
  have notRoot : (Text.splitOn '.' (Text.trim Sample.keys)).head? ≠ some ['$'] := by
    rw [segments]
    decide
  have free : ListFree Sample.noFields := .object (by simpa using ListFree.object (by simp))
  have found : lookup Sample.numberedFields Sample.keys = some (.bool true) := rfl
  have missing : lookup Sample.noFields Sample.keys = none := rfl
  have extracted := (paths_of_keys_agree plain notRoot Sample.numberedFields).1 _ found
  have nothing := (paths_of_keys_agree plain notRoot Sample.noFields).2 free
  exact ⟨plain, notRoot, found, extracted, free, nothing.trans missing, rfl, rfl⟩

end Ussd.Json
