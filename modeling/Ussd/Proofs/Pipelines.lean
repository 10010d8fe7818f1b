import Ussd.Proofs.TextPieces
import Ussd.Template.Placeholder

/-! # Written pipelines

A pipeline is written as a path and filters with bars between them, and an argument stands between
double quotes. What was written is read back, whatever the arguments hold: between the quotes a bar
separates nothing, a colon names nothing and a single quote opens nothing. -/

namespace Ussd.Pipeline

/-! ## Parts of a pipeline -/

/-- No bar in the text separates, and its quotes are closed. -/
def IsPart (text : List Char) : Prop :=
  ∀ rest part parts, split rest = part :: parts → split (text ++ rest) = (text ++ part) :: parts

theorem IsPart.append {text other : List Char} (isPart : IsPart text) (otherIsPart : IsPart other) :
    IsPart (text ++ other) := by
  intro rest part parts isSplit
  rw [List.append_assoc, List.append_assoc]
  exact isPart _ _ _ (otherIsPart _ _ _ isSplit)

theorem isPart_of_plain {text : List Char} (plain : ∀ c ∈ text, isQuote c = false ∧ c ≠ '|') :
    IsPart text := by
  induction text with
  | nil => exact fun _ _ _ isSplit => isSplit
  | cons c text induction =>
      intro rest part parts isSplit
      rcases List.forall_mem_cons.mp plain with ⟨⟨notQuote, notBar⟩, textPlain⟩
      have tail : splitFrom none (text ++ rest) = (text ++ part) :: parts :=
        induction textPlain _ _ _ isSplit
      simp [split, splitFrom, notQuote, notBar, tail]

theorem isPart_quoted {mark : Char} (isMark : isQuote mark) {text : List Char}
    (unquoted : mark ∉ text) : IsPart (mark :: (text ++ [mark])) := by
  intro rest part parts isSplit
  have closed : splitFrom (some mark) (text ++ mark :: rest) = (text ++ mark :: part) :: parts := by
    have restSplit : splitFrom none rest = part :: parts := isSplit
    induction text with
    | nil => simp [splitFrom, restSplit]
    | cons c text induction =>
        rw [List.mem_cons, not_or] at unquoted
        rcases unquoted with ⟨different, absent⟩
        simp [splitFrom, Ne.symm different, induction absent]
  have notBar : mark ≠ '|' := by
    rintro rfl
    cases isMark
  simp [split, splitFrom, isMark, notBar, closed]

theorem isPart_blank : IsPart [' '] := isPart_of_plain (by simp [isQuote])

theorem IsPart.split_self {text : List Char} (isPart : IsPart text) : split text = [text] := by
  have isSplit := isPart [] [] [] rfl
  simpa using isSplit

theorem IsPart.split_bar {text : List Char} (isPart : IsPart text) (rest : List Char) :
    split (text ++ '|' :: rest) = text :: split rest := by
  have bar : split ('|' :: rest) = [] :: split rest := by simp [split, splitFrom]
  simpa using isPart _ _ _ bar

theorem applySegments_eq_foldl (value : Json) (segments : List (List Char)) :
    applySegments value segments =
      (segments.map parseFilter).foldl (fun value call => applyFilter call.1 call.2 value) value := by
  rw [List.foldl_map]
  rfl

/-! ## Writing -/

/-- The name of a filter and what stands between double quotes behind it. -/
structure WrittenFilter where
  name : List Char
  argument : Option (List Char)
  namePlain : ∀ c ∈ name, isQuote c = false ∧ c ≠ '|' ∧ c ≠ ':'
  nameTrimmed : Text.trim name = name
  unquoted : ∀ text ∈ argument, '"' ∉ text

def WrittenFilter.text (filter : WrittenFilter) : List Char :=
  match filter.argument with
  | none => filter.name
  | some argument => filter.name ++ ':' :: ('"' :: (argument ++ ['"']))

def written (path : List Char) (filters : List WrittenFilter) : List Char :=
  path ++ filters.flatMap fun filter => ' ' :: '|' :: ' ' :: filter.text

/-! ## Reading -/

theorem parseFilter_of_no_colon {segment : List Char} (noColon : ':' ∉ segment) :
    parseFilter segment = (Text.trim segment, none) := by
  have noCut : Text.splitOnce ':' segment = none := by
    rw [Text.splitOnce, Text.cutAt?_eq_none_iff]
    exact fun c isMember => beq_eq_false_iff_ne.mpr (ne_of_mem_of_not_mem isMember noColon)
  rw [parseFilter, noCut]

theorem colon_not_mem_blanks {blanks : List Char} (areBlank : ∀ c ∈ blanks, Text.isBlank c) :
    ':' ∉ blanks :=
  fun isMember => absurd (areBlank ':' isMember) (by decide)

namespace WrittenFilter

variable (filter : WrittenFilter)

theorem isPart : IsPart filter.text := by
  have name : IsPart filter.name := isPart_of_plain fun c isMember =>
    ⟨(filter.namePlain c isMember).1, (filter.namePlain c isMember).2.1⟩
  unfold text
  split
  · exact name
  · rename_i argument isArgument
    have colon : IsPart [':'] := isPart_of_plain (by simp [isQuote])
    have quoted := isPart_quoted (by decide) (filter.unquoted argument isArgument)
    exact name.append (colon.append quoted)

theorem trim_name {blanks : List Char} (areBlank : ∀ c ∈ blanks, Text.isBlank c) :
    Text.trim (' ' :: (filter.name ++ blanks)) = filter.name := by
  rw [Text.trim_cons_blank (by decide), Text.trim_append_blank areBlank, filter.nameTrimmed]

/-- The first colon stands behind the name: in front of it there is none, and those of the argument
come later. -/
theorem parseFilter_text {blanks : List Char} (areBlank : ∀ c ∈ blanks, Text.isBlank c) :
    parseFilter (' ' :: (filter.text ++ blanks)) = (filter.name, filter.argument) := by
  have nameColon : ':' ∉ ' ' :: filter.name := by
    rw [List.mem_cons, not_or]
    exact ⟨by decide, fun isMember => (filter.namePlain ':' isMember).2.2 rfl⟩
  cases isArgument : filter.argument with
  | none =>
      have noColon : ':' ∉ ' ' :: (filter.name ++ blanks) := by
        rw [← List.cons_append, List.mem_append, not_or]
        exact ⟨nameColon, colon_not_mem_blanks areBlank⟩
      simp only [text, isArgument, parseFilter_of_no_colon noColon, filter.trim_name areBlank]
  | some argument =>
      have layout : ' ' :: (filter.text ++ blanks) =
          ' ' :: filter.name ++ ':' :: ('"' :: (argument ++ ['"']) ++ blanks) := by
        simp [text, isArgument]
      have passes : ∀ c ∈ ' ' :: filter.name, (c == ':') = false := fun c isMember =>
        beq_eq_false_iff_ne.mpr (ne_of_mem_of_not_mem isMember nameColon)
      have cut := Text.cutAt?_append passes (c := ':') rfl ('"' :: (argument ++ ['"']) ++ blanks)
      have name := filter.trim_name (List.forall_mem_nil _)
      rw [List.append_nil] at name
      have notBlank : Text.isBlank '"' = false := by decide
      have isMark : isQuote '"' := by decide
      simp only [parseFilter, Text.splitOnce, layout, cut, name, Text.trim_append_blank areBlank,
        Text.trim_enclosed notBlank notBlank, unquote_quoted isMark]

end WrittenFilter

/-- Only the blanks before the bars are added to the parts of a pipeline. -/
theorem split_written {path : List Char} (isPart : IsPart path) (filters : List WrittenFilter) :
    ∃ blanks segments, (∀ c ∈ blanks, Text.isBlank c) ∧
      split (written path filters) = (path ++ blanks) :: segments ∧
      segments.map parseFilter = filters.map fun filter => (filter.name, filter.argument) := by
  induction filters generalizing path with
  | nil => exact ⟨[], [], by simp, by simpa [written] using isPart.split_self, rfl⟩
  | cons filter filters induction =>
      rcases induction (isPart_blank.append filter.isPart) with
        ⟨blanks, segments, areBlank, isSplit, parsed⟩
      have layout : written path (filter :: filters) =
          (path ++ [' ']) ++ '|' :: written ([' '] ++ filter.text) filters := by
        simp [written]
      refine ⟨[' '], ([' '] ++ filter.text ++ blanks) :: segments,
        Text.forall_of_all (by decide), ?_, ?_⟩
      · rw [layout, (isPart.append isPart_blank).split_bar, isSplit]
      · simp [parsed, filter.parseFilter_text areBlank]

theorem lookup_append_blank {blanks : List Char} (areBlank : ∀ c ∈ blanks, Text.isBlank c)
    (data : Json) (path : List Char) : data.lookup (path ++ blanks) = data.lookup path := by
  rw [Json.lookup, Text.trim_append_blank areBlank, Json.lookup]

/-- The value at the path goes through the filters in the order in which they are written. -/
theorem evaluate_written {path : List Char} (isPart : IsPart path) (filters : List WrittenFilter)
    (data : Json) :
    Placeholder.evaluate (written path filters) data =
      filters.foldl (fun value filter => applyFilter filter.name filter.argument value)
        ((data.lookup path).getD .null) := by
  rcases split_written isPart filters with ⟨blanks, segments, areBlank, isSplit, parsed⟩
  simp only [Placeholder.evaluate, isSplit, lookup_append_blank areBlank, applySegments_eq_foldl,
    parsed, List.foldl_map]

/-- The parts of a pipeline are the path, but for blanks around it, and the filters as they were
written. A path is not parsed, but one without a colon would be read like the name of a filter. -/
theorem written_filters_are_read_back {path : List Char}
    (plain : ∀ c ∈ path, isQuote c = false ∧ c ≠ '|') (filters : List WrittenFilter) :
    ∃ part segments, split (written path filters) = part :: segments ∧
      Text.trim part = Text.trim path ∧
      (':' ∉ path → parseFilter part = (Text.trim path, none)) ∧
      segments.map parseFilter = filters.map fun filter => (filter.name, filter.argument) := by
  rcases split_written (isPart_of_plain plain) filters with
    ⟨blanks, segments, areBlank, isSplit, parsed⟩
  have trimmed := Text.trim_append_blank areBlank path
  refine ⟨path ++ blanks, segments, isSplit, trimmed, fun noColon => ?_, parsed⟩
  have stillNone : ':' ∉ path ++ blanks := by
    rw [List.mem_append, not_or]
    exact ⟨noColon, colon_not_mem_blanks areBlank⟩
  rw [parseFilter_of_no_colon stillNone, trimmed]

namespace Sample

theorem plainName {name : List Char}
    (plain : name.all fun c => !isQuote c && c != '|' && c != ':') :
    ∀ c ∈ name, isQuote c = false ∧ c ≠ '|' ∧ c ≠ ':' := by
  intro c isMember
  simpa [and_assoc] using List.all_eq_true.mp plain c isMember

/-- The argument has a bar, a colon, a single quote that is not closed, and a blank at its end. -/
def fallback : WrittenFilter where
  name := "default".toList
  argument := some "aucun | vide: l'autre ".toList
  namePlain := plainName (by decide +kernel)
  nameTrimmed := by decide +kernel
  unquoted := by simp

def cut : WrittenFilter where
  name := "truncate".toList
  argument := some []
  namePlain := plainName (by decide +kernel)
  nameTrimmed := by decide +kernel
  unquoted := by simp

def unheard : WrittenFilter where
  name := "sans effet".toList
  argument := none
  namePlain := plainName (by decide +kernel)
  nameTrimmed := by decide +kernel
  unquoted := by simp

def path : List Char := " compte.solde ".toList

end Sample

theorem bars_between_quotes_are_read_back :
    (∀ c ∈ Sample.path, isQuote c = false ∧ c ≠ '|') ∧
    String.ofList (written Sample.path [Sample.fallback, Sample.cut, Sample.unheard]) =
      " compte.solde  | default:\"aucun | vide: l'autre \" | truncate:\"\" | sans effet" ∧
    ∃ part segments,
      split (written Sample.path [Sample.fallback, Sample.cut, Sample.unheard]) =
        part :: segments ∧
      Text.trim part = "compte.solde".toList ∧
      parseFilter part = ("compte.solde".toList, none) ∧
      segments.map parseFilter =
        [("default".toList, some "aucun | vide: l'autre ".toList),
          ("truncate".toList, some []), ("sans effet".toList, none)] := by
  have plain : ∀ c ∈ Sample.path, (!isQuote c && c != '|') = true :=
    Text.forall_of_all (by decide +kernel)
  have pathPlain : ∀ c ∈ Sample.path, isQuote c = false ∧ c ≠ '|' := by simpa using plain
  rcases written_filters_are_read_back pathPlain [Sample.fallback, Sample.cut, Sample.unheard] with
    ⟨part, segments, isSplit, trimmed, named, parsed⟩
  have isPath : Text.trim Sample.path = "compte.solde".toList := by decide +kernel
  have noColon : ':' ∉ Sample.path := by decide +kernel
  rw [isPath] at trimmed named
  exact ⟨pathPlain, by decide +kernel, part, segments, isSplit, trimmed, named noColon, parsed⟩

end Ussd.Pipeline
