import Ussd.Condition
import Ussd.Proofs.TextPieces

/-! # Comparisons with quoted texts

A condition is cut at the first operator before its quotes are considered, and `!=` is looked for
first. So a quoted text may hold blanks, quotes, braces and `==`, and every text without `!=` is
compared as it is written. -/

namespace Ussd.Condition

/-! ## Paths of variables -/

theorem isBlank_of_isNameChar {c : Char} (isName : isNameChar c) : Text.isBlank c = false :=
  Text.isBlank_of_class isNameChar (by decide +kernel) isName

theorem isVariablePath_pieces {path : List Char} (isVariable : isVariablePath path) :
    ∀ piece ∈ Text.splitOn '.' path, piece ≠ [] ∧ ∀ c ∈ piece, isNameChar c := by
  simp only [isVariablePath, Bool.and_eq_true, List.all_eq_true] at isVariable
  intro piece isPiece
  simpa using isVariable.2 piece isPiece

theorem isNameChar_or_dot {path : List Char} (isVariable : isVariablePath path) :
    ∀ c ∈ path, isNameChar c ∨ c = '.' := by
  refine Text.forall_of_pieces (fun c => isNameChar c ∨ c = '.') (.inr rfl) ?_
  exact fun piece isPiece c isMember =>
    .inl ((isVariablePath_pieces isVariable piece isPiece).2 c isMember)

theorem not_mem_variablePath {path : List Char} (isVariable : isVariablePath path) {c : Char}
    (noName : isNameChar c = false) (noDot : c ≠ '.') : c ∉ path := by
  intro isMember
  rcases isNameChar_or_dot isVariable c isMember with isName | isDot
  · rw [noName] at isName
    cases isName
  · exact noDot isDot

theorem isBlank_of_mem_variablePath {path : List Char} (isVariable : isVariablePath path) :
    ∀ c ∈ path, Text.isBlank c = false := by
  intro c isMember
  rcases isNameChar_or_dot isVariable c isMember with isName | rfl
  · exact isBlank_of_isNameChar isName
  · decide

theorem trim_variablePath {path : List Char} (isVariable : isVariablePath path) :
    Text.trim path = path :=
  Text.trim_of_forall (isBlank_of_mem_variablePath isVariable)

theorem variablePath_ne_nil {path : List Char} (isVariable : isVariablePath path) : path ≠ [] := by
  rintro rfl
  cases isVariable

theorem variablePath_append_blank {path : List Char} (isVariable : isVariablePath path) :
    variablePath (path ++ [' ']) = .ok path := by
  have blank : ∀ c ∈ [' '], Text.isBlank c := Text.forall_of_all (by decide)
  simp [variablePath, Text.trim_append_blank blank, trim_variablePath isVariable,
    variablePath_ne_nil isVariable, isVariable]

/-- What is not part of a path cannot be an operand. -/
theorem variablePath_of_mem {raw : List Char} {c : Char} (isMember : c ∈ raw)
    (notBlank : Text.isBlank c = false) (noName : isNameChar c = false) (noDot : c ≠ '.') :
    ∃ fault, variablePath raw = .error fault := by
  have stays := Text.mem_trim isMember notBlank
  have notVariable : isVariablePath (Text.trim raw) = false := by
    rw [← Bool.not_eq_true]
    intro isVariable
    exact not_mem_variablePath isVariable noName noDot stays
  simp [variablePath, List.ne_nil_of_mem stays, notVariable]

/-! ## Between the braces -/

/-- The body ends at the closing braces if none are closed within. -/
theorem shortestBody?_closed {text : List Char} (oneLine : '\n' ∉ text)
    (notClosed : ¬['\x7d', '\x7d'] <:+: text) {last : Char} (notBlank : Text.isBlank last = false)
    (noBrace : last ≠ '\x7d') (collected : List Char) :
    shortestBody? collected (text ++ last :: ['\x7d', '\x7d']) =
      some (collected ++ text ++ [last]) := by
  have noLine : last ≠ '\n' := by
    rintro rfl
    cases notBlank
  induction text generalizing collected with
  | nil =>
      have closed : Text.startsWith ['\x7d', '\x7d'] (Text.trimStart ['\x7d', '\x7d']) := by decide
      simp [shortestBody?, noLine, closed]
  | cons c text induction =>
      rw [List.mem_cons, not_or] at oneLine
      have notEarlier : ¬['\x7d', '\x7d'] <:+: text :=
        fun closed => notClosed (List.infix_cons closed)
      have notHere :
          Text.startsWith ['\x7d', '\x7d'] (Text.trimStart (text ++ last :: ['\x7d', '\x7d'])) =
            false := by
        rw [← Bool.not_eq_true, Text.startsWith_iff,
          Text.trimStart_append_cons notBlank]
        -- Braces that begin so early would have to end before the last character.
        intro isStart
        have absent : last ∉ ['\x7d', '\x7d'] := by simp [noBrace]
        have within := Text.prefix_of_prefix_append_cons isStart absent
        exact notEarlier (within.isInfix.trans (List.dropWhile_suffix _).isInfix)
      rw [List.cons_append, shortestBody?, if_neg (Ne.symm oneLine.1), notHere, if_neg (by simp),
        induction oneLine.2 notEarlier]
      simp

/-- The expression of a condition that begins with braces and ends with braces. -/
theorem expressionIn?_closed {first last : Char} {text : List Char}
    (firstStays : Text.isBlank first = false) (lastStays : Text.isBlank last = false)
    (oneLine : '\n' ∉ first :: text) (notClosed : ¬['\x7d', '\x7d'] <:+: first :: text)
    (noBrace : last ≠ '\x7d') :
    expressionIn? ('\x7b' :: '\x7b' :: first :: (text ++ last :: ['\x7d', '\x7d'])) =
      some (first :: (text ++ [last])) := by
  have body : shortestBody? [] (first :: (text ++ last :: ['\x7d', '\x7d'])) =
      some (first :: (text ++ [last])) :=
    shortestBody?_closed oneLine notClosed lastStays noBrace []
  have trimmed := Text.trim_enclosed firstStays lastStays text
  simp [expressionIn?, Text.afterStart?, bodyAfterBlanks?, firstStays, body, trimmed]

/-! ## Quoted texts -/

section

inductive Operator where
  | equal
  | different
  deriving DecidableEq

def Operator.text : Operator → List Char
  | .equal => ['=', '=']
  | .different => ['!', '=']

def comparison (path : List Char) (operator : Operator) (quote : Char) (text : List Char) :
    List Char :=
  path ++ ' ' :: (operator.text ++ ' ' :: quote :: (text ++ [quote]))

/-- The condition that a comparison holds. -/
def comparing (path : List Char) (operator : Operator) (quote : Char) (text : List Char) : String :=
  String.ofList (['\x7b', '\x7b'] ++ comparison path operator quote text ++ ['\x7d', '\x7d'])

/-- The path leads to a value, other than null, that is shown as the text. -/
def Shows (data : Json) (path text : List Char) : Prop :=
  ∃ value, data.lookup path = some value ∧ ¬value.isNull ∧ value.display = String.ofList text

variable {path text : List Char} {operator : Operator} {quote : Char}

theorem shows_iff (data : Json) :
    Shows data path text ↔
      (present? data path).any fun value => value.display == String.ofList text := by
  cases found : data.lookup path with
  | none => simp [Shows, present?, found]
  | some value => cases null : value.isNull <;> simp [Shows, present?, found, null]

instance (data : Json) : Decidable (Shows data path text) :=
  decidable_of_iff _ (shows_iff data).symm

theorem quote_eq (isMark : Pipeline.isQuote quote) : quote = '"' ∨ quote = '\'' := by
  simpa [Pipeline.isQuote] using isMark

theorem isBlank_quote (isMark : Pipeline.isQuote quote) : Text.isBlank quote = false := by
  rcases quote_eq isMark with rfl | rfl <;> decide

theorem quote_not_mem (isMark : Pipeline.isQuote quote) {fragment : List Char}
    (noQuotes : fragment.all fun c => !Pipeline.isQuote c) : quote ∉ fragment := by
  intro isMember
  have noQuote := List.all_eq_true.mp noQuotes quote isMember
  simp [isMark] at noQuote

/-- A fragment without blanks and quotes is in the path, in the operator or in the text. -/
theorem infix_comparison_iff {fragment : List Char} (nonempty : fragment ≠ [])
    (noBlank : ' ' ∉ fragment) (noQuote : quote ∉ fragment) :
    fragment <:+: comparison path operator quote text ↔
      fragment <:+: path ∨ fragment <:+: operator.text ∨ fragment <:+: text := by
  have quoted : fragment <:+: quote :: (text ++ [quote]) ↔ fragment <:+: text := by
    rw [← List.nil_append (quote :: (text ++ [quote])), Text.infix_append_cons_iff nonempty noQuote,
      Text.infix_append_cons_iff nonempty noQuote, List.infix_nil]
    simp [nonempty]
  rw [comparison, Text.infix_append_cons_iff nonempty noBlank,
    Text.infix_append_cons_iff nonempty noBlank, quoted]

theorem literal_quoted (isMark : Pipeline.isQuote quote) :
    literal (quote :: (text ++ [quote])) = .text (String.ofList text) := by
  have shorter : text ≠ quote :: (text ++ [quote]) := by
    intro same
    have length := congrArg List.length same
    simp at length
    omega
  simp [literal, Pipeline.unquote_quoted isMark, shorter]

theorem compare_quoted (isVariable : isVariablePath path) (isMark : Pipeline.isQuote quote)
    (data : Json) :
    compare (path ++ [' ']) (' ' :: quote :: (text ++ [quote])) data =
      .ok (decide (Shows data path text)) := by
  have notBlank := isBlank_quote isMark
  have trimmed : Text.trim (' ' :: quote :: (text ++ [quote])) = quote :: (text ++ [quote]) := by
    rw [Text.trim_cons_blank (by decide), Text.trim_enclosed notBlank notBlank]
  have notNull : quote :: (text ++ [quote]) ≠ "null".toList := by
    rcases quote_eq isMark with rfl | rfl <;> simp
  have equal : decide (Shows data path text) =
      (present? data path).any fun value => value.display == String.ofList text := by
    rw [Bool.eq_iff_iff, decide_eq_true_iff, shows_iff]
  rw [compare, variablePath_append_blank isVariable, trimmed, equal]
  simp only [List.isEmpty_cons, if_neg notNull, literal_quoted isMark]
  rfl

/-- A fragment that begins with no character of names is not in a path. -/
theorem not_infix_variablePath (isVariable : isVariablePath path) {c : Char} {fragment : List Char}
    (noName : isNameChar c = false) (noDot : c ≠ '.') : ¬c :: fragment <:+: path :=
  fun occurs => not_mem_variablePath isVariable noName noDot (occurs.subset List.mem_cons_self)

theorem expressionIn?_comparing (isVariable : isVariablePath path) (operator : Operator)
    (isMark : Pipeline.isQuote quote) (oneLine : '\n' ∉ text)
    (notClosed : ¬['\x7d', '\x7d'] <:+: text) :
    expressionIn? (comparing path operator quote text).toList =
      some (comparison path operator quote text) := by
  have line : '\n' ∉ comparison path operator quote text := by
    have notInPath : '\n' ∉ path := not_mem_variablePath isVariable (by decide) (by decide)
    rcases quote_eq isMark with rfl | rfl <;> cases operator <;>
      simp [comparison, Operator.text, notInPath, oneLine]
  have closed : ¬['\x7d', '\x7d'] <:+: comparison path operator quote text := by
    rw [infix_comparison_iff (by decide) (by decide) (quote_not_mem isMark (by decide))]
    intro occurs
    rcases occurs with inPath | inOperator | inText
    · exact not_infix_variablePath isVariable (by decide) (by decide) inPath
    · revert inOperator
      cases operator <;> decide
    · exact notClosed inText
  cases path with
  | nil => cases isVariable
  | cons first rest =>
      have firstStays := isBlank_of_mem_variablePath isVariable first List.mem_cons_self
      have layout : comparison (first :: rest) operator quote text =
          first :: (rest ++ ' ' :: (operator.text ++ ' ' :: quote :: text)) ++ [quote] := by
        simp [comparison]
      rw [comparing, String.toList_ofList]
      rw [layout] at line closed ⊢
      have noBrace : quote ≠ '\x7d' := by
        rcases quote_eq isMark with rfl | rfl <;> decide
      have found := expressionIn?_closed firstStays (isBlank_quote isMark)
        (fun isMember => line (List.mem_append_left _ isMember))
        (fun occurs => closed (occurs.trans (List.infix_append' [] _ _))) noBrace
      simpa using found

theorem holds_comparing (isVariable : isVariablePath path) (operator : Operator)
    (isMark : Pipeline.isQuote quote) (oneLine : '\n' ∉ text)
    (notClosed : ¬['\x7d', '\x7d'] <:+: text) (data : Json) :
    holds (comparing path operator quote text) data ↔
      evaluateExpression (comparison path operator quote text) data = .ok true := by
  have notBlank : isAllBlank (comparing path operator quote text) = false := by
    have brace : Text.isBlank '\x7b' = false := by decide
    simp [isAllBlank, Text.isAllBlank, comparing, brace]
  rw [holds, judge, notBlank, expressionIn?_comparing isVariable operator isMark oneLine notClosed]
  cases evaluated : evaluateExpression (comparison path operator quote text) data <;>
    simp [Verdict.holds, evaluated]

theorem cutFragment?_comparison (isVariable : isVariablePath path) (operator : Operator)
    (quote : Char) (text : List Char) :
    Text.cutFragment? operator.text (comparison path operator quote text) =
      some (path ++ [' '], ' ' :: quote :: (text ++ [quote])) := by
  have notBefore {c : Char} (noName : isNameChar c = false) (noDot : c ≠ '.') (noBlank : c ≠ ' ') :
      c ∉ path ++ [' '] := by
    simp [not_mem_variablePath isVariable noName noDot, noBlank]
  have layout : comparison path operator quote text =
      path ++ [' '] ++ (operator.text ++ ' ' :: quote :: (text ++ [quote])) := by
    simp [comparison]
  rw [layout]
  cases operator with
  | equal => exact Text.cutFragment?_append (notBefore (by decide) (by decide) (by decide)) _ _
  | different => exact Text.cutFragment?_append (notBefore (by decide) (by decide) (by decide)) _ _

theorem evaluate_different (isVariable : isVariablePath path) (isMark : Pipeline.isQuote quote)
    (data : Json) :
    evaluateExpression (comparison path .different quote text) data =
      .ok (!decide (Shows data path text)) := by
  have cut := cutFragment?_comparison isVariable .different quote text
  rw [Operator.text] at cut
  rw [evaluateExpression, cut]
  simp only [compare_quoted isVariable isMark]
  rfl

theorem operator_in_quotes (isVariable : isVariablePath path) (isMark : Pipeline.isQuote quote) :
    ['!', '='] <:+: comparison path .equal quote text ↔ ['!', '='] <:+: text := by
  have notInPath : ¬['!', '='] <:+: path :=
    not_infix_variablePath isVariable (by decide) (by decide)
  have notOperator : ¬['!', '='] <:+: Operator.equal.text := by decide
  rw [infix_comparison_iff (by decide) (by decide) (quote_not_mem isMark (by decide))]
  simp [notInPath, notOperator]

theorem evaluate_equal (isVariable : isVariablePath path) (isMark : Pipeline.isQuote quote)
    (noOperator : ¬['!', '='] <:+: text) (data : Json) :
    evaluateExpression (comparison path .equal quote text) data =
      .ok (decide (Shows data path text)) := by
  have notCut : Text.cutFragment? ['!', '='] (comparison path .equal quote text) = none := by
    rw [Text.cutFragment?_eq_none_iff, operator_in_quotes isVariable isMark]
    exact noOperator
  have cut := cutFragment?_comparison isVariable .equal quote text
  rw [Operator.text] at cut
  rw [evaluateExpression, notCut, cut]
  exact compare_quoted isVariable isMark data

/-- The part before an operator within the quotes is no path. -/
theorem evaluate_operator_in_quotes (isVariable : isVariablePath path)
    (isMark : Pipeline.isQuote quote) (operator : ['!', '='] <:+: text) (data : Json) :
    ∃ fault, evaluateExpression (comparison path .equal quote text) data = .error fault := by
  have occurs := (operator_in_quotes isVariable isMark).mpr operator
  cases cut : Text.cutFragment? ['!', '='] (comparison path .equal quote text) with
  | none => exact absurd occurs (Text.cutFragment?_eq_none_iff.mp cut)
  | some parts =>
      rcases parts with ⟨before, after⟩
      rcases (Text.cutFragment?_eq_some_iff (by decide)).mp cut with ⟨split, -⟩
      have notInPath : '!' ∉ path := not_mem_variablePath isVariable (by decide) (by decide)
      -- What was meant as the operator comes before the one that is found.
      have isStart : path ++ [' ', '='] <+: before ++ '!' :: ('=' :: after) := by
        refine ⟨'=' :: ' ' :: quote :: (text ++ [quote]), Eq.trans ?_ split⟩
        simp [comparison, Operator.text]
      have shorter := Text.prefix_of_prefix_append_cons isStart (by simp [notInPath])
      have isMember : '=' ∈ before := shorter.subset (by simp)
      rcases variablePath_of_mem isMember (by decide) (by decide) (by decide) with ⟨fault, invalid⟩
      refine ⟨fault, ?_⟩
      rw [evaluateExpression, cut]
      simp only [compare, invalid]
      rfl

/-- A path compared with a quoted text by its shown value. The difference is always found, and the
equality unless the text holds the operator `!=`: then it never holds, and neither of the two does
if the value is shown as the text. -/
theorem quoted_texts_are_compared (isVariable : isVariablePath path)
    (isMark : Pipeline.isQuote quote) (oneLine : '\n' ∉ text)
    (notClosed : ¬['\x7d', '\x7d'] <:+: text) (data : Json) :
    (holds (comparing path .equal quote text) data ↔
      ¬['!', '='] <:+: text ∧ Shows data path text) ∧
    (holds (comparing path .different quote text) data ↔ ¬Shows data path text) ∧
    (Xor (holds (comparing path .equal quote text) data)
        (holds (comparing path .different quote text) data) ↔
      (['!', '='] <:+: text → ¬Shows data path text)) := by
  have equal : holds (comparing path .equal quote text) data ↔
      ¬['!', '='] <:+: text ∧ Shows data path text := by
    rw [holds_comparing isVariable _ isMark oneLine notClosed]
    rcases Decidable.em (['!', '='] <:+: text) with operator | noOperator
    · rcases evaluate_operator_in_quotes isVariable isMark operator data with ⟨fault, faulty⟩
      simp [faulty, operator]
    · simp [evaluate_equal isVariable isMark noOperator, noOperator]
  have different : holds (comparing path .different quote text) data ↔ ¬Shows data path text := by
    rw [holds_comparing isVariable _ isMark oneLine notClosed, evaluate_different isVariable isMark]
    simp
  refine ⟨equal, different, ?_⟩
  rw [equal, different, xor_iff_or_and_not_and]
  rcases Decidable.em (Shows data path text) with shown | notShown <;>
    rcases Decidable.em (['!', '='] <:+: text) with operator | noOperator
  all_goals simp [*]

end

def Sample.named (name : String) : Json := .object [("name", .text name)]

theorem quoted_name_is_compared :
    isVariablePath "name".toList ∧ Pipeline.isQuote '\'' ∧ '\n' ∉ "L'== \x7bA\x7d ".toList ∧
    ¬['\x7d', '\x7d'] <:+: "L'== \x7bA\x7d ".toList ∧
    holds (comparing "name".toList .equal '\'' "L'== \x7bA\x7d ".toList)
      (Sample.named "L'== \x7bA\x7d ") ∧
    ¬holds (comparing "name".toList .different '\'' "L'== \x7bA\x7d ".toList)
      (Sample.named "L'== \x7bA\x7d ") := by
  have isVariable : isVariablePath "name".toList := by decide +kernel
  have shown : Shows (Sample.named "L'== \x7bA\x7d ") "name".toList "L'== \x7bA\x7d ".toList := by
    decide +kernel
  have isMark : Pipeline.isQuote '\'' := by decide
  have oneLine : '\n' ∉ "L'== \x7bA\x7d ".toList := by decide +kernel
  have notClosed : ¬['\x7d', '\x7d'] <:+: "L'== \x7bA\x7d ".toList := by decide +kernel
  rcases quoted_texts_are_compared isVariable isMark oneLine notClosed
    (Sample.named "L'== \x7bA\x7d ") with ⟨equal, different, -⟩
  exact ⟨isVariable, isMark, oneLine, notClosed, equal.mpr ⟨by decide +kernel, shown⟩,
    fun holds => different.mp holds shown⟩

/-- Neither comparison holds if the operator `!=` is part of the text that is shown. -/
theorem operator_in_quotes_is_not_compared :
    isVariablePath "name".toList ∧ Shows (Sample.named "a!=b") "name".toList "a!=b".toList ∧
    comparing "name".toList .equal '\'' "a!=b".toList = "\x7b\x7bname == 'a!=b'\x7d\x7d" ∧
    holds "\x7b\x7bname == 'a!=b'\x7d\x7d" (Sample.named "a!=b") = false ∧
    holds "\x7b\x7bname != 'a!=b'\x7d\x7d" (Sample.named "a!=b") = false := by
  refine ⟨?_, ?_, ?_, ?_, ?_⟩ <;> decide +kernel

end Ussd.Condition
