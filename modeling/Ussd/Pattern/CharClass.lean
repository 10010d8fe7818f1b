import Ussd.Pattern.Fault
import Ussd.Text.Blank
import Ussd.Text.CategoryTable
import Ussd.Text.Word
/-!
# Classes of characters

The classes that patterns are built from. Folding a class adds every character that differs from a
member in case alone.
-/

namespace Ussd.Pattern

inductive CharClass where
  | range (first last : Nat)
  | strided (entries : Text.CharRuns)
  | spans (entries : List (Nat × Nat))
  | blank
  | word
  | digit
  | union (left right : CharClass)
  | inter (left right : CharClass)
  | negate (inner : CharClass)
  | fold (inner : CharClass)
  deriving Inhabited

def foldCode (code : Nat) : Nat := (Text.foldRuns.findSome? (·.image? code)).getD code

def preimage? (run : Text.CaseRun) (image : Nat) : Option Nat :=
  let code := (image : Int) - run.offset
  if 0 ≤ code ∧ run.image? code.toNat = some image then some code.toNat else none

/-- The code points that differ from one in case alone, that one included. -/
def caseOrbit (code : Nat) : List Nat :=
  let image := foldCode code
  image :: Text.foldRuns.filterMap fun run => preimage? run image

def inRuns (runs : Text.CharRuns) (code : Nat) : Bool :=
  runs.any fun (first, last, stride) =>
    decide (first ≤ code) && decide (code ≤ last) && (code - first) % stride == 0

namespace CharClass

def containsCode : CharClass → Nat → Bool
  | .range first last, code => decide (first ≤ code) && decide (code ≤ last)
  | .strided entries, code => inRuns entries code
  | .spans entries, code => Text.inRanges entries code
  | .blank, code => Text.isBlank (Char.ofNat code)
  | .word, code => Text.isWordChar (Char.ofNat code)
  | .digit, code => Text.isAnyDigit (Char.ofNat code)
  | .union left right, code => left.containsCode code || right.containsCode code
  | .inter left right, code => left.containsCode code && right.containsCode code
  | .negate inner, code => !inner.containsCode code
  | .fold inner, code => (caseOrbit code).any inner.containsCode

def contains (charClass : CharClass) (c : Char) : Bool := charClass.containsCode c.toNat

def single (c : Char) : CharClass := .range c.toNat c.toNat

def nothing : CharClass := .spans []

def ofList (classes : List CharClass) : CharClass := classes.foldr .union nothing

def difference (left right : CharClass) : CharClass := .inter left (.negate right)

def symmetricDifference (left right : CharClass) : CharClass :=
  .union (difference left right) (difference right left)

def asciiNamed? (name : String) : Option CharClass :=
  let lower : CharClass := .range 0x61 0x7A
  let upper : CharClass := .range 0x41 0x5A
  let digits : CharClass := .range 0x30 0x39
  match name with
  | "alnum" => some (ofList [digits, upper, lower])
  | "alpha" => some (.union upper lower)
  | "ascii" => some (.range 0 0x7F)
  | "blank" => some (.spans [(9, 9), (0x20, 0x20)])
  | "cntrl" => some (.spans [(0, 0x1F), (0x7F, 0x7F)])
  | "digit" => some digits
  | "graph" => some (.range 0x21 0x7E)
  | "lower" => some lower
  | "print" => some (.range 0x20 0x7E)
  | "punct" => some (.spans [(0x21, 0x2F), (0x3A, 0x40), (0x5B, 0x60), (0x7B, 0x7E)])
  | "space" => some (.spans [(9, 13), (0x20, 0x20)])
  | "upper" => some upper
  | "word" => some (ofList [digits, upper, lower, .range 0x5F 0x5F])
  | "xdigit" => some (.spans [(0x30, 0x39), (0x41, 0x46), (0x61, 0x66)])
  | _ => none

/-- A general category by its short or long name, with case, blanks and underscores left out. -/
def categoryRuns? (name : String) : Option (List Text.CharRuns) :=
  let letters := [Text.uppercaseLetterRuns, Text.lowercaseLetterRuns, Text.titlecaseLetterRuns]
  match name with
  | "lu" | "uppercaseletter" => some [Text.uppercaseLetterRuns]
  | "ll" | "lowercaseletter" => some [Text.lowercaseLetterRuns]
  | "lt" | "titlecaseletter" => some [Text.titlecaseLetterRuns]
  | "lc" | "casedletter" => some letters
  | "lm" | "modifierletter" => some [Text.modifierLetterRuns]
  | "lo" | "otherletter" => some [Text.otherLetterRuns]
  | "l" | "letter" => some (letters ++ [Text.modifierLetterRuns, Text.otherLetterRuns])
  | "mn" | "nonspacingmark" => some [Text.nonspacingMarkRuns]
  | "mc" | "spacingmark" => some [Text.spacingMarkRuns]
  | "me" | "enclosingmark" => some [Text.enclosingMarkRuns]
  | "m" | "mark" | "combiningmark" =>
    some [Text.nonspacingMarkRuns, Text.spacingMarkRuns, Text.enclosingMarkRuns]
  | "nd" | "decimalnumber" | "digit" => some [Text.decimalNumberRuns]
  | "nl" | "letternumber" => some [Text.letterNumberRuns]
  | "no" | "othernumber" => some [Text.otherNumberRuns]
  | "n" | "number" =>
    some [Text.decimalNumberRuns, Text.letterNumberRuns, Text.otherNumberRuns]
  | "pc" | "connectorpunctuation" => some [Text.connectorPunctuationRuns]
  | "pd" | "dashpunctuation" => some [Text.dashPunctuationRuns]
  | "ps" | "openpunctuation" => some [Text.openPunctuationRuns]
  | "pe" | "closepunctuation" => some [Text.closePunctuationRuns]
  | "pi" | "initialpunctuation" => some [Text.initialPunctuationRuns]
  | "pf" | "finalpunctuation" => some [Text.finalPunctuationRuns]
  | "po" | "otherpunctuation" => some [Text.otherPunctuationRuns]
  | "p" | "punctuation" | "punct" =>
    some [Text.connectorPunctuationRuns, Text.dashPunctuationRuns, Text.openPunctuationRuns,
      Text.closePunctuationRuns, Text.initialPunctuationRuns, Text.finalPunctuationRuns,
      Text.otherPunctuationRuns]
  | "sm" | "mathsymbol" => some [Text.mathSymbolRuns]
  | "sc" | "currencysymbol" => some [Text.currencySymbolRuns]
  | "sk" | "modifiersymbol" => some [Text.modifierSymbolRuns]
  | "so" | "othersymbol" => some [Text.otherSymbolRuns]
  | "s" | "symbol" =>
    some [Text.mathSymbolRuns, Text.currencySymbolRuns, Text.modifierSymbolRuns,
      Text.otherSymbolRuns]
  | "zs" | "spaceseparator" => some [Text.spaceSeparatorRuns]
  | "zl" | "lineseparator" => some [Text.lineSeparatorRuns]
  | "zp" | "paragraphseparator" => some [Text.paragraphSeparatorRuns]
  | "z" | "separator" =>
    some [Text.spaceSeparatorRuns, Text.lineSeparatorRuns, Text.paragraphSeparatorRuns]
  | "cc" | "control" | "cntrl" => some [Text.controlRuns]
  | "cf" | "format" => some [Text.formatRuns]
  | "co" | "privateuse" => some [Text.privateUseRuns]
  | _ => none

def scriptRuns? (name : String) : Option Text.CharRuns :=
  match name with
  | "latin" | "latn" => some Text.scriptLatinRuns
  | "greek" | "grek" => some Text.scriptGreekRuns
  | "cyrillic" | "cyrl" => some Text.scriptCyrillicRuns
  | "arabic" | "arab" => some Text.scriptArabicRuns
  | "hebrew" | "hebr" => some Text.scriptHebrewRuns
  | "han" | "hani" => some Text.scriptHanRuns
  | "hiragana" | "hira" => some Text.scriptHiraganaRuns
  | "katakana" | "kana" => some Text.scriptKatakanaRuns
  | _ => none

/-- The name of a property or of a value as it is compared: lower case, without blanks, hyphens and
underscores, and without `is` at the beginning. -/
def looseName (name : List Char) : String :=
  let lower := name.map Char.toLower
  let kept (text : List Char) : List Char :=
    text.filter fun c => c.toNat < 128 && !(c == ' ' || c == '-' || c == '_')
  match Text.afterStart? ['i', 's'] lower with
  | some rest => if kept rest = ['c'] then "isc" else String.ofList (kept rest)
  | none => String.ofList (kept lower)

def ofRunLists (lists : List Text.CharRuns) : CharClass := ofList (lists.map .strided)

/-- The letters that are upper case without being in the category. -/
def otherUppercase : CharClass :=
  .spans [(0x2160, 0x216F), (0x24B6, 0x24CF), (0x1F130, 0x1F149), (0x1F150, 0x1F169),
    (0x1F170, 0x1F189)]

def uppercase : CharClass := .union (.strided Text.uppercaseLetterRuns) otherUppercase

def lowercase : CharClass :=
  difference (.spans Text.casedRanges) (.union uppercase (.strided Text.titlecaseLetterRuns))

def assigned : CharClass :=
  ofRunLists (["l", "m", "n", "p", "s", "z", "cc", "cf", "co"].flatMap fun name =>
    (categoryRuns? name).getD [])

def category? (loose : String) : Option CharClass :=
  match loose with
  | "any" => some (.range 0 0x10FFFF)
  | "ascii" => some (.range 0 0x7F)
  | "assigned" => some assigned
  | "cn" | "unassigned" => some (.negate assigned)
  | "cs" | "surrogate" => some nothing
  | "c" | "other" =>
    some (.union (.negate assigned) (ofRunLists [Text.controlRuns, Text.formatRuns,
      Text.privateUseRuns]))
  | loose => (categoryRuns? loose).map ofRunLists

def binaryProperty? (loose : String) : Option CharClass :=
  match loose with
  | "alphabetic" | "alpha" =>
    some (.inter .word (.negate (ofList [.spans Text.digitRanges,
      ofRunLists [Text.connectorPunctuationRuns], .spans [(0x200C, 0x200D)]])))
  | "whitespace" | "wspace" | "space" => some .blank
  | "uppercase" | "upper" => some uppercase
  | "lowercase" | "lower" => some lowercase
  | "cased" => some (.spans Text.casedRanges)
  | "caseignorable" | "ci" => some (.spans Text.caseIgnorableRanges)
  | _ => none

def named? (name : List Char) : Except Cause CharClass :=
  let loose := looseName name
  match ((binaryProperty? loose).or (category? loose)).or ((scriptRuns? loose).map .strided) with
  | some members => .ok members
  | none => .error .propertyNotFound

def valued? (property value : List Char) : Except Cause CharClass :=
  let found : Option CharClass → Except Cause CharClass
    | some members => .ok members
    | none => .error .propertyValueNotFound
  match looseName property with
  | "generalcategory" | "gc" => found (category? (looseName value))
  | "script" | "sc" | "scriptextensions" | "scx" =>
    found ((scriptRuns? (looseName value)).map .strided)
  | _ => .error .propertyNotFound

end CharClass

end Ussd.Pattern
