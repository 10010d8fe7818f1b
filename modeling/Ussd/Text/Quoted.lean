import Ussd.Text.CategoryTable
/-!
# Texts between quotation marks

A text as it is shown between quotation marks where every character has to be seen: marks and
backslashes are written with a backslash, and a character that shows nothing of its own is written as
its code.
-/

namespace Ussd.Text

def visibleRuns : List CharRuns :=
  [uppercaseLetterRuns, lowercaseLetterRuns, titlecaseLetterRuns, modifierLetterRuns,
    otherLetterRuns, spacingMarkRuns, decimalNumberRuns, letterNumberRuns, otherNumberRuns,
    connectorPunctuationRuns, dashPunctuationRuns, openPunctuationRuns, closePunctuationRuns,
    initialPunctuationRuns, finalPunctuationRuns, otherPunctuationRuns, mathSymbolRuns,
    currencySymbolRuns, modifierSymbolRuns, otherSymbolRuns]

/-- Marks that take up space and yet only extend the character before them. -/
def extendingCodes : List (Nat × Nat) :=
  [(0x9BE, 0x9BE), (0x9D7, 0x9D7), (0xB3E, 0xB3E), (0xB57, 0xB57), (0xBBE, 0xBBE), (0xBD7, 0xBD7),
    (0xCC2, 0xCC2), (0xCD5, 0xCD6), (0xD3E, 0xD3E), (0xD57, 0xD57), (0xDCF, 0xDCF), (0xDDF, 0xDDF),
    (0x1B35, 0x1B35), (0x302E, 0x302F), (0xFF9E, 0xFF9F), (0x1133E, 0x1133E), (0x11357, 0x11357),
    (0x114B0, 0x114B0), (0x114BD, 0x114BD), (0x115AF, 0x115AF), (0x11930, 0x11930),
    (0x1D165, 0x1D165), (0x1D16E, 0x1D172)]

def isVisible (c : Char) : Bool :=
  let code := c.toNat
  if code < 128 then 0x20 ≤ code && code ≠ 0x7F
  else
    visibleRuns.any (fun runs => runs.any fun (first, last, stride) =>
        first ≤ code && code ≤ last && (code - first) % stride == 0)
      && !extendingCodes.any fun range => range.1 ≤ code && code ≤ range.2

def quotedChar (c : Char) : List Char :=
  match c with
  | '"' => ['\\', '"']
  | '\\' => ['\\', '\\']
  | '\n' => ['\\', 'n']
  | '\r' => ['\\', 'r']
  | '\t' => ['\\', 't']
  | '\x00' => ['\\', '0']
  | c =>
    if isVisible c then [c]
    else ['\\', 'u', '\x7b'] ++ Nat.toDigits 16 c.toNat ++ ['\x7d']

def quoted (text : List Char) : List Char := '"' :: text.flatMap quotedChar ++ ['"']

example : quoted "a\"\u00a0".toList = "\"a\\\"\\u\x7ba0\x7d\"".toList := by decide +kernel

end Ussd.Text
