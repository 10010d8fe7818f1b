import Ussd.Text.Case
import Ussd.Text.WordTable
/-!
# Word characters

Which characters count as part of a word, and which as decimal digits.
-/

namespace Ussd.Text

def isWordChar (c : Char) : Bool :=
  if c.toNat < 128 then c.isAlphanum || c == '_' else inRanges wordRanges c.toNat

def isAnyDigit (c : Char) : Bool :=
  if c.toNat < 128 then c.isDigit else inRanges digitRanges c.toNat

end Ussd.Text
