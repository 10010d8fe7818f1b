import Ussd.Decimal.Binary64
/-!
# Decimals with a fixed number of places

The exact binary value is rounded once, to the nearest decimal with the requested number of places;
a half goes to the even neighbour.
-/

namespace Ussd.Binary64

def fixedDigits (numerator denominator places : Nat) : List Char × List Char :=
  let scaled := roundQuotient (numerator * Nat.pow 10 places) denominator
  let unit := Nat.pow 10 places
  let fraction := if places = 0 then [] else Nat.toDigits 10 (scaled % unit)
  (Nat.toDigits 10 (scaled / unit),
    List.replicate (places - fraction.length) '0' ++ fraction)

/-- The magnitude of a double with a fixed number of places: whole digits and fraction digits. The
values that are not finite have a word in place of whole digits. -/
def fixedMagnitude (places : Nat) : Binary64 → List Char × List Char
  | .nan => ("NaN".toList, [])
  | .infinite _ => ("inf".toList, [])
  | .finite _ mantissa exponent =>
    let parts := fraction mantissa exponent
    fixedDigits parts.1 parts.2 places

example : fixedMagnitude 2 (ofDecimal false 125 (-3)) = (['0'], ['1', '2']) := by decide +kernel

end Ussd.Binary64
