import Ussd.Service.State
/-!
# Choosing an option

Which transition a subscriber's input selects. Blanks around labels and inputs never count.
-/

namespace Ussd

/-- Whether an input selects the option with a label: the input is the whole label, or the label
begins with the input and a point, or it ends with the input after a space. -/
def labelMatches (label input : List Char) : Bool :=
  let label := Text.trim label
  let input := Text.trim input
  !label.isEmpty && !input.isEmpty &&
    (label == input || Text.startsWith (input ++ ['.']) label || Text.endsWith (' ' :: input) label)

example : labelMatches "1. Solde".toList ['1'] = true ∧
    labelMatches "10. Retour".toList ['1'] = false := by
  decide +kernel

def choose? (transitions : List Transition) (input : String) : Option Transition :=
  transitions.find? fun transition =>
    transition.input.any fun label => labelMatches label.toList input.toList

end Ussd
