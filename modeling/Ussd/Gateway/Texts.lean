import Ussd.Gateway.Basic
import Ussd.Validation.Check
/-!
# Texts of a gateway

Rendering templates, testing conditions and checking inputs, with what is odd about them reported in
the log.
-/

namespace Ussd

variable {β ε : Type}

def showMessage (template : String) (data : Json) : Run β ε String := do
  noteAll (match Message.renderFaults template data with
    | .error error => [.templateMalformed error]
    | .ok names => names.map .unknownFilter)
  return Message.render template data

def fillTemplate (template : String) (data : Json) : Run β ε String := do
  noteAll ((Placeholder.unknownFilters template).map .unknownFilter)
  return Placeholder.render template data

def fillValue (template : Json) (data : Json) : Run β ε Json := do
  noteAll ((Placeholder.unknownFiltersIn template).map .unknownFilter)
  return Placeholder.renderValue data template

def testCondition (condition : String) (data : Json) : Run β ε Bool := do
  let verdict := Condition.judge condition data
  noteAll (match verdict with
    | .unbraced => [.conditionUnbraced condition]
    | .faulty fault => [.conditionFaulty condition fault]
    | _ => [])
  return verdict.holds

def checkInput (input : String) (rule : ValidationRule) :
    Run β ε (Except Validation.Refusal Unit) := do
  noteAll ((Validation.ignoredPattern? input rule).toList.map fun ignored =>
    .patternIgnored ignored.1 ignored.2)
  return Validation.checkRule input rule

end Ussd
