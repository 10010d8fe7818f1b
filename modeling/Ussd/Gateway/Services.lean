import Ussd.Gateway.Basic
/-!
# Services of a gateway

A definition is read from the catalogue once and kept. Whether the service is active counts only
when it is read.
-/

namespace Ussd

variable {β ε : Type}

def registerDefinition (node : Node) : Run β Refusal Unit := do
  match Definition.decode node with
  | .error refusal => throw refusal
  | .ok definition =>
    noteAll ((Definition.unknownTypes node).map .unknownStateType)
    modify fun gateway => { gateway with catalogue := gateway.catalogue.register definition }

/-- Why the definition of a service cannot be loaded. -/
inductive LoadFault where
  | unknown (code : String)
  | disabled (code : String)
  | illegible (code definitionText : String)
  deriving DecidableEq, Repr

def LoadFault.fault (setting : Setting) : LoadFault → Fault
  | .unknown code => .of .serviceNotFound ("Service not found: " ++ code)
  | .disabled code => .of .inactiveService ("Service is disabled: " ++ code)
  | .illegible code definitionText =>
    .of .invalidDefinition
      ("Invalid definition for " ++ code ++ ": " ++ setting.readerDetail definitionText)

def readDefinition (setting : Setting) (record : ServiceRecord) : Run β Fault Definition := do
  match Definition.ofText? record.definitionText with
  | none => throw ((LoadFault.illegible record.code record.definitionText).fault setting)
  | some definition =>
    let document := Json.readDocument record.definitionText.toList
    noteAll ((Definition.unknownTypes document).map .unknownStateType)
    noteAll ((definition.issues setting.engine.maxMessageLength).map
      (.definitionIssue record.code))
    return definition

def loadDefinition (setting : Setting) (code : String) : Run β Fault Definition := do
  match Table.get? (← get).cache code with
  | some definition => return definition
  | none =>
    requireOrder setting .getService
    match Table.get? (← get).catalogue code with
    | none => throw ((LoadFault.unknown code).fault setting)
    | some record =>
      if !record.isActive then throw ((LoadFault.disabled code).fault setting)
      let definition ← readDefinition setting record
      modify fun gateway =>
        { gateway with cache := Table.insert gateway.cache record.code definition }
      note (.definitionCached code definition.states.length)
      return definition

def serviceByShortCode? (setting : Setting) (shortCode : String) :
    Run β Fault (Option ServiceRecord) := do
  requireOrder setting .findShortCode
  return ((← get).catalogue.byShortCode? shortCode).filter ServiceRecord.isActive

def activeServices (setting : Setting) : Run β Fault (List ServiceRecord) := do
  requireOrder setting .listServices
  return (← get).catalogue.active

def forgetDefinition (code : String) : Run β ε Unit :=
  modify fun gateway => { gateway with cache := Table.erase gateway.cache code }

def forgetDefinitions : Run β ε Unit := modify fun gateway => { gateway with cache := [] }

def startState? (definition : Definition) : Run β ε (Option State) := do
  let state := definition.initialState?
  if (definition.states.find? State.isInitial).isNone then
    noteAll (state.toList.map fun state => .noInitialState definition.serviceCode state.id)
  return state

end Ussd
