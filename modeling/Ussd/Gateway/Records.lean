import Ussd.Gateway.Basic
/-!
# Records of a gateway

What services keep for subscribers beyond the end of a session.
-/

namespace Ussd

variable {β : Type}

def loadRecord (setting : Setting) (key : RecordKey) : Run β Fault (Option Json) := do
  requireOrder setting .loadRecord
  let value := RecordStore.get? (← get).records key
  note (.recordLoaded key.serviceCode key.name value.isSome)
  return value

def saveRecord (setting : Setting) (key : RecordKey) (value : Json) : Run β Fault Unit := do
  note (.recordSaved key.serviceCode key.name)
  requireOrder setting .saveRecord
  modify fun gateway => { gateway with records := RecordStore.put gateway.records key value }

def extendRecord (setting : Setting) (key : RecordKey) (item : Json) : Run β Fault Unit := do
  note (.recordExtended key.serviceCode key.name)
  requireOrder setting .appendRecord
  modify fun gateway => { gateway with records := RecordStore.append gateway.records key item }

def deleteRecord (setting : Setting) (key : RecordKey) : Run β Fault Unit := do
  note (.recordDeleted key.serviceCode key.name)
  requireOrder setting .deleteRecord
  modify fun gateway => { gateway with records := RecordStore.remove gateway.records key }

end Ussd
