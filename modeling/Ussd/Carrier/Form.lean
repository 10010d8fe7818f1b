import Ussd.Gateway.Request
import Ussd.Json.Reader
/-!
# What a carrier sends

The body of a carrier's request. A body can be wrong in two ways, as JSON or as a request, and the
first fault in the order of the text decides which one is meant; so a body is inspected entry by
entry before it is decoded.
-/

namespace Ussd

structure CarrierForm where
  sessionId : Option String
  serviceCode : String
  phoneNumber : String
  /-- Absent or empty on first contact. -/
  text : Option String
  deriving DecidableEq, Repr, Inhabited

namespace CarrierForm

def fieldNames : List String := ["sessionId", "serviceCode", "phoneNumber", "text"]

def decode : Decoder CarrierForm := fun node => do
  let record ← Record.ofNode fieldNames node
  return {
    sessionId := ← record.voluntary "sessionId" Decoder.text
    serviceCode := ← record.required "serviceCode" Decoder.text
    phoneNumber := ← record.required "phoneNumber" Decoder.text
    text := ← record.voluntary "text" Decoder.text }

def blankField? (form : CarrierForm) : Option String :=
  if isAllBlank form.phoneNumber then some "phoneNumber"
  else if isAllBlank form.serviceCode then some "serviceCode"
  else none

def toRequest (form : CarrierForm) : CarrierRequest where
  sessionId := form.sessionId
  phoneNumber := trimmed form.phoneNumber
  dialled := form.serviceCode
  text := form.text.getD ""

/-! ## The first fault of a body -/

def decodeField (name : String) (node : Node) : Except Refusal Unit :=
  if name = "sessionId" ∨ name = "text" then
    (Decoder.optional Decoder.text node).map fun _ => ()
  else (Decoder.text node).map fun _ => ()

def inspectEntries (seen : List String) : List (Option String × Node) → Except Refusal Unit
  | [] => .ok ()
  | (none, _) :: _ => .error .malformed
  | (some name, node) :: rest =>
    if fieldNames.contains name then
      if seen.contains name then .error .unfit
      else
        match decodeField name node with
        | .error refusal => .error refusal
        | .ok () => inspectEntries (name :: seen) rest
    else inspectEntries seen rest

/-- Inspects the items of a list; what follows the last field is no part of a request any more. -/
def inspectItems : List String → List Node → Except Refusal Unit
  | [], _ :: _ => .error .malformed
  | name :: names, node :: nodes =>
    match decodeField name node with
    | .error refusal => .error refusal
    | .ok () => inspectItems names nodes
  | _, [] => .ok ()

def inspect : Node → Except Refusal Unit
  | .map entries => inspectEntries [] entries
  | .list items => inspectItems fieldNames items
  | _ => .ok ()

/-- Reads a body; what follows the request in it does not matter. -/
def ofText (body : String) : Except Refusal CarrierForm := do
  let node := (Json.readNode body.toList).1
  inspect node
  decode node

end CarrierForm

end Ussd
