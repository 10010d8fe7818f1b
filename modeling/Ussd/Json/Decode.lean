import Ussd.Json.Node
import Ussd.Text.Numeral
/-!
# Giving a document a type

Decoders for scalars, lists, tables and structures. A structure is an object whose unknown fields
are ignored and whose known fields occur at most once, or a list of its fields in order, which may
stop early where the remaining fields have defaults.
-/

namespace Ussd

abbrev Decoder (α : Type) := Node → Except Refusal α

namespace Decoder

variable {α : Type}

def refusalOf : Node → Refusal
  | .unread => .malformed
  | .malformed => .malformed
  | _ => .unfit

def text : Decoder String
  | .text value => .ok value
  | .plain scalar => .ok scalar.source
  | node => .error (refusalOf node)

/-- The value that an unquoted scalar stands for, or the document itself. -/
def meaning : Node → Node
  | .plain scalar => Node.ofUnquoted scalar
  | node => node

def bool : Decoder Bool := fun node =>
  match meaning node with
  | .bool value => .ok value
  | node => .error (refusalOf node)

/-- A whole number between two bounds; doubles are refused even if they are integral. -/
def whole (least greatest : Int) : Decoder Int := fun node =>
  match meaning node with
  | .number (.whole value) =>
    if least ≤ value ∧ value ≤ greatest then .ok value else .error .unfit
  | node => .error (refusalOf node)

def natural (greatest : Nat) : Decoder Nat := fun node =>
  (whole 0 greatest node).map Int.toNat

def word : Decoder Nat := natural Text.greatestWord

def double : Decoder Binary64
  | .number value => .ok value.toDouble
  | .plain scalar =>
    match scalar.double with
    | some value => .ok value
    | none => .error .unfit
  | node => .error (refusalOf node)

/-- Whether nothing was written at all: this counts as an empty list, table or structure. -/
def isNothing : Node → Bool
  | .plain scalar => scalar.source.isEmpty
  | _ => false

def json : Decoder Json := Node.toJson

def optional (decode : Decoder α) : Decoder (Option α) := fun node =>
  match meaning node with
  | .null => .ok none
  | _ => (decode node).map some

def items (decode : Decoder α) : List Node → Except Refusal (List α)
  | [] => .ok []
  | item :: rest =>
    match decode item with
    | .error refusal => .error refusal
    | .ok value => (items decode rest).map (value :: ·)

def list (decode : Decoder α) : Decoder (List α)
  | .list nodes => items decode nodes
  | node => if isNothing node then .ok [] else .error (refusalOf node)

def entries (decode : Decoder α) : List (Option String × Node) → Except Refusal (List (String × α))
  | [] => .ok []
  | (none, _) :: _ => .error .malformed
  | (some name, item) :: rest =>
    match decode item with
    | .error refusal => .error refusal
    | .ok value => (entries decode rest).map ((name, value) :: ·)

/-- A table; of two entries with one key the last one stays. -/
def table (decode : Decoder α) : Decoder (Table α)
  | .map nodes => (entries decode nodes).map Table.ofList
  | node => if isNothing node then .ok [] else .error (refusalOf node)

/-- A name out of a fixed choice, alone or as the only field of an object whose value is null. -/
def choice (select : String → Option α) : Decoder α := fun node =>
  let named (name : String) : Except Refusal α :=
    match select name with
    | some value => .ok value
    | none => .error .unfit
  match node with
  | .text name => named name
  | .plain scalar => named scalar.source
  | .map [(some name, .null)] => named name
  | node => .error (refusalOf node)

end Decoder

/-! ## Structures -/

inductive Slot where
  | given (node : Node)
  | absent
  /-- The list of fields ends before this one. -/
  | beyond

structure Record where
  slots : List (String × Slot)

namespace Record

variable {α : Type}

def slot (record : Record) (name : String) : Slot :=
  match record.slots.find? (·.1 == name) with
  | some entry => entry.2
  | none => .absent

/-- The known fields among the entries of an object; a repeated one is refused. -/
def collect (names : List String) : List (Option String × Node) → List (String × Slot) →
    Except Refusal (List (String × Slot))
  | [], found => .ok found
  | (none, _) :: _, _ => .error .malformed
  | (some name, node) :: rest, found =>
    if names.contains name then
      if found.any (·.1 == name) then .error .unfit
      else collect names rest ((name, .given node) :: found)
    else collect names rest found

def align : List String → List Node → Except Refusal (List (String × Slot))
  | [], [] => .ok []
  | [], _ :: _ => .error .unfit
  | name :: names, [] => (align names []).map ((name, .beyond) :: ·)
  | name :: names, node :: nodes => (align names nodes).map ((name, .given node) :: ·)

def ofNode (names : List String) : Decoder Record
  | .map entries => (collect names entries []).map Record.mk
  | .list nodes => (align names nodes).map Record.mk
  | node => if Decoder.isNothing node then .ok { slots := [] } else .error (Decoder.refusalOf node)

def required (record : Record) (name : String) (decode : Decoder α) : Except Refusal α :=
  match record.slot name with
  | .given node => decode node
  | _ => .error .unfit

def optional (record : Record) (name : String) (decode : Decoder α) : Except Refusal (Option α) :=
  match record.slot name with
  | .given node => Decoder.optional decode node
  | .absent => .ok none
  | .beyond => .error .unfit

def defaulted (record : Record) (name : String) (default : α) (decode : Decoder α) :
    Except Refusal α :=
  match record.slot name with
  | .given node => decode node
  | _ => .ok default

/-- A field that may be null or left out, also of a list of fields. -/
def voluntary (record : Record) (name : String) (decode : Decoder α) : Except Refusal (Option α) :=
  record.defaulted name none (Decoder.optional decode)

end Record

/-! ## Writing structures -/

def fieldIfSome (name : String) (value : Option Json) : List (String × Json) :=
  match value with
  | some value => [(name, value)]
  | none => []

def textTable (table : Table String) : Json :=
  .object (table.map fun entry => (entry.1, .text entry.2))

end Ussd
