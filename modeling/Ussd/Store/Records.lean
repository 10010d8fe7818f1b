import Ussd.Json.Basic
/-!
# The record store

Values that a service keeps for a subscriber beyond the end of a session. A record belongs to one
phone number and one service.
-/

namespace Ussd

structure RecordKey where
  phoneNumber : String
  serviceCode : String
  name : String
  deriving DecidableEq, Repr, Inhabited

abbrev RecordStore := List (RecordKey × Json)

namespace RecordStore

def get? (store : RecordStore) (key : RecordKey) : Option Json :=
  match store with
  | [] => none
  | (known, value) :: rest => if known = key then some value else get? rest key

def put (store : RecordStore) (key : RecordKey) (value : Json) : RecordStore :=
  match store with
  | [] => [(key, value)]
  | (known, old) :: rest =>
    if known = key then (known, value) :: rest else (known, old) :: put rest key value

def remove (store : RecordStore) (key : RecordKey) : RecordStore :=
  store.filter fun entry => entry.1 ≠ key

/-- A value with an item added at its end. Nothing counts as the empty list, and a value that is no
list as the list of that value. -/
def extended (value : Option Json) (item : Json) : Json :=
  match value with
  | none => .list [item]
  | some (.list items) => .list (items ++ [item])
  | some other => .list [other, item]

def append (store : RecordStore) (key : RecordKey) (item : Json) : RecordStore :=
  put store key (extended (get? store key) item)

theorem get?_put_same (store : RecordStore) (key : RecordKey) (value : Json) :
    get? (put store key value) key = some value := by
  induction store with
  | nil => simp [put, get?]
  | cons head tail induction =>
    obtain ⟨known, old⟩ := head
    by_cases equal : known = key <;> simp [put, get?, equal, induction]

theorem get?_put_other (store : RecordStore) (key other : RecordKey) (value : Json)
    (different : other ≠ key) : get? (put store key value) other = get? store other := by
  have swapped : key ≠ other := Ne.symm different
  induction store with
  | nil => simp [put, get?, swapped]
  | cons head tail induction =>
    obtain ⟨known, old⟩ := head
    by_cases equal : known = key
    · subst known
      simp [put, get?, swapped]
    · simp [put, get?, equal, induction]

end RecordStore

end Ussd
