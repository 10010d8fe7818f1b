/-!
# Tables with text keys

A table is a list of entries whose keys increase (in the order of their code points), so that one
table has one representation and its entries are listed in one order. `insert` keeps that order;
`Table.get?_insert_same` and `Table.get?_insert_other` say what it does to look-ups.
-/

namespace Ussd

abbrev Table (α : Type) := List (String × α)

namespace Table

variable {α : Type}

def get? (table : Table α) (key : String) : Option α :=
  match table with
  | [] => none
  | (known, value) :: rest => if known = key then some value else get? rest key

/-- Sets an entry, replacing the one of that key; a new one goes to its place in the order. -/
def insert (table : Table α) (key : String) (value : α) : Table α :=
  match table with
  | [] => [(key, value)]
  | (known, old) :: rest =>
    if known = key then (known, value) :: rest
    else if key < known then (key, value) :: (known, old) :: rest
    else (known, old) :: insert rest key value

def erase (table : Table α) (key : String) : Table α :=
  match table with
  | [] => []
  | (known, value) :: rest => if known = key then rest else (known, value) :: erase rest key

/-- Sets several entries in turn; of two with one key the last one stays. -/
def merge (table : Table α) (entries : List (String × α)) : Table α :=
  entries.foldl (fun known entry => insert known entry.1 entry.2) table

def ofList (entries : List (String × α)) : Table α := merge [] entries

def keys (table : Table α) : List String := table.map Prod.fst

def values (table : Table α) : List α := table.map Prod.snd

@[simp] theorem get?_nil (key : String) : get? ([] : Table α) key = none := rfl

theorem get?_insert_same (table : Table α) (key : String) (value : α) :
    (table.insert key value).get? key = some value := by
  induction table with
  | nil => simp [insert, get?]
  | cons head tail induction =>
    obtain ⟨known, old⟩ := head
    by_cases equal : known = key
    · simp [insert, get?, equal]
    · by_cases less : key < known <;> simp [insert, get?, equal, less, induction]

theorem get?_insert_other (table : Table α) (key other : String) (value : α)
    (different : other ≠ key) :
    (table.insert key value).get? other = table.get? other := by
  have swapped : key ≠ other := Ne.symm different
  induction table with
  | nil => simp [insert, get?, swapped]
  | cons head tail induction =>
    obtain ⟨known, old⟩ := head
    by_cases equal : known = key
    · subst known
      simp [insert, get?, swapped]
    · by_cases less : key < known <;> simp [insert, get?, equal, less, swapped, induction]

end Table

end Ussd
