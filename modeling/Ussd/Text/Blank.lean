/-!
# Blanks

The white space of the Unicode standard, trimming, and the words that white space separates.
-/

namespace Ussd.Text

/-- The code points with the property `White_Space`. -/
def isBlank (c : Char) : Bool :=
  let code := c.toNat
  (9 ≤ code && code ≤ 13) || code == 0x20 || code == 0x85 || code == 0xA0 || code == 0x1680
    || (0x2000 ≤ code && code ≤ 0x200A) || code == 0x2028 || code == 0x2029 || code == 0x202F
    || code == 0x205F || code == 0x3000

def trimStart (text : List Char) : List Char := text.dropWhile isBlank

def trimEnd (text : List Char) : List Char := (text.reverse.dropWhile isBlank).reverse

def trim (text : List Char) : List Char := trimEnd (trimStart text)

theorem dropBlanks_idempotent (text : List Char) :
    (text.dropWhile isBlank).dropWhile isBlank = text.dropWhile isBlank := by
  induction text with
  | nil => rfl
  | cons c rest induction =>
    cases blank : isBlank c with
    | true => rw [List.dropWhile_cons_of_pos blank, induction]
    | false => simp [blank]

theorem trimEnd_idempotent (text : List Char) : trimEnd (trimEnd text) = trimEnd text := by
  simp [trimEnd, dropBlanks_idempotent]

theorem trimEnd_cons {c : Char} (notBlank : isBlank c = false) (rest : List Char) :
    trimEnd (c :: rest) = c :: trimEnd rest := by
  rw [trimEnd, List.reverse_cons, List.dropWhile_append]
  split
  · rename_i empty
    rw [trimEnd, List.isEmpty_iff.mp empty]
    simp [notBlank]
  · rw [List.reverse_append]
    rfl

theorem trim_idempotent (text : List Char) : trim (trim text) = trim text := by
  have first := List.head?_dropWhile_not isBlank text
  unfold trim
  rw [← trimStart] at first
  cases start : trimStart text with
  | nil => rfl
  | cons c rest =>
    rw [start] at first
    have notBlank : isBlank c = false := first
    have kept : trimStart (c :: trimEnd rest) = c :: trimEnd rest :=
      List.dropWhile_cons_of_neg (by simp [notBlank])
    rw [trimEnd_cons notBlank, kept, trimEnd_cons notBlank, trimEnd_idempotent]

def isAllBlank (text : List Char) : Bool := text.all isBlank

/-- Collects the current word in reverse. -/
def wordsFrom (current : List Char) : List Char → List (List Char)
  | [] => if current.isEmpty then [] else [current.reverse]
  | c :: rest =>
    if isBlank c then
      if current.isEmpty then wordsFrom [] rest else current.reverse :: wordsFrom [] rest
    else wordsFrom (c :: current) rest

def words (text : List Char) : List (List Char) := wordsFrom [] text

end Ussd.Text

namespace Ussd

def trimmed (text : String) : String := String.ofList (Text.trim text.toList)

theorem toList_trimmed (text : String) : (trimmed text).toList = Text.trim text.toList :=
  String.toList_ofList

theorem trimmed_idempotent (text : String) : trimmed (trimmed text) = trimmed text := by
  rw [trimmed, toList_trimmed, Text.trim_idempotent]
  rfl

def isAllBlank (text : String) : Bool := Text.isAllBlank text.toList

end Ussd
