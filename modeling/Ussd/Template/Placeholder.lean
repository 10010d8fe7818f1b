import Ussd.Json.Path
import Ussd.Template.Pipeline
/-!
# Templates with placeholders

Addresses, headers, request bodies and storage values are templates whose placeholders, a pipeline
between double braces, are replaced by the text of a value. Rendering never fails: what is missing
becomes the empty text, and braces that form no placeholder stay. Inserted text is not scanned
again.
-/

namespace Ussd.Placeholder

inductive Segment where
  | literal (character : Char)
  | placeholder (inside : List Char)

def isBrace (c : Char) : Bool := c == '\x7b' || c == '\x7d'

def placeholderAt? (text : List Char) : Option (List Char × List Char) :=
  match text with
  | '\x7b' :: '\x7b' :: rest =>
    let inside := rest.takeWhile (!isBrace ·)
    if inside.isEmpty then none
    else
      match rest.dropWhile (!isBrace ·) with
      | '\x7d' :: '\x7d' :: after => some (inside, after)
      | _ => none
  | _ => none

theorem length_lt_of_placeholderAt? {text inside after : List Char}
    (found : placeholderAt? text = some (inside, after)) : after.length < text.length := by
  unfold placeholderAt? at found
  split at found
  · rename_i rest
    dsimp only at found
    split at found
    · cases found
    · split at found
      · rename_i tail dropped
        cases found
        have bound := (List.dropWhile_sublist (!isBrace ·) (l := rest)).length_le
        rw [dropped] at bound
        simp only [List.length_cons] at bound ⊢
        omega
      · cases found
  · cases found

/-- A template as literal characters and placeholders, leftmost placeholder first. -/
def segments (text : List Char) : List Segment :=
  match text with
  | [] => []
  | c :: rest =>
    match found : placeholderAt? (c :: rest) with
    | some (inside, after) =>
      have := length_lt_of_placeholderAt? found
      .placeholder inside :: segments after
    | none => .literal c :: segments rest
termination_by text.length
decreasing_by
  · exact this
  · simp

def evaluate (inside : List Char) (data : Json) : Json :=
  match Pipeline.split inside with
  | [] => .null
  | path :: filters => Pipeline.applySegments ((data.lookup path).getD .null) filters

def renderSegment (data : Json) : Segment → List Char
  | .literal c => [c]
  | .placeholder inside => (evaluate inside data).display.toList

def renderChars (template : List Char) (data : Json) : List Char :=
  (segments template).flatMap (renderSegment data)

def render (template : String) (data : Json) : String :=
  String.ofList (renderChars template.toList data)

def barePath? (text : List Char) : Option (List Char) := do
  let rest ← Text.afterStart? ['\x7b', '\x7b'] (Text.trim text)
  let inside ← Text.beforeEnd? ['\x7d', '\x7d'] rest
  if Text.containsFragment ['\x7b', '\x7b'] inside
      || Text.containsFragment ['\x7d', '\x7d'] inside || inside.contains '|' then none
  else some (Text.trim inside)

/-- A text leaf. A bare placeholder stands for the value itself, with its type. -/
def renderLeaf (text : String) (data : Json) : Json :=
  match (barePath? text.toList).bind data.lookup with
  | some value => value
  | none => .text (render text data)

mutual

def renderValue (data : Json) : Json → Json
  | .text value => renderLeaf value data
  | .list items => .list (renderItems data items)
  | .object fields => .object (renderFields data fields)
  | value => value

def renderItems (data : Json) : List Json → List Json
  | [] => []
  | item :: rest => renderValue data item :: renderItems data rest

def renderFields (data : Json) : List (String × Json) → List (String × Json)
  | [] => []
  | (name, value) :: rest => (name, renderValue data value) :: renderFields data rest

end

/-! ## Filters that do not exist -/

def unknownFilters (template : String) : List String :=
  (segments template.toList).flatMap fun segment =>
    match segment with
    | .literal _ => []
    | .placeholder inside => Pipeline.unknownFilters (Pipeline.split inside).tail

mutual

def unknownFiltersIn : Json → List String
  | .text value => unknownFilters value
  | .list items => unknownFiltersInItems items
  | .object fields => unknownFiltersInFields fields
  | _ => []

def unknownFiltersInItems : List Json → List String
  | [] => []
  | item :: rest => unknownFiltersIn item ++ unknownFiltersInItems rest

def unknownFiltersInFields : List (String × Json) → List String
  | [] => []
  | (_, value) :: rest => unknownFiltersIn value ++ unknownFiltersInFields rest

end

end Ussd.Placeholder
