import Ussd.Message.Expression
import Ussd.Message.Tree
/-!
# Rendering message templates

A template and the data together unfold into a flat list of pieces: texts, expressions in the scopes
in which they stand, and the tests that chose between branches. The message is the text of the
pieces in order. A template that is not well formed is shown as it stands.
-/

namespace Ussd.Message

inductive Piece where
  | text (characters : List Char)
  | shown (scopes : List Scope) (expression : List Char)
  | tested (scopes : List Scope) (expression : List Char)

def itemsOf : Json → List (Option String × Json)
  | .list items => items.map fun item => (none, item)
  | .object fields => fields.map fun field => (some field.1, field.2)
  | _ => []

/-- The scopes in which the body of an `each` is shown, one for each item. -/
def itemScopes (items : List (Option String × Json)) : List Scope :=
  items.zipIdx.map fun (item, index) =>
    { this := item.2, index := some index, length := items.length, key := item.1 }

mutual

def Part.unfold (scopes : List Scope) : Part → List Piece
  | .text characters => [.text characters]
  | .expression inside => [.shown scopes inside]
  | .block kind argument body otherwise =>
    match kind with
    | .ifTrue =>
      .tested scopes argument ::
        (if isTruthy (evaluate scopes argument) then unfoldParts scopes body
          else unfoldParts scopes otherwise)
    | .unless =>
      .tested scopes argument ::
        (if isTruthy (evaluate scopes argument) then unfoldParts scopes otherwise
          else unfoldParts scopes body)
    | .each =>
      match itemsOf ((resolvePath? scopes argument).getD .null) with
      | [] => unfoldParts scopes otherwise
      | items => (itemScopes items).flatMap fun scope => unfoldParts (scope :: scopes) body
    | .with =>
      match resolvePath? scopes argument with
      | none => unfoldParts scopes otherwise
      | some .null => unfoldParts scopes otherwise
      | some target => unfoldParts (Scope.root target :: scopes) body

def unfoldParts (scopes : List Scope) : List Part → List Piece
  | [] => []
  | part :: rest => part.unfold scopes ++ unfoldParts scopes rest

end

def Piece.characters : Piece → List Char
  | .text characters => characters
  | .shown scopes expression => (evaluate scopes expression).display.toList
  | .tested _ _ => []

def pieces (template : List Char) (data : Json) : Except TemplateError (List Piece) :=
  match partsOf template with
  | .error error => .error error
  | .ok parts => .ok (unfoldParts [Scope.root data] parts)

def renderChars (template : List Char) (data : Json) : List Char :=
  match pieces template data with
  | .error _ => template
  | .ok pieces => pieces.flatMap Piece.characters

def render (template : String) (data : Json) : String :=
  String.ofList (renderChars template.toList data)

/-- A blank before the tilde is dropped, and an expression without a value shows nothing. -/
example : render "Solde \x7b\x7b~ balance \x7d\x7d F\x7b\x7bnote\x7d\x7d"
    (.object [("balance", .number (.whole 1500))]) = "Solde1500 F" := by
  decide +kernel

/-! ## What goes wrong on the way -/

def unknownFiltersOf (expression : List Char) : List String :=
  match Pipeline.split expression with
  | _ :: filters => Pipeline.unknownFilters filters
  | [] => []

def Piece.unknownFilters : Piece → List String
  | .text _ => []
  | .shown _ expression => unknownFiltersOf expression
  | .tested _ expression => unknownFiltersOf expression

def renderFaults (template : String) (data : Json) : Except TemplateError (List String) :=
  (pieces template.toList data).map fun pieces => pieces.flatMap Piece.unknownFilters

end Ussd.Message
