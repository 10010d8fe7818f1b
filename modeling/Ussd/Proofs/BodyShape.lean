import Ussd.Backend.Request
import Ussd.Proofs.JsonDocument

/-! # The shape of request bodies

A template for a body is rendered leaf by leaf, so that texts in the data only show up in texts of
the body. A template that is a text itself is an exception: what has been rendered is read as JSON,
and texts in the data take part in that. -/

namespace Ussd

namespace Json

/-! ## Changing the leaves of a value -/

mutual

/-- Changes everything in a value but its lists and objects. -/
def mapLeaves (change : Json → Json) : Json → Json
  | .list items => .list (mapItems change items)
  | .object fields => .object (mapFields change fields)
  | leaf => change leaf

def mapItems (change : Json → Json) : List Json → List Json
  | [] => []
  | item :: rest => mapLeaves change item :: mapItems change rest

def mapFields (change : Json → Json) : List (String × Json) → List (String × Json)
  | [] => []
  | (name, value) :: rest => (name, mapLeaves change value) :: mapFields change rest

end

theorem mapFields_eq_map (change : Json → Json) (fields : List (String × Json)) :
    mapFields change fields = fields.map fun field => (field.1, mapLeaves change field.2) := by
  induction fields with
  | nil => rfl
  | cons field rest induction => rw [mapFields, List.map_cons, induction]

section Compose

variable (outer inner : Json → Json)

mutual

theorem mapLeaves_mapLeaves : ∀ value : Json,
    mapLeaves outer (mapLeaves inner value) = mapLeaves (fun leaf => mapLeaves outer (inner leaf)) value
  | .null => rfl
  | .bool _ => rfl
  | .number _ => rfl
  | .text _ => rfl
  | .list items => congrArg Json.list (mapItems_mapItems items)
  | .object fields => congrArg Json.object (mapFields_mapFields fields)

theorem mapItems_mapItems : ∀ items : List Json,
    mapItems outer (mapItems inner items) = mapItems (fun leaf => mapLeaves outer (inner leaf)) items
  | [] => rfl
  | item :: rest => by
      simp only [mapItems, mapLeaves_mapLeaves item, mapItems_mapItems rest]

theorem mapFields_mapFields : ∀ fields : List (String × Json),
    mapFields outer (mapFields inner fields) =
      mapFields (fun leaf => mapLeaves outer (inner leaf)) fields
  | [] => rfl
  | (name, value) :: rest => by
      simp only [mapFields, mapLeaves_mapLeaves value, mapFields_mapFields rest]

end

end Compose

/-- The value is neither a list nor an object. -/
def IsLeaf : Json → Prop
  | .list _ => False
  | .object _ => False
  | _ => True

mutual

theorem mapLeaves_congr {change other : Json → Json}
    (same : ∀ leaf, leaf.IsLeaf → change leaf = other leaf) :
    ∀ value : Json, mapLeaves change value = mapLeaves other value
  | .null => same .null trivial
  | .bool value => same (.bool value) trivial
  | .number value => same (.number value) trivial
  | .text value => same (.text value) trivial
  | .list items => congrArg Json.list (mapItems_congr same items)
  | .object fields => congrArg Json.object (mapFields_congr same fields)

theorem mapItems_congr {change other : Json → Json}
    (same : ∀ leaf, leaf.IsLeaf → change leaf = other leaf) :
    ∀ items : List Json, mapItems change items = mapItems other items
  | [] => rfl
  | item :: rest => by simp only [mapItems, mapLeaves_congr same item, mapItems_congr same rest]

theorem mapFields_congr {change other : Json → Json}
    (same : ∀ leaf, leaf.IsLeaf → change leaf = other leaf) :
    ∀ fields : List (String × Json), mapFields change fields = mapFields other fields
  | [] => rfl
  | (name, value) :: rest => by
      simp only [mapFields, mapLeaves_congr same value, mapFields_congr same rest]

end

/-! ## Shapes -/

/-- A leaf of the same type. -/
def leafShape : Json → Json
  | .bool _ => .bool false
  | .number _ => .natural 0
  | .text _ => .text ""
  | leaf => leaf

/-- The keys of objects, the lengths of lists and the types of leaves. -/
def shape : Json → Json := mapLeaves leafShape

def hideText : Json → Json
  | .text _ => .text ""
  | leaf => leaf

/-- The value without what its texts say. -/
def hideTexts : Json → Json := mapLeaves hideText

/-- The values are the same but for what their texts say. -/
def SameButTexts (left right : Json) : Prop := left.hideTexts = right.hideTexts

theorem shape_hideTexts (value : Json) : value.hideTexts.shape = value.shape := by
  rw [shape, hideTexts, mapLeaves_mapLeaves]
  refine mapLeaves_congr (fun leaf isLeaf => ?_) value
  cases leaf with
  | list items => exact isLeaf.elim
  | object fields => exact isLeaf.elim
  | null => rfl
  | bool value => rfl
  | number value => rfl
  | text value => rfl

theorem SameButTexts.shape_eq {left right : Json} (same : left.SameButTexts right) :
    left.shape = right.shape := by
  rw [← left.shape_hideTexts, same, right.shape_hideTexts]

theorem isSome_text?_hideTexts (value : Json) : value.hideTexts.text?.isSome = value.text?.isSome := by
  cases value <;> rfl

theorem SameButTexts.text?_eq_none_iff {left right : Json} (same : left.SameButTexts right) :
    left.text? = none ↔ right.text? = none := by
  rw [← Option.not_isSome_iff_eq_none, ← Option.not_isSome_iff_eq_none, ← isSome_text?_hideTexts,
    same, isSome_text?_hideTexts]

/-! ## Looking values up -/

theorem field?_hideTexts (data : Json) (name : String) :
    data.hideTexts.field? name = (data.field? name).map hideTexts := by
  cases data with
  | object fields =>
      have hidden : (Json.object fields).hideTexts =
          .object (fields.map fun field => (field.1, field.2.hideTexts)) :=
        congrArg Json.object (mapFields_eq_map hideText fields)
      rw [hidden]
      exact Table.get?_mapValues fields hideTexts name
  | null => rfl
  | bool value => rfl
  | number value => rfl
  | text value => rfl
  | list items => rfl

theorem walk_hideTexts (data : Json) (keys : List (List Char)) :
    data.hideTexts.walk keys = (data.walk keys).map hideTexts := by
  induction keys generalizing data with
  | nil => rfl
  | cons key rest induction =>
      rw [walk, walk, field?_hideTexts, Option.bind_map, Option.map_bind]
      exact congrArg _ (funext fun value => induction value)

theorem lookup_hideTexts (data : Json) (path : List Char) :
    data.hideTexts.lookup path = (data.lookup path).map hideTexts := by
  unfold lookup
  dsimp only
  split
  · rfl
  · exact walk_hideTexts data _

/-- The same paths lead to something, and that is the same but for its texts. -/
theorem SameButTexts.lookup {left right : Json} (same : left.SameButTexts right)
    (path : List Char) :
    (left.lookup path).map hideTexts = (right.lookup path).map hideTexts := by
  rw [← lookup_hideTexts, same, lookup_hideTexts]

end Json

/-! ## Rendering -/

namespace Placeholder

variable (data : Json)

/-- What becomes of a leaf. -/
def renderIfText : Json → Json
  | .text value => renderLeaf value data
  | leaf => leaf

mutual

theorem renderValue_eq : ∀ template : Json,
    renderValue data template = Json.mapLeaves (renderIfText data) template
  | .null => rfl
  | .bool _ => rfl
  | .number _ => rfl
  | .text _ => rfl
  | .list items => congrArg Json.list (renderItems_eq items)
  | .object fields => congrArg Json.object (renderFields_eq fields)

theorem renderItems_eq : ∀ templates : List Json,
    renderItems data templates = Json.mapItems (renderIfText data) templates
  | [] => rfl
  | template :: rest => by
      simp only [renderItems, Json.mapItems, renderValue_eq template, renderItems_eq rest]

theorem renderFields_eq : ∀ templates : List (String × Json),
    renderFields data templates = Json.mapFields (renderIfText data) templates
  | [] => rfl
  | (name, template) :: rest => by
      simp only [renderFields, Json.mapFields, renderValue_eq template, renderFields_eq rest]

end

theorem text?_renderValue_of_no_text {template : Json} (noText : template.text? = none) :
    (renderValue data template).text? = none := by
  cases template with
  | text _ => cases noText
  | null | bool | number | list | object => rfl

variable {left right : Json} (same : left.SameButTexts right)

include same

/-- A bare placeholder stands for values that differ in texts only, and everything else is a text. -/
theorem renderLeaf_same (text : String) :
    (renderLeaf text left).SameButTexts (renderLeaf text right) := by
  have found : ((barePath? text.toList).bind left.lookup).map Json.hideTexts =
      ((barePath? text.toList).bind right.lookup).map Json.hideTexts := by
    rw [Option.map_bind, Option.map_bind]
    exact congrArg _ (funext same.lookup)
  unfold renderLeaf Json.SameButTexts
  cases ofLeft : (barePath? text.toList).bind left.lookup with
  | none =>
      rw [ofLeft, Option.map_none, eq_comm, Option.map_eq_none_iff] at found
      rw [found]
      rfl
  | some value =>
      rw [ofLeft, Option.map_some, eq_comm, Option.map_eq_some_iff] at found
      rcases found with ⟨other, ofRight, hidden⟩
      rw [ofRight]
      exact hidden.symm

theorem renderValue_same (template : Json) :
    (renderValue left template).SameButTexts (renderValue right template) := by
  unfold Json.SameButTexts Json.hideTexts
  rw [renderValue_eq, renderValue_eq, Json.mapLeaves_mapLeaves, Json.mapLeaves_mapLeaves]
  refine Json.mapLeaves_congr (fun leaf isLeaf => ?_) template
  cases leaf with
  | text value => exact renderLeaf_same same value
  | null => rfl
  | bool value => rfl
  | number value => rfl
  | list items => exact isLeaf.elim
  | object fields => exact isLeaf.elim

end Placeholder

/-! ## Bodies -/

namespace Request

variable {config : Option ApiConfig} {call : ApiCall}

theorem exists_build {data : Json} (addressed : (urlOf config call data).toOption.isSome = true) :
    ∃ request, build config call data = .ok request := by
  unfold build
  cases found : urlOf config call data with
  | ok url => exact ⟨_, rfl⟩
  | error fault =>
      rw [found] at addressed
      cases addressed

/-- What a request is made of. -/
theorem of_build {data : Json} {request : Request}
    (builds : build config call data = .ok request) :
    urlOf config call data = .ok request.url ∧
    request.headers = Table.ofList (renderHeaders ((config.map ApiConfig.headers).getD []) data ++
      renderHeaders call.headers data ++ ((credentialsOf config data).toOption.getD .none).headers) ∧
    request.body = if call.method.hasBody then some (bodyOf call data) else none := by
  unfold build at builds
  split at builds
  · cases builds
  · rename_i addressed
    cases builds
    exact ⟨addressed, rfl, rfl⟩

theorem body_of_build {data : Json} {request : Request}
    (builds : build config call data = .ok request) :
    request.body = if call.method.hasBody then some (bodyOf call data) else none :=
  (of_build builds).2.2

theorem bodyOf_of_template {template : Json} (hasTemplate : call.body = some template)
    (data : Json) : bodyOf call data = openText (Placeholder.renderValue data template) := by
  rw [bodyOf, hasTemplate]

/-- Both requests have bodies of one shape, or neither has a body. -/
def SameBodyShape (first second : Request) : Prop :=
  first.body.map Json.shape = second.body.map Json.shape

theorem sameBodyShape_iff {template left right : Json} (hasTemplate : call.body = some template)
    {first second : Request} (builds : build config call left = .ok first)
    (buildsOther : build config call right = .ok second) :
    first.SameBodyShape second ↔ (call.method.hasBody = true →
      (openText (Placeholder.renderValue left template)).shape =
        (openText (Placeholder.renderValue right template)).shape) := by
  unfold SameBodyShape
  rw [body_of_build builds, body_of_build buildsOther, bodyOf_of_template hasTemplate,
    bodyOf_of_template hasTemplate]
  cases call.method.hasBody <;> simp

theorem openText_of_no_text {value : Json} (noText : value.text? = none) :
    openText value = value := by
  cases value with
  | text _ => cases noText
  | null | bool | number | list | object => rfl

/-- The shape of the JSON in a text, or that of a text. -/
def readShape (text : String) : Json := ((Json.parseText text).map Json.shape).getD (.text "")

theorem shape_openText_text (text : String) : (openText (.text text)).shape = readShape text := by
  rw [openText, readShape]
  cases Json.parseText text <;> rfl

end Request

/-- Of data that are the same but for their texts, a template makes bodies of one shape. Where it is
a text itself and a text is what it gives, the bodies are the JSON in these texts, and have one shape
just if that has. -/
theorem texts_keep_shape_of_templated_body {config : Option ApiConfig} {call : ApiCall}
    {template left right : Json} (hasTemplate : call.body = some template)
    (same : left.SameButTexts right) {first second : Request}
    (builds : Request.build config call left = .ok first)
    (buildsOther : Request.build config call right = .ok second) :
    (Placeholder.renderValue left template).SameButTexts (Placeholder.renderValue right template) ∧
    (template.text? = none → first.SameBodyShape second) ∧
    ((Placeholder.renderValue left template).text? = none → first.SameBodyShape second) ∧
    ∀ text other, Placeholder.renderValue left template = .text text →
      Placeholder.renderValue right template = .text other →
      (Json.parseText text = none → Json.parseText other = none → first.SameBodyShape second) ∧
      (first.SameBodyShape second ↔
        (call.method.hasBody = true → Request.readShape text = Request.readShape other)) := by
  have rendered := Placeholder.renderValue_same same template
  have sameShape_iff := Request.sameBodyShape_iff hasTemplate builds buildsOther
  have ofNoText (noText : (Placeholder.renderValue left template).text? = none) :
      first.SameBodyShape second := by
    refine sameShape_iff.mpr fun _ => ?_
    rw [Request.openText_of_no_text noText,
      Request.openText_of_no_text (rendered.text?_eq_none_iff.mp noText)]
    exact rendered.shape_eq
  refine ⟨rendered, ?structured, ofNoText, ?text⟩
  case structured =>
    intro noText
    exact ofNoText (Placeholder.text?_renderValue_of_no_text left noText)
  case text =>
    intro text other isText isOther
    rw [isText, isOther, Request.shape_openText_text, Request.shape_openText_text] at sameShape_iff
    refine ⟨fun noJson otherNoJson => sameShape_iff.mpr fun _ => ?_, sameShape_iff⟩
    rw [Request.readShape, Request.readShape, noJson, otherNoJson]

namespace Sample

/-- A call with a template for its body. -/
def posting (template : Json) : ApiCall :=
  { (default : ApiCall) with method := .post, endpoint := "https://api.test/x", body := some template }

def typed (codes : String) : Json := .object [("codes", .text codes)]

/-- What has been typed is in a list, or it is between brackets. -/
def listed : Json := .object [("codes", .list [.text "\x7b\x7bcodes\x7d\x7d"])]

def bracketed : Json := .text "[\x7b\x7bcodes\x7d\x7d]"

end Sample

theorem listed_codes_keep_shape :
    (Sample.typed "1").SameButTexts (Sample.typed "1,2") ∧
    ∃ first second, Request.build none (Sample.posting Sample.listed) (Sample.typed "1") = .ok first ∧
      Request.build none (Sample.posting Sample.listed) (Sample.typed "1,2") = .ok second ∧
      first.SameBodyShape second := by
  have same : (Sample.typed "1").SameButTexts (Sample.typed "1,2") := rfl
  have built : ∃ first, Request.build none (Sample.posting Sample.listed) (Sample.typed "1") =
      .ok first := Request.exists_build (by decide +kernel)
  have otherBuilt : ∃ second, Request.build none (Sample.posting Sample.listed)
      (Sample.typed "1,2") = .ok second := Request.exists_build (by decide +kernel)
  rcases built with ⟨first, builds⟩
  rcases otherBuilt with ⟨second, buildsOther⟩
  have keeps := texts_keep_shape_of_templated_body rfl same builds buildsOther
  exact ⟨same, first, second, builds, buildsOther, keeps.2.1 rfl⟩

theorem bracketed_codes_change_shape :
    (Sample.typed "1").SameButTexts (Sample.typed "1,2") ∧
    ∃ first second,
      Request.build none (Sample.posting Sample.bracketed) (Sample.typed "1") = .ok first ∧
      Request.build none (Sample.posting Sample.bracketed) (Sample.typed "1,2") = .ok second ∧
      first.body.map Json.writeText = some "[1]" ∧
      second.body.map Json.writeText = some "[1,2]" ∧
      ¬first.SameBodyShape second := by
  have built : ∃ first, Request.build none (Sample.posting Sample.bracketed) (Sample.typed "1") =
      .ok first := Request.exists_build (by decide +kernel)
  have otherBuilt : ∃ second, Request.build none (Sample.posting Sample.bracketed)
      (Sample.typed "1,2") = .ok second := Request.exists_build (by decide +kernel)
  rcases built with ⟨first, builds⟩
  rcases otherBuilt with ⟨second, buildsOther⟩
  have body := Request.body_of_build builds
  have otherBody := Request.body_of_build buildsOther
  refine ⟨rfl, first, second, builds, buildsOther, ?first, ?second, fun sameShape => ?shapes⟩
  case first =>
    rw [body]
    decide +kernel
  case second =>
    rw [otherBody]
    decide +kernel
  case shapes =>
    unfold Request.SameBodyShape at sameShape
    rw [body, otherBody] at sameShape
    have written := congrArg (Option.map Json.writeText) sameShape
    revert written
    decide +kernel

end Ussd
