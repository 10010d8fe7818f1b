import Ussd.Proofs.BodyShape
import Ussd.Proofs.PlainPlaceholders
import Ussd.Web.UrlReader

/-! # Relative calls

What an endpoint begins with stays in front of whatever its placeholders stand for, and inserted
text is not scanned again. So the address of a call that begins with a slash begins with that of the
backend, whatever the data are. Reading it keeps the scheme, and it keeps the host where the base
has one; but dot segments are followed, and these may lead out of the path of the base. -/

namespace Ussd

/-! ## Templates without placeholders -/

namespace Placeholder

/-- A placeholder with something inside occurs in the text. -/
def OccursIn (text : List Char) : Prop :=
  ∃ inside, inside ≠ [] ∧ (∀ c ∈ inside, isBrace c = false) ∧ Message.tagText inside <:+: text

theorem OccursIn.of_infix {text longer : List Char} (isInfix : text <:+: longer)
    (occurs : OccursIn text) : OccursIn longer := by
  rcases occurs with ⟨inside, nonempty, braceless, isWithin⟩
  exact ⟨inside, nonempty, braceless, isWithin.trans isInfix⟩

theorem not_occursIn_of_braceless {text : List Char} (braceless : ∀ c ∈ text, isBrace c = false) :
    ¬OccursIn text := by
  rintro ⟨inside, -, -, isWithin⟩
  have isMember : '\x7b' ∈ text := isWithin.subset List.mem_cons_self
  cases braceless _ isMember

theorem of_placeholderAt?_eq_some {text inside after : List Char}
    (found : placeholderAt? text = some (inside, after)) :
    inside ≠ [] ∧ (∀ c ∈ inside, isBrace c = false) ∧ text = Message.tagText inside ++ after := by
  unfold placeholderAt? at found
  split at found
  · rename_i rest
    dsimp only at found
    split at found
    · cases found
    · rename_i nonempty
      split at found
      · rename_i tail dropped
        cases found
        refine ⟨by simpa using nonempty, fun c isMember => ?_, ?_⟩
        · simpa using List.mem_takeWhile_imp isMember
        · have layout := List.takeWhile_append_dropWhile (p := (!isBrace ·)) (l := rest)
          rw [dropped] at layout
          simp [Message.tagText, Message.openTag, Message.closeTag, layout]
      · cases found
  · cases found

theorem segments_of_no_placeholder {text : List Char} (noPlaceholder : ¬OccursIn text) :
    segments text = text.map .literal := by
  induction text with
  | nil => rw [segments, List.map_nil]
  | cons c rest induction =>
      rw [segments]
      split
      · rename_i inside after found
        rcases of_placeholderAt?_eq_some found with ⟨nonempty, braceless, layout⟩
        refine absurd ⟨inside, nonempty, braceless, ?_⟩ noPlaceholder
        rw [layout]
        exact List.infix_append_left
      · rw [List.map_cons, induction fun occurs =>
          noPlaceholder (occurs.of_infix (List.infix_cons (List.infix_refl rest)))]

theorem renderChars_of_no_placeholder {text : List Char} (noPlaceholder : ¬OccursIn text)
    (data : Json) : renderChars text data = text := by
  rw [renderChars, segments_of_no_placeholder noPlaceholder, flatMap_literals]

theorem renderChars_cons {c : Char} (notBrace : isBrace c = false) (rest : List Char)
    (data : Json) : renderChars (c :: rest) data = c :: renderChars rest data := by
  have lead := segments_append_braceless ⟨[c], by simpa using notBrace⟩ rest
  rw [List.singleton_append, List.map_singleton] at lead
  rw [renderChars, lead]
  rfl

end Placeholder

/-! ## Addresses of relative calls -/

/-- The address of the backend as it is configured, without the slashes at its end. -/
def ApiConfig.base (config : ApiConfig) : List Char :=
  Request.dropSlashes (Text.trim config.baseUrl.toList)

/-- The endpoint begins with a slash. -/
def ApiCall.IsRooted (call : ApiCall) : Prop :=
  (Text.trim call.endpoint.toList).head? = some '/'

namespace Request

theorem renderTrimmed_of_isRooted {call : ApiCall} (isRooted : call.IsRooted) (data : Json) :
    ∃ rest, renderTrimmed call.endpoint data = '/' :: rest := by
  rcases List.head?_eq_some_iff.mp isRooted with ⟨rest, starts⟩
  rw [renderTrimmed, starts]
  exact ⟨_, Placeholder.renderChars_cons rfl rest data⟩

theorem renderTrimmed_baseUrl {config : ApiConfig}
    (noPlaceholder : ¬Placeholder.OccursIn config.baseUrl.toList) (data : Json) :
    renderTrimmed config.baseUrl data = Text.trim config.baseUrl.toList :=
  Placeholder.renderChars_of_no_placeholder
    (fun occurs => noPlaceholder (occurs.of_infix (Text.trim_infix _))) data

theorem isAbsolute_slash (rest : List Char) : isAbsolute ('/' :: rest) = false := rfl

theorem urlOf_of_isRooted {config : ApiConfig} {call : ApiCall} {data : Json} {rest : List Char}
    (noPlaceholder : ¬Placeholder.OccursIn config.baseUrl.toList) (nonempty : config.base ≠ [])
    (endpoint : renderTrimmed call.endpoint data = '/' :: rest) :
    urlOf (some config) call data = .ok (String.ofList (config.base ++ '/' :: rest)) := by
  have hasBase : (Text.trim config.baseUrl.toList).isEmpty = false := by
    rw [List.isEmpty_eq_false_iff]
    intro empty
    rw [ApiConfig.base, empty] at nonempty
    exact nonempty rfl
  simp [urlOf, endpoint, isAbsolute_slash, renderTrimmed_baseUrl noPlaceholder, hasBase, joinUrl,
    ApiConfig.base]

theorem exists_build_of_isRooted {config : ApiConfig} {call : ApiCall} (isRooted : call.IsRooted)
    (noPlaceholder : ¬Placeholder.OccursIn config.baseUrl.toList) (nonempty : config.base ≠ [])
    (data : Json) :
    ∃ request rest, build (some config) call data = .ok request ∧
      renderTrimmed call.endpoint data = '/' :: rest ∧
      request.url = String.ofList (config.base ++ '/' :: rest) := by
  rcases renderTrimmed_of_isRooted isRooted data with ⟨rest, endpoint⟩
  have address := urlOf_of_isRooted noPlaceholder nonempty endpoint
  have built : ∃ request, build (some config) call data = .ok request :=
    exists_build (by rw [address]; rfl)
  rcases built with ⟨request, builds⟩
  exact ⟨request, rest, builds, endpoint,
    Except.ok.inj ((of_build builds).1.symm.trans address)⟩

end Request

/-! ## Dot segments -/

namespace Web.Target

/-- Where a segment leads from a place, when more of them follow. -/
def enter (place : List (List Char)) (segment : List Char) : List (List Char) :=
  if isDoubleDot segment then place.dropLast
  else if isSingleDot segment then place
  else place ++ [percentEncode isReservedInPath segment]

/-- No beginning of the segments leads up more often than the depth and the segments that lead down
allow. -/
def staysBelow (depth : Nat) : List (List Char) → Bool
  | [] => true
  | segment :: rest =>
    if isDoubleDot segment then decide (0 < depth) && staysBelow (depth - 1) rest
    else if isSingleDot segment then staysBelow depth rest
    else staysBelow (depth + 1) rest

theorem walk_cons (place : List (List Char)) (segment : List Char) {rest : List (List Char)}
    (more : rest ≠ []) : walk place (segment :: rest) = walk (enter place segment) rest := by
  have notLast : rest.isEmpty = false := List.isEmpty_eq_false_iff.mpr more
  rw [walk, enter]
  simp only [notLast, Bool.false_eq_true, if_false, List.append_nil]

theorem walk_append (place front : List (List Char)) {back : List (List Char)} (more : back ≠ []) :
    walk place (front ++ back) = walk (front.foldl enter place) back := by
  induction front generalizing place with
  | nil => rfl
  | cons segment front induction =>
      rw [List.cons_append, walk_cons _ _ (List.append_ne_nil_of_right_ne_nil _ more), induction,
        List.foldl_cons]

theorem enter_prefix_walk (place : List (List Char)) (segment : List Char) :
    enter place segment <+: walk place [segment] := by
  rw [walk, walk, enter]
  split
  · exact List.prefix_append _ _
  · split
    · exact List.prefix_append _ _
    · exact List.prefix_rfl

/-- A segment that does not lead above a place is entered below it. -/
theorem enter_below (place : List (List Char)) {more : List (List Char)} {segment : List Char}
    {rest : List (List Char)} (stays : staysBelow more.length (segment :: rest) = true) :
    ∃ deeper, enter (place ++ more) segment = place ++ deeper ∧
      staysBelow deeper.length rest = true := by
  rw [staysBelow] at stays
  rw [enter]
  split at stays
  · rename_i leadsUp
    rw [Bool.and_eq_true, decide_eq_true_iff] at stays
    refine ⟨more.dropLast, ?_, by rw [List.length_dropLast]; exact stays.2⟩
    rw [if_pos leadsUp, List.dropLast_append_of_ne_nil (List.length_pos_iff.mp stays.1)]
  · rename_i notUp
    rw [if_neg notUp]
    split at stays
    · rename_i leadsNowhere
      exact ⟨more, by rw [if_pos leadsNowhere], stays⟩
    · rename_i leadsDown
      refine ⟨more ++ [percentEncode isReservedInPath segment], ?_, ?_⟩
      · rw [if_neg leadsDown, List.append_assoc]
      · rw [List.length_append, List.length_singleton]
        exact stays

theorem prefix_walk (place : List (List Char)) {more segments : List (List Char)}
    (stays : staysBelow more.length segments = true) : place <+: walk (place ++ more) segments := by
  induction segments generalizing more with
  | nil => exact List.prefix_append _ _
  | cons segment rest induction =>
      rcases enter_below place stays with ⟨deeper, enters, staysThere⟩
      cases rest with
      | nil =>
          have reached := enter_prefix_walk (place ++ more) segment
          rw [enters] at reached
          exact (List.prefix_append _ _).trans reached
      | cons next rest =>
          rw [walk_cons _ _ (List.cons_ne_nil _ _), enters]
          exact induction staysThere

theorem segments_ne_nil (text : List Char) : segments text ≠ [] := by
  cases text with
  | nil => exact List.cons_ne_nil _ _
  | cons c rest =>
      rw [segments]
      split
      · exact List.cons_ne_nil _ _
      · split
        · exact List.cons_ne_nil _ _
        · exact List.cons_ne_nil _ _

theorem segments_append (front back : List Char) :
    segments (front ++ '/' :: back) = segments front ++ segments back := by
  induction front with
  | nil => rfl
  | cons c front induction =>
      rw [List.cons_append, segments, segments, induction]
      split
      · rfl
      · cases pieces : segments front with
        | nil => exact absurd pieces (segments_ne_nil front)
        | cons segment others => rfl

/-! ## Reading addresses -/

/-- What cleaning leaves of a beginning. -/
def cleanStart (text : List Char) : List Char := (text.dropWhile isOuter).filter isInner

/-- What cleaning leaves of an end. -/
def cleanEnd (text : List Char) : List Char :=
  (text.reverse.dropWhile isOuter).reverse.filter isInner

theorem clean_append (front back : List Char) :
    clean (front ++ '/' :: back) = cleanStart front ++ '/' :: cleanEnd back := by
  have slashStays : isOuter '/' = false := rfl
  have whole : clean (front ++ '/' :: back) =
      (((front ++ '/' :: back).dropWhile isOuter).reverse.dropWhile isOuter).reverse.filter isInner :=
    rfl
  rw [whole, Text.dropWhile_append_cons slashStays, List.reverse_append, List.reverse_cons,
    List.append_assoc, List.singleton_append, Text.dropWhile_append_cons slashStays,
    List.reverse_append, List.reverse_cons, List.reverse_reverse, List.append_assoc,
    List.singleton_append, List.filter_append]
  rfl

theorem splitScheme?_append (front back : List Char) :
    splitScheme? (front ++ '/' :: back) =
      (splitScheme? front).map fun parts => (parts.1, parts.2 ++ '/' :: back) := by
  cases front with
  | nil => rfl
  | cons c front =>
      rw [List.cons_append, splitScheme?, splitScheme?]
      split
      · dsimp only
        rw [← List.cons_append, Text.takeWhile_append_cons rfl,
          List.drop_append_of_le_length (List.takeWhile_prefix _).length_le]
        cases (c :: front).drop _ with
        | nil => rfl
        | cons mark rest =>
            by_cases isColon : mark = ':'
            · subst isColon
              rfl
            · simp [isColon]
      · rfl

/-- The place that a path leads to, without the slash at its end. -/
def folder (path : List (List Char)) : List (List Char) :=
  if path.getLast? = some [] then path.dropLast else path

theorem folder_concat_nil (place : List (List Char)) : folder (place ++ [[]]) = place := by
  rw [folder, List.getLast?_concat, if_pos rfl, List.dropLast_concat]

theorem folder_prefix (path : List (List Char)) : folder path <+: path := by
  rw [folder]
  split
  · exact List.dropLast_prefix path
  · exact List.prefix_rfl

/-- The segments of a text, up to its query. -/
def pathSegments (text : List Char) : List (List Char) := segments (text.takeWhile isPathChar)

/-- What stands behind a slash is followed from the path in front of it, unless that path has ended
with a query there. -/
theorem walk_behind (front back : List Char) :
    walk [] (pathSegments (front ++ '/' :: back)) = walk [] (pathSegments (front ++ ['/'])) ∨
    walk [] (pathSegments (front ++ '/' :: back)) =
      walk (folder (walk [] (pathSegments (front ++ ['/'])))) (pathSegments back) := by
  by_cases isWhole : (front.takeWhile isPathChar).length = front.length
  · right
    have pieces (ending : List Char) : pathSegments (front ++ '/' :: ending) =
        segments front ++ pathSegments ending := by
      rw [pathSegments, List.takeWhile_append, if_pos isWhole,
        List.takeWhile_cons_of_pos rfl, segments_append]
      rfl
    have own : walk [] (pathSegments (front ++ ['/'])) =
        (segments front).foldl enter [] ++ [[]] := by
      rw [pieces]
      exact walk_append _ _ (List.cons_ne_nil _ _)
    rw [own, folder_concat_nil, pieces]
    exact walk_append _ _ (segments_ne_nil _)
  · left
    rw [pathSegments, pathSegments, List.takeWhile_append, List.takeWhile_append, if_neg isWhole,
      if_neg isWhole]

theorem behindAuthority_append (front : List Char) :
    (∀ back, behindAuthority (front ++ '/' :: back) = back) ∨
    ∃ start, ∀ back, behindAuthority (front ++ '/' :: back) = start ++ '/' :: back := by
  have passed (back : List Char) : (front ++ '/' :: back).dropWhile isAuthorityChar =
      front.dropWhile isAuthorityChar ++ '/' :: back := Text.dropWhile_append_cons rfl front back
  cases start : front.dropWhile isAuthorityChar with
  | nil =>
      left
      intro back
      rw [behindAuthority, passed, start]
      rfl
  | cons c start' =>
      right
      by_cases leads : isSlash c = true
      · refine ⟨start', fun back => ?_⟩
        rw [behindAuthority, passed, start]
        simp [leads]
      · refine ⟨c :: start', fun back => ?_⟩
        rw [behindAuthority, passed, start]
        simp [leads]

/-- What the path of an address becomes when a text stands behind its slash. -/
theorem path_behind (front back : List Char) :
    walk [] (pathSegments (behindAuthority (front ++ '/' :: back))) =
      walk [] (pathSegments (behindAuthority (front ++ ['/']))) ∨
    walk [] (pathSegments (behindAuthority (front ++ '/' :: back))) =
      walk (folder (walk [] (pathSegments (behindAuthority (front ++ ['/'])))))
        (pathSegments back) := by
  rcases behindAuthority_append front with isAll | ⟨start, isRest⟩
  · right
    rw [isAll, isAll]
    rfl
  · rw [isRest, isRest]
    exact walk_behind start back

theorem folder_prefix_path (front : List Char) {back : List Char}
    (stays : staysBelow 0 (pathSegments back) = true) :
    folder (walk [] (pathSegments (behindAuthority (front ++ ['/'])))) <+:
      walk [] (pathSegments (behindAuthority (front ++ '/' :: back))) := by
  rcases path_behind front back with same | follows
  · rw [same]
    exact folder_prefix _
  · rw [follows]
    generalize folder (walk [] (pathSegments (behindAuthority (front ++ ['/'])))) = place
    have below : place <+: walk (place ++ []) (pathSegments back) := prefix_walk place stays
    rw [List.append_nil] at below
    exact below

theorem readAuthority_append (isSecure : Bool) (front back : List Char) :
    readAuthority isSecure (front ++ '/' :: back) =
      (peer? isSecure (front.takeWhile isAuthorityChar)).map fun parts =>
        .web parts.1 (withPath parts.2 [] (behindAuthority (front ++ '/' :: back))) := by
  rw [readAuthority, Text.takeWhile_append_cons rfl]

/-- What a scheme and the text behind its colon are as an address. -/
def ofScheme? (parts : List Char × List Char) : Option Target :=
  if parts.1 == "http".toList || parts.1 == "https".toList then
    readAuthority (parts.1 == "https".toList) (parts.2.dropWhile isSlash)
  else some (.foreign parts.2)

theorem read?_none (text : List Char) :
    read? none text = (splitScheme? (clean text)).bind ofScheme? := by
  rw [read?]
  cases splitScheme? (clean text) <;> rfl

theorem read?_append (front back : List Char) :
    read? none (front ++ '/' :: back) = (splitScheme? (cleanStart front)).bind fun parts =>
      ofScheme? (parts.1, parts.2 ++ '/' :: cleanEnd back) := by
  rw [read?_none, clean_append, splitScheme?_append, Option.bind_map]
  rfl

theorem isSecure_of_peer?_eq_some {isSecure : Bool} {text : List Char}
    {parts : Option UserInfo × Url} (isPeer : peer? isSecure text = some parts) :
    parts.2.isSecure = isSecure := by
  rw [peer?] at isPeer
  rcases Option.bind_eq_some_iff.mp isPeer with ⟨host, -, isPeer⟩
  rcases Option.bind_eq_some_iff.mp isPeer with ⟨port, -, isPeer⟩
  cases isPeer
  rfl

theorem scheme_of_ofScheme?_eq_some {parts : List Char × List Char} {user : Option UserInfo}
    {url : Url} (read : ofScheme? parts = some (.web user url)) : url.scheme = parts.1 := by
  rw [ofScheme?] at read
  split at read
  · rename_i isWeb
    rcases Option.map_eq_some_iff.mp read with ⟨peer, isPeer, isTarget⟩
    cases isTarget
    have isSecure : (withPath peer.2 [] (behindAuthority (parts.2.dropWhile isSlash))).isSecure =
        (parts.1 == "https".toList) := isSecure_of_peer?_eq_some isPeer
    rw [Url.scheme, isSecure]
    cases overTls : parts.1 == "https".toList with
    | true => exact (eq_of_beq overTls).symm
    | false =>
        rw [overTls, Bool.or_false] at isWeb
        exact (eq_of_beq isWeb).symm
  · cases read

def web? : Target → Option (Option UserInfo × Url)
  | .web user url => some (user, url)
  | .foreign _ => none

/-- The text is a scheme of the web with slashes, so that a host would stand behind it. -/
def isBareScheme (text : List Char) : Bool :=
  match splitScheme? (cleanStart text) with
  | some (scheme, rest) =>
    (scheme == "http".toList || scheme == "https".toList) && (rest.dropWhile isSlash).isEmpty
  | none => false

end Web.Target

namespace Web

/-- An address leads to the same peer as another one. Its path is followed from the path of that one,
unless a query has ended that path already, and is below it if the text behind does not lead up. -/
structure StaysBehind (text : List Char) (own address : Option UserInfo × Url) : Prop where
  user : address.1 = own.1
  isSecure : address.2.isSecure = own.2.isSecure
  host : address.2.host = own.2.host
  port : address.2.port = own.2.port
  isFollowed : address.2.path = own.2.path ∨
    address.2.path =
      Target.walk (Target.folder own.2.path) (Target.pathSegments (Target.cleanEnd text))
  path : Target.staysBelow 0 (Target.pathSegments (Target.cleanEnd text)) = true →
    Target.folder own.2.path <+: address.2.path

theorem Url.read?_eq_bind (text : List Char) :
    Url.read? (String.ofList text) = (Target.read? none text).bind Target.web? := by
  rw [Url.read?, String.toList_ofList]
  cases Target.read? none text with
  | none => rfl
  | some target => cases target <;> rfl

theorem Url.read?_append (front back : List Char) :
    Url.read? (String.ofList (front ++ '/' :: back)) =
      (Target.splitScheme? (Target.cleanStart front)).bind fun parts =>
        (Target.ofScheme? (parts.1, parts.2 ++ '/' :: Target.cleanEnd back)).bind Target.web? := by
  rw [Url.read?_eq_bind, Target.read?_append, Option.bind_assoc]

theorem scheme_of_read?_append {front back : List Char} {user : Option UserInfo} {url : Url}
    (read : Url.read? (String.ofList (front ++ '/' :: back)) = some (user, url)) :
    ∃ behind, Target.splitScheme? (Target.cleanStart front) = some (url.scheme, behind) := by
  rw [Url.read?_append] at read
  rcases Option.bind_eq_some_iff.mp read with ⟨⟨scheme, behind⟩, splits, read⟩
  rcases Option.bind_eq_some_iff.mp read with ⟨target, isTarget, isWeb⟩
  cases target with
  | web _ _ =>
      cases isWeb
      rw [Target.scheme_of_ofScheme?_eq_some isTarget]
      exact ⟨behind, splits⟩
  | foreign _ => cases isWeb

theorem staysBehind_withPath (parts : Option UserInfo × Url) (front back : List Char) :
    StaysBehind back
      (parts.1, Target.withPath parts.2 [] (Target.behindAuthority (front ++ ['/'])))
      (parts.1, Target.withPath parts.2 []
        (Target.behindAuthority (front ++ '/' :: Target.cleanEnd back))) :=
  ⟨rfl, rfl, rfl, rfl, Target.path_behind front (Target.cleanEnd back),
    Target.folder_prefix_path front⟩

/-- What stands behind a slash decides neither whether an address can be read nor who is asked, if
more than a scheme stands in front of the slash. -/
theorem read?_append_rel {front : List Char} (hasHost : Target.isBareScheme front = false)
    (back : List Char) :
    Option.Rel (StaysBehind back) (Url.read? (String.ofList (front ++ ['/'])))
      (Url.read? (String.ofList (front ++ '/' :: back))) := by
  rw [Target.isBareScheme] at hasHost
  rw [Url.read?_append, Url.read?_append]
  cases start : Target.splitScheme? (Target.cleanStart front) with
  | none => exact .none
  | some parts =>
      rcases parts with ⟨scheme, rest⟩
      rw [start] at hasHost
      dsimp only [Option.bind_some, Target.ofScheme?] at hasHost ⊢
      cases isWeb : scheme == "http".toList || scheme == "https".toList with
      | false => exact .none
      | true =>
          rw [isWeb, Bool.true_and] at hasHost
          have passed (ending : List Char) : (rest ++ '/' :: ending).dropWhile Target.isSlash =
              rest.dropWhile Target.isSlash ++ '/' :: ending := by
            rw [List.dropWhile_append, hasHost]
            rfl
          simp only [if_true, passed, Target.readAuthority_append]
          cases Target.peer? (scheme == "https".toList)
              ((rest.dropWhile Target.isSlash).takeWhile Target.isAuthorityChar) with
          | none => exact .none
          | some parts => exact .some (staysBehind_withPath parts _ back)

end Web

theorem Request.exists_build_reading {config : ApiConfig} {call : ApiCall} {data : Json}
    {address : Option (Option Web.UserInfo × Web.Url)} (isRooted : call.IsRooted)
    (noPlaceholder : ¬Placeholder.OccursIn config.baseUrl.toList) (nonempty : config.base ≠ [])
    (reads : Web.Url.read? (String.ofList (config.base ++ renderTrimmed call.endpoint data)) =
      address) :
    ∃ request, build (some config) call data = .ok request ∧
      Web.Url.read? request.url = address := by
  rcases exists_build_of_isRooted isRooted noPlaceholder nonempty data with
    ⟨request, rest, builds, endpoint, isUrl⟩
  refine ⟨request, builds, ?_⟩
  rw [isUrl, ← endpoint]
  exact reads

/-- A call whose endpoint begins with a slash can be made with any data, and its address is the base
with the rendered endpoint behind it. The scheme of the address is that of the base. If the base is
more than a scheme, who is asked is told by the base alone. The endpoint is then followed from the
path of the base, which begins that of the address as long as the endpoint does not lead up out of
it. -/
theorem relative_calls_stay_behind_base {config : ApiConfig} {call : ApiCall}
    (isRooted : call.IsRooted) (noPlaceholder : ¬Placeholder.OccursIn config.baseUrl.toList)
    (nonempty : config.base ≠ []) (data : Json) :
    ∃ request rest, Request.build (some config) call data = .ok request ∧
      Request.renderTrimmed call.endpoint data = '/' :: rest ∧
      request.url.toList = config.base ++ '/' :: rest ∧
      (∀ user url, Web.Url.read? request.url = some (user, url) →
        ∃ behind, Web.Target.splitScheme? (Web.Target.cleanStart config.base) =
          some (url.scheme, behind)) ∧
      (Web.Target.isBareScheme config.base = false →
        Option.Rel (Web.StaysBehind rest)
          (Web.Url.read? (String.ofList (config.base ++ ['/']))) (Web.Url.read? request.url)) := by
  rcases Request.exists_build_of_isRooted isRooted noPlaceholder nonempty data with
    ⟨request, rest, builds, endpoint, isUrl⟩
  refine ⟨request, rest, builds, endpoint, by rw [isUrl, String.toList_ofList], ?_, ?_⟩
  · intro user url reads
    rw [isUrl] at reads
    exact Web.scheme_of_read?_append reads
  · intro hasHost
    rw [isUrl]
    exact Web.read?_append_rel hasHost rest

namespace Sample

def versionedService : ApiConfig :=
  { (default : ApiConfig) with baseUrl := " https://api.test/v1/ " }

def versionedAddress : Web.Url :=
  { isSecure := true, host := .name "api.test".toList, port := none, path := ["v1".toList, []],
    query := none }

/-- Slashes at the end of a base are left out, so this one has no host. -/
def schemeOnly : ApiConfig := { (default : ApiConfig) with baseUrl := "https://" }

def rootedCall : ApiCall :=
  { (default : ApiCall) with endpoint := "/\x7b\x7baccount\x7d\x7d/balance" }

def accountData (account : String) : Json := .object [("account", .text account)]

/-- An address was typed, and it has a placeholder in it. -/
def typedAddress : Json :=
  .object [("account", .text "/evil.test/\x7b\x7bx\x7d\x7d"), ("x", .text "@evil.test")]

theorem rootedCall_isRooted : rootedCall.IsRooted := by
  unfold ApiCall.IsRooted
  decide +kernel

theorem versionedService_noPlaceholder :
    ¬Placeholder.OccursIn versionedService.baseUrl.toList :=
  Placeholder.not_occursIn_of_braceless (Text.forall_of_all (by decide +kernel))

theorem versionedService_base_ne_nil : versionedService.base ≠ [] := by decide +kernel

theorem read?_versionedService :
    Web.Url.read? (String.ofList (versionedService.base ++ ['/'])) =
      some (none, versionedAddress) := by
  decide +kernel

end Sample

/-- An account of dots leads out of the path of the base, and behind a mere scheme it is the host. -/
theorem accounts_may_redirect_relative_calls :
    Sample.rootedCall.IsRooted ∧
    (¬Placeholder.OccursIn Sample.versionedService.baseUrl.toList ∧
      Sample.versionedService.base ≠ [] ∧
      Web.Url.read? (String.ofList (Sample.versionedService.base ++ ['/'])) =
        some (none, Sample.versionedAddress) ∧
      ∃ request, Request.build (some Sample.versionedService) Sample.rootedCall
          (Sample.accountData "../admin") = .ok request ∧
        Web.Url.read? request.url = some (none, { Sample.versionedAddress with
          path := ["admin".toList, "balance".toList] })) ∧
    (¬Placeholder.OccursIn Sample.schemeOnly.baseUrl.toList ∧ Sample.schemeOnly.base ≠ [] ∧
      ∃ request, Request.build (some Sample.schemeOnly) Sample.rootedCall
          (Sample.accountData "evil.test") = .ok request ∧
        Web.Url.read? request.url = some (none,
          { isSecure := true, host := .name "evil.test".toList, port := none,
            path := ["balance".toList], query := none })) := by
  have noPlaceholder : ¬Placeholder.OccursIn Sample.schemeOnly.baseUrl.toList :=
    Placeholder.not_occursIn_of_braceless (Text.forall_of_all (by decide +kernel))
  have nonempty : Sample.schemeOnly.base ≠ [] := by decide +kernel
  refine ⟨Sample.rootedCall_isRooted, ⟨Sample.versionedService_noPlaceholder,
    Sample.versionedService_base_ne_nil, Sample.read?_versionedService, ?_⟩,
    noPlaceholder, nonempty, ?_⟩
  · exact Request.exists_build_reading Sample.rootedCall_isRooted
      Sample.versionedService_noPlaceholder Sample.versionedService_base_ne_nil (by decide +kernel)
  · exact Request.exists_build_reading Sample.rootedCall_isRooted noPlaceholder nonempty
      (by decide +kernel)

theorem typed_address_stays_behind_base :
    Sample.rootedCall.IsRooted ∧
    ¬Placeholder.OccursIn Sample.versionedService.baseUrl.toList ∧
    Sample.versionedService.base ≠ [] ∧
    ∃ request, Request.build (some Sample.versionedService) Sample.rootedCall Sample.typedAddress =
        .ok request ∧
      request.url = "https://api.test/v1//evil.test/\x7b\x7bx\x7d\x7d/balance" ∧
      ∃ user url, Web.Url.read? request.url = some (user, url) ∧ user = none ∧
        url.isSecure = true ∧ url.host = .name "api.test".toList ∧ url.port = none ∧
        ["v1".toList] <+: url.path := by
  rcases relative_calls_stay_behind_base Sample.rootedCall_isRooted
      Sample.versionedService_noPlaceholder Sample.versionedService_base_ne_nil
      Sample.typedAddress with ⟨request, rest, builds, endpoint, isUrl, -, stays⟩
  have isRest : '/' :: rest = "//evil.test/\x7b\x7bx\x7d\x7d/balance".toList := by
    rw [← endpoint]
    decide +kernel
  have isText : request.url = "https://api.test/v1//evil.test/\x7b\x7bx\x7d\x7d/balance" := by
    rw [← String.toList_inj, isUrl, isRest]
    decide +kernel
  refine ⟨Sample.rootedCall_isRooted, Sample.versionedService_noPlaceholder,
    Sample.versionedService_base_ne_nil, request, builds, isText, ?_⟩
  have behind := stays (by decide +kernel)
  rw [Sample.read?_versionedService] at behind
  generalize Web.Url.read? request.url = address at behind ⊢
  cases behind with
  | some kept =>
      have isBelow := kept.path (by rw [(List.cons.inj isRest).2]; decide +kernel)
      exact ⟨_, _, rfl, kept.user, kept.isSecure, kept.host, kept.port, isBelow⟩

end Ussd
