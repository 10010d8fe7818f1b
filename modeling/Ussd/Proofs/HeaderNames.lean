import Mathlib.Data.List.Nodup
import Ussd.Proofs.BodyShape

/-! # Names of headers

HTTP does not tell the names of headers apart by the case of their letters, but the headers of a
request are merged by their names as they are spelled. The credentials come before the call and the
call before the service for each spelling, and for a header just if these three spell it alike. -/

namespace Ussd

namespace Table

variable {α : Type} {table : Table α}

theorem get?_eq_none_of_not_mem {key : String} (absent : key ∉ table.keys) :
    table.get? key = none := by
  cases found : table.get? key with
  | none => rfl
  | some value => exact absurd (List.mem_map_of_mem (mem_of_get? found)) absent

theorem exists_get?_of_mem {entry : String × α} (member : entry ∈ table) :
    ∃ value, table.get? entry.1 = some value := by
  induction table with
  | nil => cases member
  | cons head tail induction =>
      by_cases isHead : head.1 = entry.1
      · exact ⟨head.2, if_pos isHead⟩
      · rw [get?, if_neg isHead]
        refine induction (List.mem_of_ne_of_mem (fun same => isHead ?_) member)
        rw [same]

/-- Where no key occurs twice, the order of the entries does not matter. -/
theorem get?_reverse (once : table.keys.Nodup) (key : String) :
    get? table.reverse key = table.get? key := by
  have onceReversed : (keys table.reverse).Nodup := by
    rw [keys, List.map_reverse]
    exact List.nodup_reverse.mpr once
  cases found : table.get? key with
  | some value => exact get?_of_mem onceReversed (List.mem_reverse.mpr (mem_of_get? found))
  | none =>
      refine Option.eq_none_iff_forall_not_mem.mpr fun value foundReversed => ?_
      rw [get?_of_mem once (List.mem_reverse.mp (mem_of_get? foundReversed))] at found
      cases found

end Table

namespace Headers

/-! ## Headers and spellings -/

/-- The name of a header with its letters in lower case. -/
def folded (name : String) : String := String.ofList (name.toList.map Char.toLower)

/-- What is said about a header, in any spelling. -/
def entriesOf (headers : Table String) (name : String) : Table String :=
  headers.filter fun header => folded header.1 == folded name

def valueOf? (headers : Table String) (name : String) : Option String :=
  (entriesOf headers name).head?.map Prod.snd

def AtMostOnce (headers : Table String) (name : String) : Prop :=
  (entriesOf headers name).length ≤ 1

def SpelledAlike (headers : Table String) (name : String) : Prop :=
  ∀ first ∈ entriesOf headers name, ∀ second ∈ entriesOf headers name, first.1 = second.1

variable {headers : Table String} {name spelling : String}

theorem mem_entriesOf {header : String × String} :
    header ∈ entriesOf headers name ↔ header ∈ headers ∧ folded header.1 = folded name := by
  rw [entriesOf, List.mem_filter, beq_iff_eq]

theorem AtMostOnce.eq {first second : String × String} (once : AtMostOnce headers name)
    (isFirst : first ∈ entriesOf headers name) (isSecond : second ∈ entriesOf headers name) :
    first = second := by
  unfold AtMostOnce at once
  generalize entriesOf headers name = entries at once isFirst isSecond
  cases entries with
  | nil => cases isFirst
  | cons head tail =>
      have noMore : tail = [] := by
        simpa using once
      subst noMore
      rw [List.mem_singleton.mp isFirst, List.mem_singleton.mp isSecond]

theorem nodup_keys_of_atMostOnce (once : ∀ name, AtMostOnce headers name) :
    (Table.keys headers).Nodup := by
  refine List.nodup_iff_count_le_one.mpr fun key => Nat.le_trans ?_ (once key)
  rw [Table.keys, List.count_eq_countP, List.countP_map, entriesOf, ← List.countP_eq_length_filter]
  refine List.countP_mono_left fun header _ same => ?_
  rw [beq_iff_eq.mp same, beq_self_eq_true]

/-- A header with one spelling is found under that. -/
theorem entriesOf_eq (once : (Table.keys headers).Nodup)
    (sameHeader : folded spelling = folded name)
    (spelled : ∀ header ∈ entriesOf headers name, header.1 = spelling) :
    entriesOf headers name =
      (Table.get? headers spelling).toList.map fun value => (spelling, value) := by
  induction headers with
  | nil => rfl
  | cons head tail induction =>
      rcases List.nodup_cons.mp once with ⟨headOnce, tailOnce⟩
      by_cases isSpelling : head.1 = spelling
      · subst isSpelling
        have kept : entriesOf (head :: tail) name = head :: entriesOf tail name :=
          List.filter_cons_of_pos (beq_iff_eq.mpr sameHeader)
        rw [kept] at spelled ⊢
        rw [induction tailOnce fun header member => spelled header (List.mem_cons_of_mem _ member),
          Table.get?_eq_none_of_not_mem headOnce, Table.get?, if_pos rfl]
        rfl
      · have leftOut : entriesOf (head :: tail) name = entriesOf tail name := by
          refine List.filter_cons_of_neg fun same => isSpelling (spelled head ?_)
          exact mem_entriesOf.mpr ⟨List.mem_cons_self, beq_iff_eq.mp same⟩
        rw [leftOut] at spelled ⊢
        rw [induction tailOnce spelled, Table.get?, if_neg isSpelling]

theorem atMostOnce_of_spelled (once : (Table.keys headers).Nodup)
    (sameHeader : folded spelling = folded name)
    (spelled : ∀ header ∈ entriesOf headers name, header.1 = spelling) :
    AtMostOnce headers name := by
  rw [AtMostOnce, entriesOf_eq once sameHeader spelled]
  cases Table.get? headers spelling <;> simp

theorem valueOf?_of_spelled (once : (Table.keys headers).Nodup)
    (sameHeader : folded spelling = folded name)
    (spelled : ∀ header ∈ entriesOf headers name, header.1 = spelling) :
    valueOf? headers name = Table.get? headers spelling := by
  rw [valueOf?, entriesOf_eq once sameHeader spelled]
  cases Table.get? headers spelling <;> rfl

theorem SpelledAlike.exists_spelling (alike : SpelledAlike headers name) :
    ∃ spelling, folded spelling = folded name ∧
      ∀ header ∈ entriesOf headers name, header.1 = spelling := by
  cases given : entriesOf headers name with
  | nil => exact ⟨name, rfl, by simp⟩
  | cons head tail =>
      have isEntry : head ∈ entriesOf headers name := given ▸ List.mem_cons_self
      exact ⟨head.1, (mem_entriesOf.mp isEntry).2,
        fun header member => alike header (given ▸ member) head isEntry⟩

/-- Every spelling of a header is kept when headers are merged. -/
theorem exists_mem_merged {header : String × String} (isEntry : header ∈ entriesOf headers name) :
    ∃ value, (header.1, value) ∈ entriesOf (Table.ofList headers) name := by
  rcases mem_entriesOf.mp isEntry with ⟨member, sameHeader⟩
  rcases Table.exists_get?_of_mem (List.mem_reverse.mpr member) with ⟨value, found⟩
  rw [← Table.get?_ofList] at found
  exact ⟨value, mem_entriesOf.mpr ⟨Table.mem_of_get? found, sameHeader⟩⟩

/-! ## Precedence -/

/-- There is one value of the header, and it comes from the first that has one: the credentials, the
call and then the service. -/
structure HeedsPrecedence (headers service call credentials : Table String) (name : String) : Prop
    where
  once : AtMostOnce headers name
  value : valueOf? headers name =
    (valueOf? credentials name).or ((valueOf? call name).or (valueOf? service name))

section Merged

variable {service call credentials : Table String} (serviceOnce : (Table.keys service).Nodup)
  (callOnce : (Table.keys call).Nodup) (credentialsOnce : (Table.keys credentials).Nodup)

include serviceOnce callOnce credentialsOnce

/-- Each spelling has the value that the precedence gives it. -/
theorem get?_merged (spelling : String) :
    Table.get? (Table.ofList (service ++ call ++ credentials)) spelling =
      (Table.get? credentials spelling).or
        ((Table.get? call spelling).or (Table.get? service spelling)) := by
  rw [Table.get?_ofList, List.reverse_append, List.reverse_append, Table.get?_append,
    Table.get?_append, Table.get?_reverse serviceOnce, Table.get?_reverse callOnce,
    Table.get?_reverse credentialsOnce]

theorem heedsPrecedence_merged_iff (name : String) :
    HeedsPrecedence (Table.ofList (service ++ call ++ credentials)) service call credentials name ↔
      SpelledAlike (service ++ call ++ credentials) name := by
  have mergedOnce := (Table.ordered_ofList (service ++ call ++ credentials)).nodup_keys
  constructor
  · intro heeds first isFirst second isSecond
    rcases exists_mem_merged isFirst with ⟨value, isEntry⟩
    rcases exists_mem_merged isSecond with ⟨otherValue, isOtherEntry⟩
    have same := heeds.once.eq isEntry isOtherEntry
    exact (Prod.mk.inj same).1
  · intro alike
    rcases alike.exists_spelling with ⟨spelling, sameHeader, spelled⟩
    have ofSources {headers : Table String}
        (given : ∀ header ∈ headers, header ∈ service ++ call ++ credentials) :
        ∀ header ∈ entriesOf headers name, header.1 = spelling := by
      intro header isEntry
      rcases mem_entriesOf.mp isEntry with ⟨member, same⟩
      exact spelled header (mem_entriesOf.mpr ⟨given header member, same⟩)
    have ofMerged := ofSources fun header member => Table.mem_ofList member
    refine ⟨atMostOnce_of_spelled mergedOnce sameHeader ofMerged, ?_⟩
    rw [valueOf?_of_spelled mergedOnce sameHeader ofMerged,
      valueOf?_of_spelled serviceOnce sameHeader (ofSources (by simp +contextual)),
      valueOf?_of_spelled callOnce sameHeader (ofSources (by simp +contextual)),
      valueOf?_of_spelled credentialsOnce sameHeader (ofSources (by simp +contextual))]
    exact get?_merged serviceOnce callOnce credentialsOnce spelling

end Merged

end Headers

namespace Request

variable {config : Option ApiConfig} {call : ApiCall} {data : Json}

def serviceHeaders (config : Option ApiConfig) (data : Json) : Table String :=
  renderHeaders ((config.map ApiConfig.headers).getD []) data

def callHeaders (call : ApiCall) (data : Json) : Table String := renderHeaders call.headers data

/-- The headers that tell the backend who is calling. -/
def credentialHeaders (config : Option ApiConfig) (data : Json) : Table String :=
  ((credentialsOf config data).toOption.getD .none).headers

theorem headers_of_build {request : Request} (builds : build config call data = .ok request) :
    request.headers = Table.ofList
      (serviceHeaders config data ++ callHeaders call data ++ credentialHeaders config data) :=
  (of_build builds).2.1

theorem keys_renderHeaders (headers : Table String) (data : Json) :
    Table.keys (renderHeaders headers data) = Table.keys headers := by
  simp [Table.keys, renderHeaders]

/-- Credentials have one header at most. -/
theorem exists_credentialHeader (config : Option ApiConfig) (data : Json) :
    ∃ header : Option (String × String), credentialHeaders config data = header.toList := by
  unfold credentialHeaders credentialsOf
  cases config.bind ApiConfig.authentication with
  | none => exact ⟨none, rfl⟩
  | some authentication =>
      have ofKey (key : String) : ∃ header : Option (String × String),
          (authentication.placeKey data key).headers = header.toList := by
        unfold Authentication.placeKey
        split
        · exact ⟨none, rfl⟩
        · exact ⟨some _, rfl⟩
        · split <;> exact ⟨some _, rfl⟩
      dsimp only
      unfold Authentication.resolve
      split
      · exact ⟨none, rfl⟩
      · split
        · exact ⟨some _, rfl⟩
        · exact ⟨none, rfl⟩
      · split
        · exact ⟨some _, rfl⟩
        · exact ⟨none, rfl⟩
      · split
        · exact ofKey _
        · exact ⟨none, rfl⟩

theorem nodup_keys_credentialHeaders (config : Option ApiConfig) (data : Json) :
    (Table.keys (credentialHeaders config data)).Nodup := by
  rcases exists_credentialHeader config data with ⟨header, isHeader⟩
  rw [isHeader]
  cases header with
  | none => exact List.nodup_nil
  | some header => exact List.nodup_singleton header.1

end Request

/-- Of headers with one spelling those of the credentials come first, then those of the call, then
those of the service. Whatever its spelling, a header comes once and with the value of this
precedence just if the three spell it alike. -/
theorem header_precedence_needs_one_spelling {config : Option ApiConfig} {call : ApiCall}
    {data : Json} {request : Request}
    (serviceOnce : ∀ name, Headers.AtMostOnce ((config.map ApiConfig.headers).getD []) name)
    (callOnce : ∀ name, Headers.AtMostOnce call.headers name)
    (builds : Request.build config call data = .ok request) (name : String) :
    Table.get? request.headers name =
        (Table.get? (Request.credentialHeaders config data) name).or
          ((Table.get? (Request.callHeaders call data) name).or
            (Table.get? (Request.serviceHeaders config data) name)) ∧
    (Headers.HeedsPrecedence request.headers (Request.serviceHeaders config data)
        (Request.callHeaders call data) (Request.credentialHeaders config data) name ↔
      Headers.SpelledAlike (Request.serviceHeaders config data ++ Request.callHeaders call data ++
        Request.credentialHeaders config data) name) := by
  have serviceKeys : (Table.keys (Request.serviceHeaders config data)).Nodup := by
    rw [Request.serviceHeaders, Request.keys_renderHeaders]
    exact Headers.nodup_keys_of_atMostOnce serviceOnce
  have callKeys : (Table.keys (Request.callHeaders call data)).Nodup := by
    rw [Request.callHeaders, Request.keys_renderHeaders]
    exact Headers.nodup_keys_of_atMostOnce callOnce
  have credentialKeys := Request.nodup_keys_credentialHeaders config data
  rw [Request.headers_of_build builds]
  exact ⟨Headers.get?_merged serviceKeys callKeys credentialKeys name,
    Headers.heedsPrecedence_merged_iff serviceKeys callKeys credentialKeys name⟩

namespace Sample

/-- A service that shows a token and has one header of its own. -/
def tokenService (name value : String) : ApiConfig :=
  { (default : ApiConfig) with
    baseUrl := "https://api.test"
    headers := [(name, value)]
    authentication := some { scheme := .bearer, credentials := [("token", "abc")] } }

def plainCall : ApiCall := { (default : ApiCall) with endpoint := "/x" }

theorem tokenService_once (name value : String) (header : String) :
    Headers.AtMostOnce (((some (tokenService name value)).map ApiConfig.headers).getD []) header :=
  List.length_filter_le _ [(name, value)]

theorem plainCall_once (header : String) : Headers.AtMostOnce plainCall.headers header :=
  Nat.zero_le 1

end Sample

theorem token_comes_before_own_header :
    (∀ name, Headers.AtMostOnce [("Authorization", "Basic x")] name) ∧
    (∀ name, Headers.AtMostOnce Sample.plainCall.headers name) ∧
    ∃ request, Request.build (some (Sample.tokenService "Authorization" "Basic x")) Sample.plainCall
        .null = .ok request ∧
      Headers.HeedsPrecedence request.headers [("Authorization", "Basic x")] []
        [("Authorization", "Bearer abc")] "authorization" := by
  have serviceOnce := Sample.tokenService_once "Authorization" "Basic x"
  have built : ∃ request, Request.build (some (Sample.tokenService "Authorization" "Basic x"))
      Sample.plainCall .null = .ok request := Request.exists_build (by decide +kernel)
  rcases built with ⟨request, builds⟩
  have service : Request.serviceHeaders (some (Sample.tokenService "Authorization" "Basic x")) .null =
      [("Authorization", "Basic x")] := by decide +kernel
  have credentials : Request.credentialHeaders
      (some (Sample.tokenService "Authorization" "Basic x")) .null =
        [("Authorization", "Bearer abc")] := by decide +kernel
  have law := (header_precedence_needs_one_spelling serviceOnce Sample.plainCall_once builds
    "authorization").2
  rw [service, credentials] at law
  refine ⟨serviceOnce, Sample.plainCall_once, request, builds, law.mpr ?_⟩
  unfold Headers.SpelledAlike
  decide

/-- Of two spellings both are kept, and two values are sent. -/
theorem own_header_is_sent_beside_token :
    (∀ name, Headers.AtMostOnce [("authorization", "Basic x")] name) ∧
    (∀ name, Headers.AtMostOnce Sample.plainCall.headers name) ∧
    ∃ request, Request.build (some (Sample.tokenService "authorization" "Basic x")) Sample.plainCall
        .null = .ok request ∧
      request.headers = [("Authorization", "Bearer abc"), ("authorization", "Basic x")] ∧
      ¬Headers.AtMostOnce request.headers "authorization" := by
  have built : ∃ request, Request.build (some (Sample.tokenService "authorization" "Basic x"))
      Sample.plainCall .null = .ok request := Request.exists_build (by decide +kernel)
  rcases built with ⟨request, builds⟩
  have headers : request.headers =
      [("Authorization", "Bearer abc"), ("authorization", "Basic x")] := by
    rw [Request.headers_of_build builds]
    decide +kernel
  refine ⟨Sample.tokenService_once "authorization" "Basic x", Sample.plainCall_once, request, builds,
    headers, ?_⟩
  rw [headers]
  unfold Headers.AtMostOnce
  decide

end Ussd
