import Ussd.Proofs.RoundTrip
import Ussd.Service.Definition

/-! # The normal form of a service definition

A definition is written with its defaults filled in, its absent options left out and its names in
one spelling. Every part of a definition round trips with this form, so that the form decodes to
the definition that it was written for. -/

namespace Ussd

/-! ## The backend -/

namespace Authentication

theorem roundTrips : decode.RoundTrips toJson where
  again {value authentication} reads := by
    simp only [decode, bind_eq_ok, pure_eq_ok] at reads
    obtain ⟨record, isRecord, scheme, readsScheme, credentials, readsCredentials, rfl⟩ := reads
    obtain ⟨written, isWritten, rewritten⟩ := Record.rewritten isRecord
      [("type", .text scheme.label), ("credentials", textTable credentials)]
    have schemeTrips : AuthScheme.decode.RoundTrips fun scheme => .text scheme.label :=
      Decoder.choice_roundTrips fun scheme => by cases scheme <;> decide
    have schemeAgain := rewritten.defaulted schemeTrips rfl readsScheme (by simp) rfl
    have credentialsAgain := rewritten.defaulted Decoder.textTable_roundTrips rfl readsCredentials
      (by simp) rfl
    simp only [decode, toJson, isWritten, bind_eq_ok]
    exact ⟨written, rfl, scheme, schemeAgain, credentials, credentialsAgain, rfl⟩
  null _ isNull := nomatch isNull

end Authentication

namespace ApiConfig

theorem roundTrips : decode.RoundTrips toJson where
  again {value config} reads := by
    simp only [decode, bind_eq_ok, pure_eq_ok] at reads
    obtain ⟨record, isRecord, baseUrl, readsUrl, timeout, readsTimeout, attempts, readsAttempts,
      authentication, readsAuthentication, headers, readsHeaders, rfl⟩ := reads
    obtain ⟨written, isWritten, rewritten⟩ := Record.rewritten isRecord
      ([("baseUrl", .text baseUrl), ("retryAttempts", .natural attempts),
          ("headers", textTable headers)]
        ++ fieldIfSome "timeout" (timeout.map Json.natural)
        ++ fieldIfSome "authentication" (authentication.map Authentication.toJson))
    have urlAgain := rewritten.defaulted Decoder.text_roundTrips rfl readsUrl
      (by simp [fieldNames]) (by simp [Table.get?])
    have timeoutAgain := rewritten.voluntary Decoder.word_roundTrips readsTimeout
      (by simp [fieldNames]) (by simp [Table.get?])
    have attemptsAgain := rewritten.defaulted (Decoder.natural_roundTrips _) rfl readsAttempts
      (by simp [fieldNames]) (by simp [Table.get?])
    have authenticationAgain := rewritten.voluntary Authentication.roundTrips readsAuthentication
      (by simp [fieldNames]) (by simp [Table.get?])
    have headersAgain := rewritten.defaulted Decoder.textTable_roundTrips rfl readsHeaders
      (by simp [fieldNames]) (by simp [Table.get?])
    simp only [decode, toJson, isWritten, bind_eq_ok]
    exact ⟨written, rfl, baseUrl, urlAgain, timeout, timeoutAgain, attempts, attemptsAgain,
      authentication, authenticationAgain, headers, headersAgain, rfl⟩
  null _ isNull := nomatch isNull

end ApiConfig

namespace SessionLimits

theorem roundTrips : decode.RoundTrips toJson where
  again {value limits} reads := by
    simp only [decode, bind_eq_ok, pure_eq_ok] at reads
    obtain ⟨record, isRecord, timeout, readsTimeout, idle, readsIdle, rfl⟩ := reads
    obtain ⟨written, isWritten, rewritten⟩ := Record.rewritten isRecord
      (fieldIfSome "timeoutSeconds" (timeout.map Json.natural)
        ++ fieldIfSome "maxInactivitySeconds" (idle.map Json.natural))
    have timeoutAgain := rewritten.voluntary Decoder.word_roundTrips readsTimeout
      (by simp) (by simp)
    have idleAgain := rewritten.voluntary Decoder.word_roundTrips readsIdle (by simp) (by simp)
    simp only [decode, toJson, isWritten, bind_eq_ok]
    exact ⟨written, rfl, timeout, timeoutAgain, idle, idleAgain, rfl⟩
  null _ isNull := nomatch isNull

end SessionLimits

/-! ## Actions -/

namespace CallOutcome

theorem roundTrips : decode.RoundTrips toJson where
  again {value outcome} reads := by
    simp only [decode, bind_eq_ok, pure_eq_ok] at reads
    obtain ⟨record, isRecord, nextState, readsState, mapping, readsMapping, message, readsMessage,
      rfl⟩ := reads
    obtain ⟨written, isWritten, rewritten⟩ := Record.rewritten isRecord
      (fieldIfSome "nextState" (nextState.map Json.text)
        ++ fieldIfSome "responseMapping" (mapping.map textTable)
        ++ fieldIfSome "message" (message.map Json.text))
    have stateAgain := rewritten.voluntary Decoder.text_roundTrips readsState (by simp) (by simp)
    have mappingAgain := rewritten.voluntary Decoder.textTable_roundTrips readsMapping (by simp)
      (by simp)
    have messageAgain := rewritten.voluntary Decoder.text_roundTrips readsMessage (by simp)
      (by simp)
    simp only [decode, toJson, isWritten, bind_eq_ok]
    exact ⟨written, rfl, nextState, stateAgain, mapping, mappingAgain, message, messageAgain, rfl⟩
  null _ isNull := nomatch isNull

end CallOutcome

namespace ApiCall

/-- A call is decoded again from any object that shows its fields. -/
theorem decode_again {value : Json} {call : ApiCall} (reads : decode (.ofJson value) = .ok call)
    {table : Table Json} (ordered : table.Ordered)
    (same : ∀ name ∈ fieldNames, Table.get? table name = Table.get? call.fields.reverse name) :
    decode (.ofJson (.object table)) = .ok call := by
  simp only [decode, bind_eq_ok, pure_eq_ok] at reads
  obtain ⟨record, isRecord, method, readsMethod, endpoint, readsEndpoint, headers, readsHeaders,
    body, readsBody, mapping, readsMapping, timeout, readsTimeout, success, readsSuccess,
    failure, readsFailure, rfl⟩ := reads
  obtain ⟨written, isWritten, rewritten⟩ := Record.rewritten_of_same isRecord ordered same
  have methodTrips : Method.decode.RoundTrips fun method => .text method.label :=
    Decoder.choice_roundTrips fun method => by cases method <;> decide
  have methodAgain := rewritten.defaulted methodTrips rfl readsMethod
    (by simp [fieldNames]) (by simp [fields, Table.get?])
  have endpointAgain := rewritten.defaulted Decoder.text_roundTrips rfl readsEndpoint
    (by simp [fieldNames]) (by simp [fields, Table.get?])
  have headersAgain := rewritten.defaulted Decoder.textTable_roundTrips rfl readsHeaders
    (by simp [fieldNames]) (by simp [fields, Table.get?])
  have bodyAgain := rewritten.voluntary Decoder.json_roundTrips readsBody
    (by simp [fieldNames]) (by simp [fields, Table.get?])
  have mappingAgain := rewritten.voluntary Decoder.textTable_roundTrips readsMapping
    (by simp [fieldNames]) (by simp [fields, Table.get?])
  have timeoutAgain := rewritten.voluntary Decoder.word_roundTrips readsTimeout
    (by simp [fieldNames]) (by simp [fields, Table.get?])
  have successAgain := rewritten.voluntary CallOutcome.roundTrips readsSuccess
    (by simp [fieldNames]) (by simp [fields, Table.get?])
  have failureAgain := rewritten.voluntary CallOutcome.roundTrips readsFailure
    (by simp [fieldNames]) (by simp [fields, Table.get?])
  simp only [decode, isWritten, bind_eq_ok]
  exact ⟨written, rfl, method, methodAgain, endpoint, endpointAgain, headers, headersAgain,
    body, bodyAgain, mapping, mappingAgain, timeout, timeoutAgain, success, successAgain,
    failure, failureAgain, rfl⟩

end ApiCall

namespace RecordAccess

/-- What an action on records works with is decoded again from any object that shows its fields. -/
theorem decode_again {value : Json} {access : RecordAccess}
    (reads : decode (.ofJson value) = .ok access) {table : Table Json} (ordered : table.Ordered)
    (same : ∀ name ∈ fieldNames, Table.get? table name = Table.get? access.fields.reverse name) :
    decode (.ofJson (.object table)) = .ok access := by
  simp only [decode, bind_eq_ok, pure_eq_ok] at reads
  obtain ⟨record, isRecord, storageKey, readsKey, storeAs, readsStoreAs, kept, readsKept, rfl⟩ :=
    reads
  obtain ⟨written, isWritten, rewritten⟩ := Record.rewritten_of_same isRecord ordered same
  have keyAgain := rewritten.required Decoder.text_roundTrips readsKey
    (by simp [fieldNames]) (by simp [fields, Table.get?])
  have storeAsAgain := rewritten.voluntary Decoder.text_roundTrips readsStoreAs
    (by simp [fieldNames]) (by simp [fields, Table.get?])
  have keptAgain := rewritten.voluntary Decoder.json_roundTrips readsKept
    (by simp [fieldNames]) (by simp [fields, Table.get?])
  simp only [decode, isWritten, bind_eq_ok]
  exact ⟨written, rfl, storageKey, keyAgain, storeAs, storeAsAgain, kept, keptAgain, rfl⟩

end RecordAccess

namespace Action

/-- The fields of an action besides the one that names it. -/
def fields : Action → List (String × Json)
  | .call request => request.fields
  | .access _ target => target.fields
  | .nothing => []

theorem toJson_eq (action : Action) :
    action.toJson = .ofFields (("type", .text action.kind) :: action.fields) := by
  cases action <;> rfl

/-- No other field has the name of the one that names the action. -/
theorem get?_fields_type (action : Action) : Table.get? action.fields.reverse "type" = none := by
  cases action <;> simp [fields, ApiCall.fields, RecordAccess.fields, Table.get?]

/-- The fields besides the name of the action are those of a value. -/
theorem ofJson_of_splitKind {value : Json} {kind : String} {inner : Node}
    (splits : splitKind (.ofJson value) = .ok (kind, inner)) :
    ∃ innerValue, inner = .ofJson innerValue := by
  cases value with
  | object fields =>
      simp only [Node.ofJson, splitKind] at splits
      split at splits
      · cases splits
      · obtain ⟨_, _, isInner⟩ := map_eq_ok.mp splits
        cases isInner
        rw [Node.ofFields_filter]
        exact ⟨.object _, rfl⟩
      · cases splits
  | list items =>
      cases items with
      | nil => cases splits
      | cons first rest =>
          obtain ⟨_, _, isInner⟩ := map_eq_ok.mp splits
          cases isInner
          exact ⟨.list rest, rfl⟩
  | _ => cases splits

/-- The fields of the written action besides the one that names it. -/
def writtenFields (action : Action) : Table Json :=
  (Table.ofList (("type", .text action.kind) :: action.fields)).filter fun field =>
    field.1 != "type"

theorem ordered_writtenFields (action : Action) : action.writtenFields.Ordered :=
  (Table.ordered_ofList _).filter _

theorem get?_writtenFields (action : Action) {name : String} (different : name ≠ "type") :
    Table.get? action.writtenFields name = Table.get? action.fields.reverse name := by
  rw [writtenFields, Table.get?_filter_other _ different, Table.get?_ofList, List.reverse_cons,
    Table.get?_append]
  simp [Table.get?, Ne.symm different]

theorem splitKind_toJson (action : Action) :
    splitKind (.ofJson action.toJson) = .ok (action.kind, .ofJson (.object action.writtenFields)) := by
  have named : Table.get? (Table.ofList (("type", .text action.kind) :: action.fields)) "type" =
      some (.text action.kind) := by
    rw [Table.get?_ofList, List.reverse_cons, Table.get?_append, get?_fields_type]
    rfl
  have collected := Record.collect_single (Table.ordered_ofList _) named
  rw [toJson_eq]
  simp only [Json.ofFields, Node.ofJson, splitKind, collected, Decoder.text, Except.map,
    Node.ofFields_filter, writtenFields]

theorem eq_nothing_of_decodeNothing {node : Node} {action : Action}
    (reads : decodeNothing node = .ok action) : action = .nothing := by
  unfold decodeNothing at reads
  split at reads <;> cases reads <;> rfl

theorem roundTrips : decode.RoundTrips toJson where
  again {value action} reads := by
    simp only [decode, bind_eq_ok] at reads
    obtain ⟨_, _, ⟨kind, inner⟩, splits, reads⟩ := reads
    obtain ⟨innerValue, rfl⟩ := ofJson_of_splitKind splits
    simp only [Node.settle_ofJson] at reads
    obtain ⟨denoted, isDenoted, _⟩ := Node.toJson_ofJson action.toJson
    have access_again {operation : RecordOperation} {target : RecordAccess}
        (readsTarget : RecordAccess.decode (.ofJson innerValue) = .ok target) :
        RecordAccess.decode (.ofJson (.object (access operation target).writtenFields)) =
          .ok target :=
      RecordAccess.decode_again readsTarget (ordered_writtenFields _) fun name isName =>
        get?_writtenFields _ (by rintro rfl; simp [RecordAccess.fieldNames] at isName)
    simp only [decode, bind_eq_ok]
    refine ⟨denoted, isDenoted, _, splitKind_toJson action, ?_⟩
    simp only [Node.settle_ofJson]
    split at reads
    case h_1 =>
      obtain ⟨request, readsRequest, rfl⟩ := map_eq_ok.mp reads
      have requestAgain := ApiCall.decode_again readsRequest
        (ordered_writtenFields (.call request)) fun name isName =>
          get?_writtenFields _ (by rintro rfl; simp [ApiCall.fieldNames] at isName)
      simp only [Action.kind, requestAgain, Except.map]
    case h_6 =>
      obtain rfl := eq_nothing_of_decodeNothing reads
      rfl
    case h_7 => cases reads
    all_goals
      obtain ⟨target, readsTarget, rfl⟩ := map_eq_ok.mp reads
      simp only [Action.kind, access_again readsTarget, Except.map]
  null _ isNull := nomatch isNull

end Action

/-! ## States -/

namespace ValidationRule

theorem roundTrips : decode.RoundTrips toJson where
  again {value rule} reads := by
    simp only [decode, bind_eq_ok, pure_eq_ok] at reads
    obtain ⟨record, isRecord, kind, readsKind, minLength, readsMinLength, maxLength,
      readsMaxLength, least, readsLeast, greatest, readsGreatest, pattern, readsPattern,
      isOptional, readsOptional, rfl⟩ := reads
    obtain ⟨written, isWritten, rewritten⟩ := Record.rewritten isRecord
      ([("type", .text kind.label), ("optional", .bool isOptional)]
        ++ fieldIfSome "minLength" (minLength.map Json.natural)
        ++ fieldIfSome "maxLength" (maxLength.map Json.natural)
        ++ fieldIfSome "min" (least.map fun bound => .number (.double bound))
        ++ fieldIfSome "max" (greatest.map fun bound => .number (.double bound))
        ++ fieldIfSome "pattern" (pattern.map Json.text))
    have kindTrips : InputKind.decode.RoundTrips fun kind => .text kind.label :=
      Decoder.choice_roundTrips fun kind => by cases kind <;> decide
    have kindAgain := rewritten.defaulted kindTrips rfl readsKind
      (by simp [fieldNames]) (by simp [Table.get?])
    have minLengthAgain := rewritten.voluntary Decoder.word_roundTrips readsMinLength
      (by simp [fieldNames]) (by simp [Table.get?])
    have maxLengthAgain := rewritten.voluntary Decoder.word_roundTrips readsMaxLength
      (by simp [fieldNames]) (by simp [Table.get?])
    have leastAgain := rewritten.voluntary Decoder.double_roundTrips readsLeast
      (by simp [fieldNames]) (by simp [Table.get?])
    have greatestAgain := rewritten.voluntary Decoder.double_roundTrips readsGreatest
      (by simp [fieldNames]) (by simp [Table.get?])
    have patternAgain := rewritten.voluntary Decoder.text_roundTrips readsPattern
      (by simp [fieldNames]) (by simp [Table.get?])
    have optionalAgain := rewritten.defaulted Decoder.bool_roundTrips rfl readsOptional
      (by simp [fieldNames]) (by simp [Table.get?])
    simp only [decode, toJson, isWritten, bind_eq_ok]
    exact ⟨written, rfl, kind, kindAgain, minLength, minLengthAgain, maxLength, maxLengthAgain,
      least, leastAgain, greatest, greatestAgain, pattern, patternAgain, isOptional,
      optionalAgain, rfl⟩
  null _ isNull := nomatch isNull

end ValidationRule

namespace Guard

theorem ofText_label (outcome : Outcome) : ofText outcome.label = .on outcome := by
  cases outcome <;> decide +kernel

/-- A condition that is no outcome's name is kept as it is, and an outcome by its name. -/
theorem ofText_toText (raw : String) : ofText (ofText raw).toText = ofText raw := by
  cases known : Outcome.all.find? (·.label == trimmed raw) with
  | none => simp [ofText, known, toText]
  | some outcome =>
      have isOutcome : ofText raw = .on outcome := by simp [ofText, known]
      rw [isOutcome]
      exact ofText_label outcome

theorem roundTrips : decode.RoundTrips fun guard => .text guard.toText :=
  Decoder.worded_roundTrips ofText_toText

end Guard

namespace Transition

theorem roundTrips : decode.RoundTrips toJson where
  again {value transition} reads := by
    simp only [decode, bind_eq_ok, pure_eq_ok] at reads
    obtain ⟨record, isRecord, input, readsInput, condition, readsCondition, nextState, readsState,
      kept, readsKept, message, readsMessage, rfl⟩ := reads
    obtain ⟨written, isWritten, rewritten⟩ := Record.rewritten isRecord
      ([("nextState", .text nextState)]
        ++ fieldIfSome "input" (input.map Json.text)
        ++ fieldIfSome "condition" (condition.map fun guard => .text guard.toText)
        ++ fieldIfSome "value" kept
        ++ fieldIfSome "message" (message.map Json.text))
    have inputAgain := rewritten.voluntary Decoder.text_roundTrips readsInput
      (by simp [fieldNames]) (by simp [Table.get?])
    have conditionAgain := rewritten.voluntary Guard.roundTrips readsCondition
      (by simp [fieldNames]) (by simp [Table.get?])
    have stateAgain := rewritten.required Decoder.text_roundTrips readsState
      (by simp [fieldNames]) (by simp [Table.get?])
    have keptAgain := rewritten.voluntary Decoder.json_roundTrips readsKept
      (by simp [fieldNames]) (by simp [Table.get?])
    have messageAgain := rewritten.voluntary Decoder.text_roundTrips readsMessage
      (by simp [fieldNames]) (by simp [Table.get?])
    simp only [decode, toJson, isWritten, bind_eq_ok]
    exact ⟨written, rfl, input, inputAgain, condition, conditionAgain, nextState, stateAgain,
      kept, keptAgain, message, messageAgain, rfl⟩
  null _ isNull := nomatch isNull

end Transition

namespace StateType

theorem ofName_label (type : StateType) : ofName type.label = type := by
  cases type <;> decide +kernel

theorem roundTrips : decode.RoundTrips fun type => .text type.label :=
  Decoder.worded_roundTrips fun raw => ofName_label (ofName raw)

end StateType

namespace State

theorem roundTrips : decode.RoundTrips toJson where
  again {value state} reads := by
    simp only [decode, bind_eq_ok, pure_eq_ok] at reads
    obtain ⟨record, isRecord, id, readsId, name, readsName, type, readsType, isInitial,
      readsInitial, message, readsMessage, validation, readsValidation, storeAs, readsStoreAs,
      action, readsAction, transitions, readsTransitions, before, readsBefore, after, readsAfter,
      rfl⟩ := reads
    obtain ⟨written, isWritten, rewritten⟩ := Record.rewritten isRecord
      ([("id", .text id), ("name", .text name), ("type", .text type.label),
          ("isInitial", .bool isInitial), ("message", .text message),
          ("transitions", .list (transitions.map Transition.toJson)),
          ("preActions", .list (before.map Action.toJson)),
          ("postActions", .list (after.map Action.toJson))]
        ++ fieldIfSome "validation" (validation.map ValidationRule.toJson)
        ++ fieldIfSome "storeAs" (storeAs.map Json.text)
        ++ fieldIfSome "action" (action.map Action.toJson))
    have actionsTrip := Decoder.list_roundTrips Action.roundTrips
    have idAgain := rewritten.required Decoder.text_roundTrips readsId
      (by simp [fieldNames]) (by simp [Table.get?])
    have nameAgain := rewritten.defaulted Decoder.text_roundTrips rfl readsName
      (by simp [fieldNames]) (by simp [Table.get?])
    have typeAgain := rewritten.required StateType.roundTrips readsType
      (by simp [fieldNames]) (by simp [Table.get?])
    have initialAgain := rewritten.defaulted Decoder.bool_roundTrips rfl readsInitial
      (by simp [fieldNames]) (by simp [Table.get?])
    have messageAgain := rewritten.defaulted Decoder.text_roundTrips rfl readsMessage
      (by simp [fieldNames]) (by simp [Table.get?])
    have validationAgain := rewritten.voluntary ValidationRule.roundTrips readsValidation
      (by simp [fieldNames]) (by simp [Table.get?])
    have storeAsAgain := rewritten.voluntary Decoder.text_roundTrips readsStoreAs
      (by simp [fieldNames]) (by simp [Table.get?])
    have actionAgain := rewritten.voluntary Action.roundTrips readsAction
      (by simp [fieldNames]) (by simp [Table.get?])
    have transitionsAgain := rewritten.defaulted (Decoder.list_roundTrips Transition.roundTrips)
      rfl readsTransitions (by simp [fieldNames]) (by simp [Table.get?])
    have beforeAgain := rewritten.defaulted actionsTrip rfl readsBefore
      (by simp [fieldNames]) (by simp [Table.get?])
    have afterAgain := rewritten.defaulted actionsTrip rfl readsAfter
      (by simp [fieldNames]) (by simp [Table.get?])
    simp only [decode, toJson, isWritten, bind_eq_ok]
    exact ⟨written, rfl, id, idAgain, name, nameAgain, type, typeAgain, isInitial, initialAgain,
      message, messageAgain, validation, validationAgain, storeAs, storeAsAgain, action,
      actionAgain, transitions, transitionsAgain, before, beforeAgain, after, afterAgain, rfl⟩
  null _ isNull := nomatch isNull

end State

/-! ## Definitions -/

namespace Definition

theorem roundTrips : decode.RoundTrips toJson where
  again {value definition} reads := by
    simp only [decode, bind_eq_ok, pure_eq_ok] at reads
    obtain ⟨record, isRecord, code, readsCode, name, readsName, version, readsVersion, shortCode,
      readsShortCode, description, readsDescription, config, readsConfig, limits, readsLimits,
      states, readsStates, rfl⟩ := reads
    obtain ⟨written, isWritten, rewritten⟩ := Record.rewritten isRecord
      ([("serviceCode", .text code), ("serviceName", .text name), ("version", .text version),
          ("shortCode", .text shortCode), ("sessionConfig", limits.toJson),
          ("states", .list (states.map State.toJson))]
        ++ fieldIfSome "description" (description.map Json.text)
        ++ fieldIfSome "apiConfig" (config.map ApiConfig.toJson))
    have codeAgain := rewritten.required Decoder.text_roundTrips readsCode
      (by simp [fieldNames]) (by simp [Table.get?])
    have nameAgain := rewritten.defaulted Decoder.text_roundTrips rfl readsName
      (by simp [fieldNames]) (by simp [Table.get?])
    have versionAgain := rewritten.defaulted Decoder.text_roundTrips rfl readsVersion
      (by simp [fieldNames]) (by simp [Table.get?])
    have shortCodeAgain := rewritten.defaulted Decoder.text_roundTrips rfl readsShortCode
      (by simp [fieldNames]) (by simp [Table.get?])
    have descriptionAgain := rewritten.voluntary Decoder.text_roundTrips readsDescription
      (by simp [fieldNames]) (by simp [Table.get?])
    have configAgain := rewritten.voluntary ApiConfig.roundTrips readsConfig
      (by simp [fieldNames]) (by simp [Table.get?])
    have limitsAgain := rewritten.defaulted SessionLimits.roundTrips rfl readsLimits
      (by simp [fieldNames]) (by simp [Table.get?])
    have statesAgain := rewritten.defaulted (Decoder.list_roundTrips State.roundTrips) rfl
      readsStates (by simp [fieldNames]) (by simp [Table.get?])
    simp only [decode, toJson, isWritten, bind_eq_ok]
    exact ⟨written, rfl, code, codeAgain, name, nameAgain, version, versionAgain, shortCode,
      shortCodeAgain, description, descriptionAgain, config, configAgain, limits, limitsAgain,
      states, statesAgain, rfl⟩
  null _ isNull := nomatch isNull

end Definition

end Ussd
