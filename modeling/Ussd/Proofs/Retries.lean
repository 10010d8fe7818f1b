import Mathlib.Algebra.GroupWithZero.Nat
import Mathlib.Data.Nat.Find
import Mathlib.Order.Bounds.Defs
import Ussd.Gateway.Actions
import Ussd.Proofs.TurnOutcome

/-! # Repeated attempts

A request is sent again while its attempts fail in a way that another one may mend and attempts are
left. What the attempts of a call are worth is told by what the backend does at each of them. -/

namespace Ussd

/-! ## Attempts one after another -/

section

variable {β : Type} [Backend β] (request : Request) (limit : Nat)

def backendAfter (backend : β) : Nat → β
  | 0 => backend
  | count + 1 => (attempt (backendAfter backend count) request limit).2

/-- The response of an attempt; the first one has the index zero. -/
def responseAt (backend : β) (index : Nat) : Response :=
  (attempt (backendAfter request limit backend index) request limit).1

/-- The attempt ends the call: it need not be repeated, or it is the last that is left. -/
def IsEnd (backend : β) (retries index : Nat) : Prop :=
  index = retries ∨ (responseAt request limit backend index).status.isRetryable = false

variable {request limit} {backend : β}

theorem backendAfter_succ (count : Nat) :
    backendAfter request limit backend (count + 1) =
      backendAfter request limit (attempt backend request limit).2 count := by
  induction count with
  | zero => rfl
  | succ count induction => rw [backendAfter, induction, ← backendAfter]

theorem responseAt_succ (index : Nat) :
    responseAt request limit backend (index + 1) =
      responseAt request limit (attempt backend request limit).2 index := by
  rw [responseAt, backendAfter_succ, responseAt]

theorem isEnd_succ (retries index : Nat) :
    IsEnd request limit backend (retries + 1) (index + 1) ↔
      IsEnd request limit (attempt backend request limit).2 retries index := by
  rw [IsEnd, responseAt_succ, Nat.add_right_cancel_iff, ← IsEnd]

/-- The attempts up to the first that ends the call are made, each with its own wait. -/
theorem attemptFrom_eq (backoff : Nat) {retries last : Nat} (index : Nat)
    (isLast : IsLeast {index | IsEnd request limit backend retries index} last) :
    attemptFrom request limit backoff backend index retries =
      { failed := (List.range last).map fun earlier =>
          { response := responseAt request limit backend earlier
            wait := waitAfter backoff (index + earlier) }
        response := responseAt request limit backend last
        backend := backendAfter request limit backend (last + 1) } := by
  induction retries generalizing backend index last with
  | zero =>
      have atOnce : last = 0 := Nat.le_zero.mp (isLast.2 (.inl rfl))
      rw [atOnce]
      rfl
  | succ retries induction =>
      rw [attemptFrom]
      cases retryable : (attempt backend request limit).1.status.isRetryable with
      | false =>
          have atOnce : last = 0 := Nat.le_zero.mp (isLast.2 (.inr retryable))
          rw [atOnce]
          rfl
      | true =>
          cases last with
          | zero =>
              rcases isLast.1 with none | settled
              · cases none
              · have again : (attempt backend request limit).1.status.isRetryable = false := settled
                rw [retryable] at again
                cases again
          | succ last =>
              have restLast : IsLeast
                  {index | IsEnd request limit (attempt backend request limit).2 retries index}
                  last :=
                ⟨(isEnd_succ retries last).mp isLast.1, fun other isEnd =>
                  Nat.le_of_succ_le_succ (isLast.2 ((isEnd_succ retries other).mpr isEnd))⟩
              have shifted (earlier : Nat) : index + 1 + earlier = index + (earlier + 1) := by
                omega
              rw [List.range_succ_eq_map, List.map_cons, List.map_map, responseAt_succ,
                backendAfter_succ]
              simp only [if_true, induction (index + 1) restLast, shifted, ← responseAt_succ]
              rfl

end

theorem Exchange.elapsed_eq {β : Type} (exchange : Exchange β) :
    exchange.elapsed =
      (exchange.failed.map fun failed => failed.response.duration).sum +
        exchange.response.duration + (exchange.failed.map FailedAttempt.wait).sum := by
  rcases exchange with ⟨failed, response, backend⟩
  induction failed with
  | nil => simp [elapsed]
  | cons first rest induction =>
      simp only [elapsed, List.foldr_cons, List.map_cons, List.sum_cons] at induction ⊢
      omega

/-! ## Backends by what they do at each attempt -/

/-- A reply and how long it takes. -/
structure TimedReply where
  latency : Nat
  reply : Reply

namespace TimedReply

def status (limit : Nat) (timed : TimedReply) : CallStatus :=
  if limit < timed.latency then .timeout
  else
    match timed.reply with
    | .answered code _ _ =>
      match code / 100 with
      | 2 => .success
      | 4 => .clientError
      | _ => .serverError
    | .timedOut => .timeout
    | .unreachable _ => .networkError
    | .broken _ => .networkError

def response (limit : Nat) (timed : TimedReply) : Response :=
  if limit < timed.latency then
    .failure .timeout ("Request timed out after " ++ toString limit ++ "ms") limit
  else timed.reply.response timed.latency

theorem ofCode_eq (code : Nat) :
    CallStatus.ofCode code =
      match code / 100 with
      | 2 => .success
      | 4 => .clientError
      | _ => .serverError := by
  unfold CallStatus.ofCode
  split
  · have hundreds : code / 100 = 2 := by omega
    simp only [hundreds]
  · split
    · have hundreds : code / 100 = 4 := by omega
      simp only [hundreds]
    · split
      · omega
      · omega
      · rfl

theorem status_response (limit : Nat) (timed : TimedReply) :
    (timed.response limit).status = timed.status limit := by
  unfold response status
  split
  · rfl
  · cases timed.reply with
    | answered code headers body => exact ofCode_eq code
    | timedOut | unreachable | broken => rfl

theorem duration_response (limit : Nat) (timed : TimedReply) :
    (timed.response limit).duration = min timed.latency limit := by
  unfold response
  split
  · have cut : min timed.latency limit = limit := by omega
    rw [cut]
    rfl
  · have whole : min timed.latency limit = timed.latency := by omega
    rw [whole]
    cases timed.reply <;> rfl

/-- The reply is no reason for another attempt. -/
def Settles (limit : Nat) (timed : TimedReply) : Prop :=
  timed.status limit = .success ∨ timed.status limit = .clientError

instance (limit : Nat) (timed : TimedReply) : Decidable (timed.Settles limit) :=
  inferInstanceAs (Decidable (timed.status limit = .success ∨ timed.status limit = .clientError))

theorem settles_iff {limit : Nat} {timed : TimedReply} :
    timed.Settles limit ↔ (timed.response limit).status.isRetryable = false := by
  rw [status_response, Settles]
  cases timed.status limit <;> simp [CallStatus.isRetryable]

end TimedReply

/-- A backend with a reply to each attempt, and the requests that it has received in order. -/
structure Timeline where
  replies : Nat → TimedReply
  received : List Request

namespace Timeline

def next (timeline : Timeline) : TimedReply := timeline.replies timeline.received.length

def receive (timeline : Timeline) (request : Request) : Timeline :=
  { timeline with received := timeline.received ++ [request] }

instance : Backend Timeline where
  latency timeline _ := timeline.next.latency
  reply timeline request := (timeline.next.reply, timeline.receive request)
  abandon timeline request := timeline.receive request

theorem attempt_eq (timeline : Timeline) (request : Request) (limit : Nat) :
    attempt timeline request limit =
      (timeline.next.response limit, timeline.receive request) := by
  have latency : Backend.latency timeline request = timeline.next.latency := rfl
  rw [attempt, latency, TimedReply.response]
  rcases Nat.lt_or_ge limit timeline.next.latency with late | inTime
  · rw [if_neg (Nat.not_le.mpr late), if_pos late]
    rfl
  · rw [if_pos inTime, if_neg (Nat.not_lt.mpr inTime)]
    rfl

variable (request : Request) (limit : Nat) (replies : Nat → TimedReply)

/-- Every attempt sends the same request. -/
theorem backendAfter_eq (count : Nat) :
    backendAfter request limit (Timeline.mk replies []) count =
      Timeline.mk replies (List.replicate count request) := by
  induction count with
  | zero => rfl
  | succ count induction =>
      rw [backendAfter, induction, attempt_eq, receive, List.replicate_succ']

theorem responseAt_eq (index : Nat) :
    responseAt request limit (Timeline.mk replies []) index = (replies index).response limit := by
  rw [responseAt, backendAfter_eq, attempt_eq, next, List.length_replicate]

theorem isEnd_iff (retries index : Nat) :
    IsEnd request limit (Timeline.mk replies []) retries index ↔
      index = retries ∨ (replies index).Settles limit := by
  rw [IsEnd, responseAt_eq, TimedReply.settles_iff]

def exchange (backoff last : Nat) : Exchange Timeline where
  failed := (List.range last).map fun index =>
    { response := (replies index).response limit
      wait := waitAfter backoff index }
  response := (replies last).response limit
  backend := { replies := replies, received := List.replicate (last + 1) request }

theorem attemptFrom_eq_exchange (backoff : Nat) {retries last : Nat}
    (isLast : IsLeast {index | index = retries ∨ (replies index).Settles limit} last) :
    attemptFrom request limit backoff (Timeline.mk replies []) 0 retries =
      exchange request limit replies backoff last := by
  have sameEnds : {index | index = retries ∨ (replies index).Settles limit} =
      {index | IsEnd request limit (Timeline.mk replies []) retries index} := by
    ext index
    exact (isEnd_iff request limit replies retries index).symm
  rw [sameEnds] at isLast
  rw [attemptFrom_eq backoff 0 isLast, exchange, backendAfter_eq, responseAt_eq]
  simp only [responseAt_eq, Nat.zero_add]

theorem exists_isLeast_settling (retries : Nat) :
    ∃ last, IsLeast {index | index = retries ∨ (replies index).Settles limit} last := by
  classical
  have found : ∃ index, index = retries ∨ (replies index).Settles limit := ⟨retries, .inl rfl⟩
  exact ⟨Nat.find found, Nat.find_spec found, fun index ends => Nat.find_min' found ends⟩

theorem attempts_exchange (backoff last : Nat) :
    (exchange request limit replies backoff last).attempts = last + 1 := by
  simp [Exchange.attempts, exchange]

theorem waits_exchange (backoff last : Nat) :
    (exchange request limit replies backoff last).failed.map FailedAttempt.wait =
      (List.range last).map (waitAfter backoff) := by
  simp [exchange]

/-- The time of a call: its attempts, each cut at the limit, and the waits between them. -/
theorem elapsed_exchange (backoff last : Nat) :
    (exchange request limit replies backoff last).elapsed =
      ((List.range (last + 1)).map fun index => min (replies index).latency limit).sum +
        ((List.range last).map (waitAfter backoff)).sum := by
  have durations : ((exchange request limit replies backoff last).failed.map
      fun failed => failed.response.duration) =
      (List.range last).map fun index => min (replies index).latency limit := by
    simp [exchange, TimedReply.duration_response]
  rw [Exchange.elapsed_eq, waits_exchange, durations, List.range_succ, List.map_append,
    List.sum_append, exchange, TimedReply.duration_response]
  rfl

end Timeline

/-! ## Waits in machine words -/

/-- A span of time as seconds of 64 bits and the nanoseconds of a second that has begun. -/
structure Span where
  seconds : Nat
  nanoseconds : Nat
  secondsFit : seconds < 2 ^ 64
  nanosecondsFit : nanoseconds < 10 ^ 9

namespace Span

def ofMillis (millis : Nat) (fits : millis < 2 ^ 64) : Span where
  seconds := millis / 1000
  nanoseconds := millis % 1000 * 10 ^ 6
  secondsFit := by omega
  nanosecondsFit := by omega

/-- The span multiplied by a factor of 32 bits, if no product or sum exceeds 64 bits. -/
def scale? (span : Span) (factor : UInt32) : Option Span :=
  let nanoseconds := span.nanoseconds * factor.toNat
  let seconds := span.seconds * factor.toNat
  if nanoseconds < 2 ^ 64 ∧ seconds < 2 ^ 64 then
    if fits : seconds + nanoseconds / 10 ^ 9 < 2 ^ 64 then
      some
        { seconds := seconds + nanoseconds / 10 ^ 9
          nanoseconds := nanoseconds % 10 ^ 9
          secondsFit := fits
          nanosecondsFit := Nat.mod_lt _ (by decide) }
    else none
  else none

def totalNanoseconds (span : Span) : Nat := span.seconds * 10 ^ 9 + span.nanoseconds

theorem totalNanoseconds_ofMillis {millis : Nat} (fits : millis < 2 ^ 64) :
    (ofMillis millis fits).totalNanoseconds = millis * 10 ^ 6 := by
  simp only [totalNanoseconds, ofMillis]
  omega

theorem exists_scale? {span : Span} {factor : UInt32}
    (nanoseconds : span.nanoseconds * factor.toNat < 2 ^ 64)
    (seconds : span.seconds * factor.toNat + span.nanoseconds * factor.toNat / 10 ^ 9 < 2 ^ 64) :
    ∃ scaled, span.scale? factor = some scaled ∧
      scaled.totalNanoseconds = span.totalNanoseconds * factor.toNat := by
  have products : span.nanoseconds * factor.toNat < 2 ^ 64 ∧
      span.seconds * factor.toNat < 2 ^ 64 := by omega
  simp only [scale?, if_pos products, dif_pos seconds]
  have product : (span.seconds * 10 ^ 9 + span.nanoseconds) * factor.toNat =
      span.seconds * factor.toNat * 10 ^ 9 + span.nanoseconds * factor.toNat := by
    rw [Nat.add_mul, Nat.mul_right_comm]
  refine ⟨_, rfl, ?_⟩
  simp only [totalNanoseconds, product]
  omega

end Span

/-- The factor of the wait after an attempt; only the low five bits of a shift count. -/
def waitFactor (index : Nat) : UInt32 := 1 <<< (min index 6).toUInt32

/-- The factor is the power itself: the shift loses no bit. -/
theorem toNat_waitFactor (index : Nat) : (waitFactor index).toNat = 2 ^ min index 6 := by
  have bound : min index 6 < 7 := by omega
  have each : ∀ shift < 7, ((1 : UInt32) <<< shift.toUInt32).toNat = 2 ^ shift := by decide
  exact each _ bound

/-- No product exceeds its word, and the span is the wait. -/
theorem exists_wait_span {backoff : Nat} (fits : backoff < 2 ^ 64) (index : Nat) :
    ∃ span, (Span.ofMillis backoff fits).scale? (waitFactor index) = some span ∧
      span.totalNanoseconds = waitAfter backoff index * 10 ^ 6 := by
  have power : Nat.pow 2 (min index 6) = (waitFactor index).toNat := (toNat_waitFactor index).symm
  have factor : (waitFactor index).toNat ≤ 2 ^ 6 := by
    rw [toNat_waitFactor]
    exact Nat.pow_le_pow_right (by decide) (Nat.min_le_right _ _)
  have nanoseconds : backoff % 1000 * 10 ^ 6 * (waitFactor index).toNat ≤ 10 ^ 9 * 2 ^ 6 :=
    Nat.mul_le_mul (by omega) factor
  have seconds : backoff / 1000 * (waitFactor index).toNat ≤ 2 ^ 64 / 1000 * 2 ^ 6 :=
    Nat.mul_le_mul (by omega) factor
  rw [waitAfter, power, Nat.mul_right_comm, ← Span.totalNanoseconds_ofMillis fits]
  apply Span.exists_scale?
  · simp only [Span.ofMillis]
    omega
  · simp only [Span.ofMillis]
    omega

/-! ## Calls -/

/-- Nothing of a call whose request cannot be built reaches the backend. -/
theorem on_callBackend_of_fault {β ε : Type} [Backend β] (setting : Setting)
    {config : Option ApiConfig} {call : ApiCall} {data : Json} {fault : RequestFault}
    (refused : Request.build config call data = .error fault) (gateway : Gateway β) :
    ∃ response after, (callBackend setting config call data : Run β ε Response).on gateway =
      (.ok response, after) ∧ response.status = .clientError ∧ after.backend = gateway.backend := by
  have unsent : invoke setting.timing config call data gateway.backend = .unsent fault := by
    rw [invoke, refused]
  unfold callBackend
  simp only [Run.on_bind, Run.on_noteAll, Run.on_get, unsent, Run.on_note, Run.on_pure]
  exact ⟨_, _, rfl, rfl, rfl⟩

/-- A call makes one attempt more than it has failed attempts to repeat: it ends with the first reply
that settles it or with the last attempt that is left. -/
theorem calls_are_retried (timing : CallTiming) (config : Option ApiConfig) (call : ApiCall)
    (data : Json) (replies : Nat → TimedReply) :
    let limit := callLimit timing config call
    let retries := (config.map ApiConfig.retryAttempts).getD 0
    (∀ request, Request.build config call data = .ok request →
      ∃ last exchange,
        IsLeast {index | index = retries ∨ (replies index).Settles limit} last ∧
        invoke timing config call data (Timeline.mk replies []) = .sent request exchange ∧
        exchange.backend.received = List.replicate (last + 1) request ∧
        exchange.attempts = last + 1 ∧
        exchange.response = (replies last).response limit ∧
        exchange.response.status = (replies last).status limit ∧
        exchange.failed.map FailedAttempt.wait =
          (List.range last).map (fun index => timing.backoff * 2 ^ min index 6) ∧
        exchange.elapsed =
          ((List.range (last + 1)).map fun index => min (replies index).latency limit).sum +
            ((List.range last).map fun index => timing.backoff * 2 ^ min index 6).sum) ∧
    (∀ fits : timing.backoff < 2 ^ 64, ∀ index,
      ∃ span, (Span.ofMillis timing.backoff fits).scale? (waitFactor index) = some span ∧
        span.totalNanoseconds = timing.backoff * 2 ^ min index 6 * 10 ^ 6) ∧
    (∀ fault, Request.build config call data = .error fault →
      invoke timing config call data (Timeline.mk replies []) = .unsent fault ∧
      ∀ (setting : Setting) (gateway : Gateway Timeline),
        ∃ response after, (callBackend setting config call data).on gateway =
          ((.ok response : Except Fault Response), after) ∧
          response.status = .clientError ∧ after.backend = gateway.backend) := by
  intro limit retries
  refine ⟨fun request built => ?_, fun fits => exists_wait_span fits, fun fault refused => ?_⟩
  · rcases Timeline.exists_isLeast_settling limit replies retries with ⟨last, isLast⟩
    have attempts := Timeline.attemptFrom_eq_exchange request limit replies timing.backoff isLast
    have sent : invoke timing config call data (Timeline.mk replies []) = .sent request
        (Timeline.exchange request limit replies timing.backoff last) := by
      rw [invoke, built, ← attempts]
      rfl
    exact ⟨last, _, isLast, sent, rfl, Timeline.attempts_exchange _ _ _ _ _, rfl,
      TimedReply.status_response _ _, Timeline.waits_exchange _ _ _ _ _,
      Timeline.elapsed_exchange _ _ _ _ _⟩
  · exact ⟨by rw [invoke, refused], fun setting gateway =>
      on_callBackend_of_fault setting refused gateway⟩

namespace Sample

/-- A backend that is out of order, then too slow, then in order. -/
def recovering (index : Nat) : TimedReply :=
  match index with
  | 0 => { latency := 10, reply := .answered 503 [] "" }
  | 1 => { latency := 45000, reply := ScriptedBackend.jsonReply 200 "\x7b\x7d" }
  | _ => { latency := 20, reply := ScriptedBackend.jsonReply 200 "\x7b\x7d" }

def bank : ApiConfig :=
  { baseUrl := "", timeout := none, retryAttempts := 3, authentication := none, headers := [] }

def balanceCall (endpoint : String) : ApiCall where
  method := .get
  endpoint := endpoint
  headers := []
  body := none
  requestMapping := none
  timeout := none
  onSuccess := none
  onError := none

end Sample

theorem recovering_call_is_retried_twice :
    (∃ request exchange,
      Request.build (some Sample.bank) (Sample.balanceCall "http://bank") .null = .ok request ∧
      invoke Sample.setting.timing (some Sample.bank) (Sample.balanceCall "http://bank") .null
        (Timeline.mk Sample.recovering []) = .sent request exchange ∧
      exchange.backend.received = [request, request, request] ∧
      exchange.response.status = .success ∧
      exchange.failed.map FailedAttempt.wait = [200, 400] ∧ exchange.elapsed = 30630) ∧
    Sample.setting.timing.backoff < 2 ^ 64 ∧
    Request.build none (Sample.balanceCall "") .null = .error .noEndpoint ∧
    invoke Sample.setting.timing none (Sample.balanceCall "") .null
      (Timeline.mk Sample.recovering []) = .unsent .noEndpoint := by
  have retried := calls_are_retried Sample.setting.timing (some Sample.bank)
    (Sample.balanceCall "http://bank") .null Sample.recovering
  have built : (Request.build (some Sample.bank) (Sample.balanceCall "http://bank")
      .null).toOption.isSome := by decide +kernel
  have noAddress : Request.renderTrimmed "" .null = [] := by decide +kernel
  have refused : Request.build none (Sample.balanceCall "") .null = .error .noEndpoint := by
    simp [Request.build, Request.urlOf, Sample.balanceCall, noAddress]
  have unsent := calls_are_retried Sample.setting.timing none (Sample.balanceCall "") .null
    Sample.recovering
  refine ⟨?_, by decide, refused, (unsent.2.2 _ refused).1⟩
  cases isBuilt : Request.build (some Sample.bank) (Sample.balanceCall "http://bank") .null with
  | error fault =>
      rw [isBuilt] at built
      cases built
  | ok request =>
      rcases retried.1 request isBuilt with
        ⟨last, exchange, isLast, sent, received, -, -, status, waits, elapsed⟩
      have isTwo : last = 2 := by
        have bound : last ≤ 2 := isLast.2 (.inr (by decide))
        have early : ∀ index < 2, ¬(Sample.recovering index).Settles 30000 := by decide
        rcases isLast.1 with isRetries | settles
        · have isThree : last = 3 := isRetries
          omega
        · have notEarly : ¬last < 2 := fun isEarly => early last isEarly settles
          omega
      subst isTwo
      exact ⟨request, exchange, rfl, sent, received, status, waits, elapsed⟩

end Ussd
