import Ussd.Backend.Request
import Ussd.Backend.Response
/-!
# Calling a backend

A call is attempted once and, while the outcome is worth another attempt, a limited number of times
more, with waits between the attempts that double up to a limit. A backend is anything that takes
some time over a request and then replies; an attempt is given up when the time limit has passed.
All times are in milliseconds.
-/

namespace Ussd

inductive Reply where
  | answered (code : Nat) (headers : Table String) (body : String)
  | timedOut
  | unreachable (reason : String)
  | broken (reason : String)
  deriving DecidableEq, Repr, Inhabited

class Backend (β : Type) where
  latency : β → Request → Nat
  reply : β → Request → Reply × β
  /-- What the backend is after a request whose reply was not waited for. -/
  abandon : β → Request → β

variable {β : Type} [Backend β]

def Reply.response (duration : Nat) : Reply → Response
  | .answered code headers body => .answered code headers body duration
  | .timedOut => .failure .timeout "Request timed out" duration
  | .unreachable reason => .failure .networkError ("connection failed: " ++ reason) duration
  | .broken reason => .failure .networkError ("transport error: " ++ reason) duration

def attempt (backend : β) (request : Request) (limit : Nat) : Response × β :=
  let latency := Backend.latency backend request
  if latency ≤ limit then
    let parts := Backend.reply backend request
    (parts.1.response latency, parts.2)
  else
    (.failure .timeout ("Request timed out after " ++ toString limit ++ "ms") limit,
      Backend.abandon backend request)

structure FailedAttempt where
  response : Response
  wait : Nat
  deriving DecidableEq, Repr

/-- A finished call: the attempts before the last one, the response of the last one, and what the
backend is afterwards. -/
structure Exchange (β : Type) where
  failed : List FailedAttempt
  response : Response
  backend : β

namespace Exchange

def attempts (exchange : Exchange β) : Nat := exchange.failed.length + 1

def elapsed (exchange : Exchange β) : Nat :=
  exchange.failed.foldr (fun failed rest => failed.response.duration + failed.wait + rest)
    exchange.response.duration

end Exchange

/-- The wait after a failed attempt doubles with every attempt, six times at most. -/
def waitAfter (backoff index : Nat) : Nat := backoff * Nat.pow 2 (min index 6)

def attemptFrom (request : Request) (limit backoff : Nat) (backend : β) (index : Nat) :
    Nat → Exchange β
  | 0 =>
    let outcome := attempt backend request limit
    { failed := [], response := outcome.1, backend := outcome.2 }
  | retries + 1 =>
    let outcome := attempt backend request limit
    if outcome.1.status.isRetryable then
      let rest := attemptFrom request limit backoff outcome.2 (index + 1) retries
      { rest with
        failed := { response := outcome.1, wait := waitAfter backoff index } :: rest.failed }
    else { failed := [], response := outcome.1, backend := outcome.2 }

/-- How calls are timed where neither the action nor the service says so. -/
structure CallTiming where
  limit : Nat
  backoff : Nat
  deriving DecidableEq, Repr, Inhabited

def callLimit (timing : CallTiming) (config : Option ApiConfig) (call : ApiCall) : Nat :=
  match call.timeout.or (config.bind ApiConfig.timeout) with
  | some seconds => seconds * 1000
  | none => timing.limit

def send (timing : CallTiming) (config : Option ApiConfig) (call : ApiCall) (request : Request)
    (backend : β) : Exchange β :=
  attemptFrom request (callLimit timing config call) timing.backoff backend 0
    ((config.map ApiConfig.retryAttempts).getD 0)

inductive CallResult (β : Type) where
  | unsent (fault : RequestFault)
  | sent (request : Request) (exchange : Exchange β)

def invoke (timing : CallTiming) (config : Option ApiConfig) (call : ApiCall) (data : Json)
    (backend : β) : CallResult β :=
  match Request.build config call data with
  | .error fault => .unsent fault
  | .ok request => .sent request (send timing config call request backend)

/-- The response of a call; a request that could not be built counts as the fault of the caller. -/
def CallResult.response : CallResult β → Response
  | .unsent fault => .failure .clientError fault.message 0
  | .sent _ exchange => exchange.response

/-! ## Scripted backends -/

/-- A backend that replies from a list, always after the same time, and keeps the requests that it
has received, the latest first. Once the list is used up it answers with an empty object. -/
structure ScriptedBackend where
  replies : List Reply
  delay : Nat
  received : List Request

namespace ScriptedBackend

def jsonHeaders : Table String := [("content-type", "application/json")]

def jsonReply (code : Nat) (body : String) : Reply := .answered code jsonHeaders body

instance : Backend ScriptedBackend where
  latency backend _ := backend.delay
  reply backend request :=
    let received := request :: backend.received
    match backend.replies with
    | [] => (jsonReply 200 "\x7b\x7d", { backend with received := received })
    | next :: rest => (next, { backend with replies := rest, received := received })
  abandon backend request := { backend with received := request :: backend.received }

end ScriptedBackend

end Ussd
