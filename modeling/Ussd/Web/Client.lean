import Ussd.Backend.Call
import Ussd.Text.Base64
import Ussd.Web.UrlReader
import Ussd.Web.Wire
/-!
# Web clients

A client sends a request to the host that its address names, follows where the reply points to, and
gives the last reply. The hosts are a parameter: a peer answers connections to its own address, each
with the next of its replies, and nobody listens anywhere else.
-/

namespace Ussd.Web

structure WireRequest where
  line : String
  headers : List (String × String)
  body : String
  deriving DecidableEq, Repr, Inhabited

structure Peer where
  host : Host
  port : Nat
  /-- The replies to come; a missing one leaves the connection silent. -/
  replies : List (Option String)
  received : List WireRequest

structure Client where
  /-- How long a reply is waited for, in milliseconds. -/
  timeout : Nat
  connectTimeout : Nat
  userAgent : String
  deriving DecidableEq, Repr

namespace Client

def standard : Client where
  timeout := 30000
  connectTimeout := 5000
  userAgent := "ussd-gateway/0.1.0"

def isHeaderValue (value : String) : Bool := value.toList.all isFieldChar

def isHeaderName (name : String) : Bool :=
  !name.isEmpty && name.toList.all MediaType.isTokenChar

def isUsable (client : Client) : Bool := isHeaderValue client.userAgent

end Client

/-! ## Requests -/

structure Draft where
  method : Method
  url : Url
  headers : List (String × String)
  body : Option String

namespace Draft

def hasHeader (headers : List (String × String)) (name : String) : Bool :=
  headers.any (·.1 == name)

def addIfMissing (headers : List (String × String)) (name value : String) :
    List (String × String) :=
  if hasHeader headers name then headers else headers ++ [(name, value)]

def authorization (user : Option UserInfo) : List (String × String) :=
  let decoded (text : List Char) : Option (List Char) := Text.utf8Text? (percentDecode text)
  match user.bind fun user =>
      (decoded user.name).map fun name => (name, user.password.bind decoded) with
  | none => []
  | some (name, password) =>
    if name.isEmpty && password.isNone then []
    else
      let credentials := name ++ ':' :: password.getD []
      [("authorization",
        "Basic " ++ String.ofList (Text.base64 (Text.utf8Encode credentials)))]

/-- Makes a request ready for sending; nothing if its address or a header is illegal. -/
def ofRequest? (client : Client) (request : Request) : Option Draft := do
  let (user, url) ← Url.read? request.url
  if !(request.headers.all fun header =>
      Client.isHeaderName header.1 && Client.isHeaderValue header.2) then none
  let given := request.headers.map fun header =>
    (String.ofList (header.1.toList.map Char.toLower), header.2)
  let headers := authorization user ++ ("accept", "application/json") :: given
  let headers :=
    if request.body.isSome then addIfMissing headers "content-type" "application/json"
    else headers
  return {
    method := request.method
    url := { url with query := extendQuery url.query request.query }
    headers := addIfMissing headers "user-agent" client.userAgent
    body := request.body.map Json.writeText }

def toWire (draft : Draft) : WireRequest :=
  let headers := addIfMissing draft.headers "host" (String.ofList draft.url.authority)
  let headers := match draft.body with
    | some body =>
      addIfMissing headers "content-length" (toString (Text.utf8Bytes body).length)
    | none => headers
  { line := draft.method.label ++ " " ++ String.ofList draft.url.target ++ " HTTP/1.1"
    headers := headers
    body := draft.body.getD "" }

/-! ## Redirections -/

def bodyHeaders : List String :=
  ["transfer-encoding", "content-encoding", "content-type", "content-length"]

def secretHeaders : List String :=
  ["authorization", "cookie", "cookie2", "proxy-authorization", "www-authenticate"]

def without (names : List String) (headers : List (String × String)) : List (String × String) :=
  headers.filter fun header => !names.contains header.1

/-- Whether a reply points to another address, and if so, whether the request loses its body. -/
def redirection? (status : Nat) : Option Bool :=
  if [301, 302, 303].contains status then some true
  else if [307, 308].contains status then some false
  else none

def redirect (draft : Draft) (losesBody : Bool) (url : Url) : Draft :=
  let headers := if losesBody then without bodyHeaders draft.headers else draft.headers
  let isDowngrade := draft.url.isSecure && !url.isSecure
  let headers :=
    if isDowngrade then headers
    else without ["referer"] headers ++ [("referer", String.ofList draft.url.text)]
  { method := if losesBody then .get else draft.method
    url := url
    headers := if draft.url.hasSameOrigin url then headers else without secretHeaders headers
    body := if losesBody then none else draft.body }

end Draft

/-- Whether an address of another scheme can be followed as far as to find that nobody knows the
scheme. -/
def isForeignFollowed (rest : List Char) : Bool :=
  match rest with
  | '/' :: '/' :: host => (host.head?.map fun c => c != '/' && c != '?' && c != '#').getD false
  | rest => rest.all fun c => c != '/' && c != '?' && c != '#'

/-! ## Sending -/

inductive Delivery where
  | reply (reply : WireReply)
  | silent
  | refused
  | broken

def deliver (peer : Peer) (draft : Draft) : Delivery × Peer :=
  if draft.url.isSecure || draft.url.host != peer.host || draft.url.actualPort != peer.port then
    (.refused, peer)
  else
    let peer := { peer with received := draft.toWire :: peer.received }
    match peer.replies with
    | [] => (.broken, peer)
    | none :: rest => (.silent, { peer with replies := rest })
    | some text :: rest =>
      let peer := { peer with replies := rest }
      match WireReply.read? (Text.utf8Bytes text) with
      | some reply => (.reply reply, peer)
      | none => (.broken, peer)

def answerOf (reply : WireReply) : Reply := .answered reply.status reply.textHeaders reply.text

def follow (most : Nat) (peer : Peer) (draft : Draft) : Reply × Peer :=
  match deliver peer draft with
  | (.silent, peer) => (.timedOut, peer)
  | (.refused, peer) => (.unreachable "connection refused", peer)
  | (.broken, peer) => (.broken "malformed or missing reply", peer)
  | (.reply reply, peer) =>
    match Draft.redirection? reply.status,
        reply.location?.bind fun text => Target.read? (some draft.url) text with
    | some losesBody, some (.web _ url) =>
      match most with
      | 0 => (.broken "too many redirections", peer)
      | most + 1 => follow most peer (draft.redirect losesBody url)
    | some _, some (.foreign rest) =>
      if isForeignFollowed rest then (.broken "unknown scheme", peer) else (answerOf reply, peer)
    | _, _ => (answerOf reply, peer)

def redirectionLimit : Nat := 9

def Client.send (client : Client) (peer : Peer) (request : Request) : Reply × Peer :=
  match Draft.ofRequest? client request with
  | none => (.broken "illegal request", peer)
  | some draft =>
    if client.timeout = 0 ∨ client.connectTimeout = 0 then (.timedOut, peer)
    else follow redirectionLimit peer draft

end Ussd.Web
