import Ussd.Table
import Ussd.Text.Blank
import Ussd.Text.Charset
import Ussd.Text.Numeral
import Ussd.Web.MediaType
import Ussd.Web.PercentCode
/-!
# Replies on the wire

Reading the reply to a web request from the bytes that arrive until the connection is closed. Bytes
are looked at as the characters of the same numbers. Lines end with a line feed, usually after a
carriage return. A reply that is cut short is no reply.
-/

namespace Ussd.Web

structure WireReply where
  status : Nat
  /-- Names in lower case, values as bytes, in the order of the reply. -/
  headers : List (String × List Char)
  body : List Nat

/-! ## Lines -/

def takeLine? (isAllowed : Char → Bool) : List Char → Option (List Char × List Char)
  | [] => none
  | '\n' :: rest => some ([], rest)
  | '\r' :: '\n' :: rest => some ([], rest)
  | c :: rest =>
    if c != '\r' && isAllowed c then
      (takeLine? isAllowed rest).map fun parts => (c :: parts.1, parts.2)
    else none

def isFieldChar (c : Char) : Bool := c == '\t' || (32 ≤ c.toNat && c.toNat != 127)

def skipEmptyLines : List Char → List Char
  | '\n' :: rest => skipEmptyLines rest
  | '\r' :: '\n' :: rest => skipEmptyLines rest
  | text => text

/-! ## The head of a reply -/

structure ReplyHead where
  isOld : Bool
  status : Nat
  headers : List (String × List Char)

def readVersion? (text : List Char) : Option (Bool × List Char) :=
  match Text.afterStart? "HTTP/1.".toList text with
  | some ('0' :: ' ' :: rest) => some (true, rest)
  | some ('1' :: ' ' :: rest) => some (false, rest)
  | _ => none

/-- The status, and what follows its line; the reason may be missing. -/
def readStatus? : List Char → Option (Nat × List Char)
  | a :: b :: c :: rest =>
    if [a, b, c].all Char.isDigit then
      let status := Text.digitsValue [a, b, c]
      let line := match rest with
        | ' ' :: rest => takeLine? isFieldChar rest
        | rest => takeLine? (fun _ => false) rest
      line.bind fun parts => if status < 100 then none else some (status, parts.2)
    else none
  | _ => none

def headerLimit : Nat := 100

def readHeaders? (most : Nat) (text : List Char) :
    Option (List (String × List Char) × List Char) :=
  match takeLine? (fun _ => false) text with
  | some (_, rest) => some ([], rest)
  | none =>
    match most with
    | 0 => none
    | most + 1 => do
      let name := text.takeWhile MediaType.isTokenChar
      let rest ← Text.afterStart? [':'] (text.dropWhile MediaType.isTokenChar)
      if name.isEmpty then none
      let isSpace (c : Char) : Bool := c == ' ' || c == '\t'
      let (value, rest) ← takeLine? isFieldChar (rest.dropWhile isSpace)
      let value := (value.reverse.dropWhile isSpace).reverse
      let (headers, rest) ← readHeaders? most rest
      return ((String.ofList (name.map Char.toLower), value) :: headers, rest)

def readHead? (text : List Char) : Option (ReplyHead × List Char) := do
  let (isOld, rest) ← readVersion? (skipEmptyLines text)
  let (status, rest) ← readStatus? rest
  let (headers, rest) ← readHeaders? headerLimit rest
  return ({ isOld := isOld, status := status, headers := headers }, rest)

def valuesOf (headers : List (String × List Char)) (name : String) : List (List Char) :=
  (headers.filter (·.1 == name)).map Prod.snd

/-! ## The body of a reply -/

inductive BodyFrame where
  | sized (length : Nat)
  | chunked
  | untilClosed
  deriving DecidableEq, Repr

/-- The length that all values of the header agree on. -/
def agreedLength? (values : List (List Char)) : Option Nat :=
  match (values.flatMap (Text.splitOn ',')).mapM fun value =>
      (Text.natural? (Text.trim value)).filter (· ≤ Text.greatestWord) with
  | some (length :: others) => if others.all (· == length) then some length else none
  | _ => none

def isChunked (values : List (List Char)) : Bool :=
  match values.getLast?.bind fun value => (Text.splitOn ',' value).getLast? with
  | some coding => (Text.trim coding).map Char.toLower == "chunked".toList
  | none => false

def frameOf? (head : ReplyHead) : Option BodyFrame :=
  let codings := valuesOf head.headers "transfer-encoding"
  let lengths := valuesOf head.headers "content-length"
  if head.status = 101 ∨ head.status = 204 ∨ head.status = 304 then some (.sized 0)
  else if !codings.isEmpty then
    if head.isOld then none
    else some (if isChunked codings then .chunked else .untilClosed)
  else if !lengths.isEmpty then (agreedLength? lengths).map .sized
  else some .untilClosed

def readChunkSize? (text : List Char) : Option (Nat × List Char) := do
  let (size, rest) ← Text.takeDigitsIn? 16 text
  if Text.greatestWord < size then none
  let rest := rest.dropWhile fun c => c == ' ' || c == '\t'
  let rest := match rest with
    | ';' :: extension => extension.dropWhile fun c => c != '\r' && c != '\n'
    | rest => rest
  let rest ← Text.afterStart? ['\r', '\n'] rest
  return (size, rest)

def endsInTrailers (fuel : Nat) (text : List Char) : Bool :=
  match fuel, text with
  | 0, _ => false
  | _, '\r' :: rest => rest.head? == some '\n'
  | fuel + 1, text =>
    match Text.afterStart? ['\r', '\n'] (text.dropWhile (· != '\r')) with
    | some rest => endsInTrailers fuel rest
    | none => false

def readChunks? (fuel : Nat) (text : List Char) : Option (List Char) :=
  match fuel with
  | 0 => none
  | fuel + 1 => do
    let (size, rest) ← readChunkSize? text
    if size = 0 then
      if endsInTrailers rest.length rest then return [] else none
    else
      if rest.length < size then none
      let after ← Text.afterStart? ['\r', '\n'] (rest.drop size)
      let others ← readChunks? fuel after
      return rest.take size ++ others

def readBody? (frame : BodyFrame) (text : List Char) : Option (List Char) :=
  match frame with
  | .sized length => if text.length < length then none else some (text.take length)
  | .chunked => readChunks? (text.length + 1) text
  | .untilClosed => some text

def isInterim (status : Nat) : Bool := status = 100 || (102 ≤ status && status ≤ 199)

/-- Reads a reply, after announcements of it. -/
def readReplyFrom? (fuel : Nat) (text : List Char) : Option WireReply :=
  match fuel with
  | 0 => none
  | fuel + 1 => do
    let (head, rest) ← readHead? text
    if isInterim head.status then readReplyFrom? fuel rest
    else
      let frame ← frameOf? head
      let body ← readBody? frame rest
      return { status := head.status, headers := head.headers, body := body.map Char.toNat }

def WireReply.read? (bytes : List Nat) : Option WireReply :=
  readReplyFrom? (bytes.length + 1) (bytes.map Char.ofNat)

namespace WireReply

/-- The value of a header as text; nothing where it is not visible ASCII. -/
def visibleText? (value : List Char) : Option String :=
  if value.all fun c => c == '\t' || (32 ≤ c.toNat && c.toNat < 127) then
    some (String.ofList value)
  else none

/-- The headers with text, of repeated ones the last. -/
def textHeaders (reply : WireReply) : Table String :=
  Table.ofList (reply.headers.filterMap fun header =>
    (visibleText? header.2).map fun value => (header.1, value))

def text (reply : WireReply) : String :=
  let mediaType := ((valuesOf reply.headers "content-type").head?.bind visibleText?).bind fun value =>
    MediaType.read? value.toList
  let charset := match mediaType.bind (·.parameter? "charset".toList) with
    | some name => Text.Charset.named name
    | none => .utf8
  String.ofList (Text.decodeBytes charset reply.body)

def location? (reply : WireReply) : Option (List Char) :=
  (valuesOf reply.headers "location").head?.bind fun value =>
    Text.utf8Text? (value.map Char.toNat)

end WireReply

end Ussd.Web
