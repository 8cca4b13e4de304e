import DynamicRpc.Http.Uri
import DynamicRpc.Relay.Policy

/-!
The relay: an inbound request carries an envelope, which becomes one request to its target, and the
answer comes back in an envelope. Checks are made in a fixed order, and the upstream is called only
when all of them pass.
-/
namespace DynamicRpc.Relay

open Http

/-- A request to the relay. Its body comes in chunks, and reading it may fail after the last. -/
structure Inbound where
  method : String
  headers : HeaderMap
  chunks : List Bytes
  failure : Option String
  deriving DecidableEq, Repr

/-- Versions of HTTP. -/
inductive Version where
  | http09
  | http10
  | http11
  | http2
  | http3
  deriving DecidableEq, Repr

def Version.text : Version → String
  | http09 => "HTTP/0.9"
  | http10 => "HTTP/1.0"
  | http11 => "HTTP/1.1"
  | http2 => "HTTP/2.0"
  | http3 => "HTTP/3.0"

/-- A request to the upstream. -/
structure Outbound where
  method : String
  target : Uri
  version : Version
  headers : HeaderMap
  body : Bytes
  deriving DecidableEq, Repr

structure Answer where
  status : Nat
  headers : HeaderMap
  body : Bytes
  trailers : HeaderMap
  deriving DecidableEq, Repr

/-- An answer, or why there is none. -/
abbrev Upstream := Outbound → Except String Answer

structure Response where
  status : Nat
  headers : HeaderMap
  body : String
  deriving DecidableEq, Repr

inductive RelayError where
  | methodNotAllowed
  | unsupportedMediaType
  | tooLarge (limit : Nat)
  | incompleteBody (reason : String)
  | base64 (e : Base64.DecodeError)
  | envelope (e : Wire.DecodeError)
  | disallowedHeader (name : String)
  | headerName (name : String)
  | headerValue (name : String)
  | target (text reason : String)
  | upstream (reason : String)
  deriving DecidableEq, Repr

namespace RelayError

def message : RelayError → String
  | methodNotAllowed => "method not allowed"
  | unsupportedMediaType => "unsupported media type"
  | tooLarge limit => s!"request body exceeds {limit} bytes"
  | incompleteBody reason => s!"incomplete request body: {reason}"
  | base64 e => s!"invalid base64 body: {e.message}"
  | envelope e => s!"invalid envelope: {e.message}"
  | disallowedHeader name => s!"header '{name}' is not allowed"
  | headerName name => s!"invalid header '{name}': invalid HTTP header name"
  | headerValue name => s!"invalid header '{name}': failed to parse header value"
  | target text reason => s!"invalid target '{text}': {reason}"
  | upstream reason => s!"upstream request failed: {reason}"

def status : RelayError → Nat
  | methodNotAllowed => 405
  | unsupportedMediaType => 415
  | tooLarge _ => 413
  | upstream _ => 502
  | _ => 400

def hasBody : RelayError → Bool
  | methodNotAllowed | unsupportedMediaType => false
  | _ => true

end RelayError

/-- Why no response is made: a check failed, or a collection of headers overflowed, which ends the
request without a response. -/
inductive Stop where
  | refused (e : RelayError)
  | overflow
  deriving DecidableEq, Repr

def contentType : HeaderName := ⟨"content-type", by decide⟩

def allowOrigin : HeaderName := ⟨"access-control-allow-origin", by decide⟩

def plainText : HeaderValue := ⟨Text.toBytes "text/plain; charset=utf-8", by decide⟩

/-- The first content type is plain text, whatever its parameters. -/
def isPlainText (headers : HeaderMap) : Bool :=
  match (headers.first? contentType).bind HeaderValue.text? with
  | none => false
  | some s =>
    let essence := String.ofList (s.toList.takeWhile (· ≠ ';'))
    Text.equalIgnoringCase (Text.trim essence) "text/plain"

/-- Collects the chunks as long as they stay within the limit. -/
def readBody (limit : Nat) (failure : Option String) : Nat → List Bytes → Except RelayError Bytes
  | _, [] =>
    match failure with
    | some reason => .error (.incompleteBody reason)
    | none => .ok []
  | used, chunk :: rest =>
    if used + chunk.length > limit then .error (.tooLarge limit)
    else do return chunk ++ (← readBody limit failure (used + chunk.length) rest)

/-- A target needs a web scheme and an authority. -/
def readTarget (text : String) : Except RelayError Uri :=
  match Uri.ofText text with
  | .error e => .error (.target text e.message)
  | .ok uri =>
    match uri.scheme with
    | none => .error (.target text "missing scheme")
    | some scheme =>
      if scheme = "http" || scheme = "https" then
        if uri.authority.isSome then .ok uri else .error (.target text "missing host")
      else .error (.target text "scheme must be http or https")

end DynamicRpc.Relay

namespace DynamicRpc

/-- What a relay decides by: its headers, its limit and the origin that its responses allow. -/
structure Relay where
  policy : Relay.Policy
  maxBodyBytes : Nat
  allowedOrigin : Option Http.HeaderValue
  deriving DecidableEq, Repr

end DynamicRpc

namespace DynamicRpc.Relay

open Http

def ofConfig (c : Config) : Except ConfigError Relay := do
  c.validate
  let origin ← match c.allowedOrigin with
    | none => .ok none
    | some text =>
      match HeaderValue.ofText? text with
      | some v => .ok (some v)
      | none => .error (.origin text)
  return ⟨← Policy.ofNames c.disallowedHeaders c.forwardHeaders, c.maxBodyBytes, origin⟩

/-- The envelope of a request whose method, type and body pass. -/
def readEnvelope (r : Relay) (q : Inbound) : Except RelayError RequestEnvelope := do
  if q.method ≠ "POST" then throw .methodNotAllowed
  if !isPlainText q.headers then throw .unsupportedMediaType
  let text ← readBody r.maxBodyBytes q.failure 0 q.chunks
  match decodeText text with
  | .error e => throw (.base64 e)
  | .ok wire =>
    match RequestEnvelope.decode wire with
    | .error e => throw (.envelope e)
    | .ok envelope => return envelope

def refusing (r : Except RelayError α) : Except Stop α :=
  match r with
  | .ok a => .ok a
  | .error e => .error (.refused e)

def overflowing (r : Option α) : Except Stop α :=
  match r with
  | some a => .ok a
  | none => .error .overflow

/-- All checks before the upstream is called, in order. -/
def prepare (r : Relay) (q : Inbound) : Except Stop Outbound := do
  let envelope ← refusing (r.readEnvelope q)
  match r.policy.refused? envelope.headers with
  | some name => throw (.refused (.disallowedHeader name))
  | none =>
    let headers ← collect envelope.headers
    let headers ← overflowing (r.policy.applyForwarding? q.headers headers)
    let target ← refusing (readTarget envelope.target)
    return ⟨"POST", target, .http2, headers, envelope.body⟩
where
  /-- Values are added one by one, so an overflow may come before a later invalid header. -/
  collect (headers : List EnvelopeHeader) : Except Stop HeaderMap :=
    headers.foldlM (fun m h =>
      match HeaderName.ofText? h.key with
      | none => .error (.refused (.headerName h.key))
      | some n => h.values.foldlM (fun m v =>
        match HeaderValue.ofText? v with
        | none => .error (.refused (.headerValue h.key))
        | some v => overflowing (m.append? n v)) m) .empty

def envelopeOf (a : Answer) : ResponseEnvelope :=
  ⟨a.status, EnvelopeHeader.ofHeaderMap a.headers, a.body, EnvelopeHeader.ofHeaderMap a.trailers⟩

/-- A response of plain text, or of nothing, with the configured origin. -/
def respond (r : Relay) (status : Nat) (body : Option String) : Response :=
  let origin := match r.allowedOrigin with
    | some v => [(allowOrigin, v)]
    | none => []
  let type := if body.isSome then [(contentType, plainText)] else []
  ⟨status, ((HeaderMap.empty.appendAll? (type ++ origin)).getD .empty), body.getD ""⟩

def respondError (r : Relay) (e : RelayError) : Response :=
  r.respond e.status (if e.hasBody then some e.message else none)

/-- The response and the request that the upstream saw, if any; none if headers overflowed. -/
def handle (r : Relay) (upstream : Upstream) (q : Inbound) : Option (Response × Option Outbound) :=
  match r.prepare q with
  | .error .overflow => none
  | .error (.refused e) => some (r.respondError e, none)
  | .ok outbound =>
    match upstream outbound with
    | .error reason => some (r.respondError (.upstream reason), some outbound)
    | .ok answer =>
      some (r.respond 200 (some (Base64.encode (envelopeOf answer).encode)), some outbound)

end DynamicRpc.Relay
