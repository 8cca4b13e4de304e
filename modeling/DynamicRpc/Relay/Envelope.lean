import DynamicRpc.Base64
import DynamicRpc.Http.Header
import DynamicRpc.Wire.Basic

/-!
The envelopes of the relay: a request names its target, headers and body, a response its status,
headers, body and trailers. Both travel as base64 text of their wire format.
-/
namespace DynamicRpc.Relay

/-- A header name with all its values, in order. -/
structure EnvelopeHeader where
  key : String
  values : List String
  deriving DecidableEq, Repr

structure RequestEnvelope where
  target : String
  headers : List EnvelopeHeader
  body : Bytes
  deriving DecidableEq, Repr

structure ResponseEnvelope where
  status : Nat
  headers : List EnvelopeHeader
  body : Bytes
  trailers : List EnvelopeHeader
  deriving DecidableEq, Repr

open Wire

namespace EnvelopeHeader

def empty : EnvelopeHeader := ⟨"", []⟩

def merge : Merge EnvelopeHeader := fun depth number w h b =>
  match number with
  | 1 => inField "Header.key" do
    let (s, rest) ← readText w b
    return ({ h with key := s }, rest)
  | 2 => inField "Header.value" do
    let (s, rest) ← readText w b
    return ({ h with values := h.values ++ [s] }, rest)
  | _ => do return (h, ← skipField depth number w b)

def encode (h : EnvelopeHeader) : Bytes :=
  writeTextField 1 h.key ++
    h.values.flatMap fun v => writeKey 2 .delimited ++ writeDelimited (Text.toBytes v)

/-- The field of a list of headers. -/
def encodeAll (number : Nat) (hs : List EnvelopeHeader) : Bytes :=
  hs.flatMap fun h => writeKey number .delimited ++ writeDelimited h.encode

/-- The headers of a collection, each name once. -/
def ofHeaderMap (m : Http.HeaderMap) : List EnvelopeHeader :=
  m.rows.map fun row => ⟨row.1.text, row.2.map fun v => Text.ofBytesLenient v.bytes⟩

end EnvelopeHeader

namespace RequestEnvelope

def empty : RequestEnvelope := ⟨"", [], []⟩

def merge : Merge RequestEnvelope := fun depth number w e b =>
  match number with
  | 1 => inField "RequestEnvelope.target" do
    let (s, rest) ← readText w b
    return ({ e with target := s }, rest)
  | 2 => inField "RequestEnvelope.headers" do
    let (h, rest) ← readMessage EnvelopeHeader.merge depth w .empty b
    return ({ e with headers := e.headers ++ [h] }, rest)
  | 3 => inField "RequestEnvelope.body" do
    let (body, rest) ← readBytes w b
    return ({ e with body }, rest)
  | _ => do return (e, ← skipField depth number w b)

def decode (b : Bytes) : Result RequestEnvelope := decodeMessage merge empty b

def encode (e : RequestEnvelope) : Bytes :=
  writeTextField 1 e.target ++ EnvelopeHeader.encodeAll 2 e.headers ++ writeBytesField 3 e.body

end RequestEnvelope

namespace ResponseEnvelope

def empty : ResponseEnvelope := ⟨0, [], [], []⟩

def merge : Merge ResponseEnvelope := fun depth number w e b =>
  match number with
  | 1 => inField "ResponseEnvelope.status" do
    expect w .varint b
    let (n, rest) ← readVarint b
    return ({ e with status := n % 0x100000000 }, rest)
  | 2 => inField "ResponseEnvelope.headers" do
    let (h, rest) ← readMessage EnvelopeHeader.merge depth w .empty b
    return ({ e with headers := e.headers ++ [h] }, rest)
  | 3 => inField "ResponseEnvelope.body" do
    let (body, rest) ← readBytes w b
    return ({ e with body }, rest)
  | 4 => inField "ResponseEnvelope.trailers" do
    let (h, rest) ← readMessage EnvelopeHeader.merge depth w .empty b
    return ({ e with trailers := e.trailers ++ [h] }, rest)
  | _ => do return (e, ← skipField depth number w b)

def decode (b : Bytes) : Result ResponseEnvelope := decodeMessage merge empty b

def encode (e : ResponseEnvelope) : Bytes :=
  (if e.status = 0 then [] else writeKey 1 .varint ++ writeVarint e.status) ++
    EnvelopeHeader.encodeAll 2 e.headers ++ writeBytesField 3 e.body ++
    EnvelopeHeader.encodeAll 4 e.trailers

end ResponseEnvelope

def isLineBreak (b : UInt8) : Bool := b = 10 || b = 13

/-- Reads the base64 text of an envelope. Line breaks may stand anywhere. -/
def decodeText (text : Bytes) : Except Base64.DecodeError Bytes :=
  Base64.strict.decode (text.filter (!isLineBreak ·))

end DynamicRpc.Relay
