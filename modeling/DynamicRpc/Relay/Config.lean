import DynamicRpc.Files
import DynamicRpc.Json.Record
import DynamicRpc.Net.SocketAddress
import DynamicRpc.Tls.Options

/-!
Configuration of the relay. Every field has a default, so the empty object is a configuration; a
valid one lets at least one byte of a body pass and has complete TLS materials.
-/
namespace DynamicRpc.Relay

/-- Copies the values of the inbound header `source` to the outbound header `target`. -/
structure ForwardEntry where
  source : String
  target : String
  deriving DecidableEq, Repr

structure Config where
  listen : Net.SocketAddress
  /-- Counted on the text of a request body. -/
  maxBodyBytes : Nat
  disallowedHeaders : List String
  /-- Applied in order. -/
  forwardHeaders : List ForwardEntry
  allowedOrigin : Option String
  tls : Tls.Options
  deriving DecidableEq, Repr

inductive ConfigError where
  | noBody
  | tls (e : Tls.OptionsError)
  | headerName (name : String)
  | origin (text : String)
  deriving DecidableEq, Repr

def ConfigError.message : ConfigError → String
  | .noBody => "Invalid configuration: max_body_bytes must be positive"
  | .tls e => e.message
  | .headerName name => s!"Invalid configuration: '{name}' is not a valid header name"
  | .origin text => s!"Invalid configuration: '{text}' is not a valid allowed origin"

/-- Why a file gives no configuration. -/
inductive FileError where
  | unread (reason : String)
  | notText
  | json (e : Json.ReadError)
  | invalid (e : ConfigError)

def FileError.message : FileError → String
  | .unread reason => reason
  | .notText => "stream did not contain valid UTF-8"
  | .json e => e.message
  | .invalid e => e.message

namespace Config

def empty : Config := ⟨.v4 [127, 0, 0, 1] 8080, 5 * 1024 * 1024, [], [], none, .empty⟩

def validate (c : Config) : Except ConfigError Unit :=
  if c.maxBodyBytes = 0 then .error .noBody
  else
    match c.tls.validate with
    | .error e => .error (.tls e)
    | .ok () => .ok ()

def toJson (c : Config) : Json.Value :=
  .ofMembers [("listen", .text c.listen.text),
    ("max_body_bytes", .number (.natural c.maxBodyBytes)),
    ("disallowed_headers", .list (c.disallowedHeaders.map .text)),
    ("forward_headers", .list (c.forwardHeaders.map fun f =>
      .ofMembers [("from", .text f.source), ("to", .text f.target)])),
    ("allowed_origin", .ofText? c.allowedOrigin), ("tls", c.tls.toJson)]

open Json

def forwardRecord : Record ForwardEntry where
  expected := "struct ForwardHeader"
  fields :=
    [⟨"from", true, fun f => return { f with source := ← readText "a string" }⟩,
      ⟨"to", true, fun f => return { f with target := ← readText "a string" }⟩]

def readAddress : Reader Net.SocketAddress :=
  readParsed "socket address" fun s =>
    match Net.SocketAddress.ofText? s with
    | some a => .ok a
    | none => .error Net.SocketAddress.invalidMessage

def record : Record Config where
  expected := "struct RelayConfig"
  fields :=
    [⟨"listen", false, fun c => return { c with listen := ← readAddress }⟩,
      ⟨"max_body_bytes", false, fun c => return { c with maxBodyBytes := ← readSize }⟩,
      ⟨"disallowed_headers", false, fun c => return { c with
        disallowedHeaders := ← readList (readText "a string") }⟩,
      ⟨"forward_headers", false, fun c => return { c with
        forwardHeaders := ← readList (forwardRecord.read ⟨"", ""⟩) }⟩,
      ⟨"allowed_origin", false, fun c => return { c with
        allowedOrigin := ← readOptional (readText "a string") }⟩,
      ⟨"tls", false, fun c => return { c with tls := ← Tls.Options.reader }⟩]

def ofJsonText (text : Bytes) : Except ReadError Config := (record.read empty).whole text

/-- The valid configuration in a file. -/
def ofFile : FileContent → Except FileError Config
  | .unopened reason | .unread reason => .error (.unread reason)
  | .bytes b =>
    if (Text.ofBytes? b).isNone then .error .notText
    else
      match ofJsonText b with
      | .error e => .error (.json e)
      | .ok c =>
        match c.validate with
        | .error e => .error (.invalid e)
        | .ok () => .ok c

end Config

end DynamicRpc.Relay
