import DynamicRpc.Rpc.Options
import DynamicRpc.Rpc.RequestHeaders
import DynamicRpc.Tls.Setup

/-!
What a client needs before it connects to a server: a URL that reads as one, an authority for its
calls, and TLS materials. They are checked in this order.
-/
namespace DynamicRpc.Rpc

inductive ConnectError where
  | url (text : String)
  | authority (text : String)
  | tls (e : Tls.SetupError)
  | unreachable (text : String)
  deriving DecidableEq, Repr

def ConnectError.message : ConnectError → String
  | url text => s!"Invalid URL '{text}': transport error"
  | authority text => s!"Invalid authority '{text}'"
  | tls e => e.message
  | unreachable text => s!"Failed to connect to '{text}': transport error"

structure Connection where
  url : Http.Uri
  /-- Scheme and authority of every call. -/
  origin : Http.Uri
  connector : Tls.TlsConnector
  deriving DecidableEq, Repr

namespace Connection

/-- The scheme of a URL without one is that of plain text. -/
def origin? (url : Http.Uri) (authority : String) : Option Http.Uri :=
  (Http.Uri.ofText s!"{url.scheme.getD defaultScheme}://{authority}").toOption
where
  defaultScheme : String := "http"

/-- Lines on the TLS materials, and the connection. -/
def prepare (files : Files) (platform : Tls.Platform) (text : String) (headers : RequestHeaders)
    (o : ClientOptions) : List String × Except ConnectError Connection :=
  match Http.Uri.ofText text with
  | .error _ => ([], .error (.url text))
  | .ok url =>
    let authority := callAuthority text headers
    match origin? url authority with
    | none => ([], .error (.authority authority))
    | some origin =>
      let (lines, connector) := Tls.TlsConnector.ofOptions files platform o.tls
      match connector with
      | .ok connector => (lines, .ok ⟨url, origin, connector⟩)
      | .error e => (lines, .error (.tls e))

end Connection

end DynamicRpc.Rpc
