import DynamicRpc.Relay.Handler
import DynamicRpc.Tls.Setup

/-!
A relay together with what it reaches its upstreams with. The TLS materials are loaded before header
names and the allowed origin are looked at.
-/
namespace DynamicRpc.Relay

inductive SetupError where
  | config (e : ConfigError)
  | tls (e : Tls.SetupError)
  deriving DecidableEq, Repr

def SetupError.message : SetupError → String
  | config e => e.message
  | tls e => e.message

/-- Lines on the TLS materials, and the relay. -/
def setUp (files : Files) (platform : Tls.Platform) (c : Config) :
    List String × Except SetupError (Relay × Tls.TlsConnector) :=
  match c.validate with
  | .error e => ([], .error (.config e))
  | .ok () =>
    let (lines, connector) := Tls.TlsConnector.ofOptions files platform c.tls
    match connector with
    | .error e => (lines, .error (.tls e))
    | .ok connector =>
      match ofConfig c with
      | .error e => (lines, .error (.config e))
      | .ok relay => (lines, .ok (relay, connector))

end DynamicRpc.Relay
