import DynamicRpc.Json.Record

/-!
The TLS materials of a client, as paths of files, and how a server is checked.
-/
namespace DynamicRpc.Tls

structure Options where
  /-- A private key and a certificate chain come together or not at all. -/
  key : Option String
  cert : Option String
  /-- Roots to trust in place of those of the machine. -/
  ca : Option String
  serverName : Option String
  /-- Certificates are not checked. -/
  insecure : Bool
  deriving DecidableEq, Repr, Inhabited

inductive OptionsError where
  | keyWithoutCert
  | certWithoutKey
  deriving DecidableEq, Repr

def OptionsError.message : OptionsError → String
  | .keyWithoutCert => "Invalid configuration: a TLS client key was given without a certificate"
  | .certWithoutKey => "Invalid configuration: a TLS client certificate was given without a key"

namespace Options

def empty : Options := ⟨none, none, none, none, false⟩

def validate (o : Options) : Except OptionsError Unit :=
  match o.key, o.cert with
  | some _, none => .error .keyWithoutCert
  | none, some _ => .error .certWithoutKey
  | _, _ => .ok ()

def toJson (o : Options) : Json.Value :=
  .ofMembers [("key", .ofText? o.key), ("cert", .ofText? o.cert), ("ca", .ofText? o.ca),
    ("server_name", .ofText? o.serverName), ("insecure", .boolean o.insecure)]

open Json in
def record : Record Options where
  expected := "struct TlsOptions"
  fields :=
    let path := readOptional (readText "path string")
    [⟨"key", false, fun o => return { o with key := ← path }⟩,
      ⟨"cert", false, fun o => return { o with cert := ← path }⟩,
      ⟨"ca", false, fun o => return { o with ca := ← path }⟩,
      ⟨"server_name", false, fun o => return { o with
        serverName := ← readOptional (readText "a string") }⟩,
      ⟨"insecure", false, fun o => return { o with insecure := ← readBoolean }⟩]

def reader : Json.Reader Options := record.read empty

end Options

end DynamicRpc.Tls
