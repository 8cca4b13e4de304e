import DynamicRpc.Tls.Setup

/-!
What a client checks while a connection is set up: the chain that a server presents, and the
signatures by which it proves that the key is its own. Signatures count even if chains are not
checked. Steps are reported as lines of text.
-/
namespace DynamicRpc.Tls

/-- A verifier reports its steps. -/
abbrev Reported (α : Type) := List String × Except TlsError α

namespace Trust

/-- Checks the chain that a server presents, the certificate of the server first. -/
def verify (t : Trust) (server : Bytes) (offered : List Bytes) (name : ServerName) (now : Nat) :
    Reported Unit :=
  let first :=
    s!"server '{name.text}' presented a chain of {offered.length + 1} certificate(s)"
  match t with
  | anyone => ([first, "certificate verification skipped"], .ok ())
  | anchors trusted =>
    let result : Except CertificateFault Unit := do
      let c ← Certificate.ofDer server
      Chain.check trusted c offered now
      c.checkName name
    match result with
    | .ok () => ([first, "certificate verified"], .ok ())
    | .error f =>
      let e := TlsError.certificate f
      ([first, s!"certificate verification failed: {e.message}"], .error e)

end Trust

/-- Versions of the protocol. -/
inductive Version where
  | v12
  | v13
  deriving DecidableEq, Repr

def Version.name : Version → String
  | v12 => "TLS 1.2"
  | v13 => "TLS 1.3"

def Version.algorithms (v : Version) (s : SignatureScheme) : List SignatureAlgorithm :=
  match v with
  | v12 => s.algorithms
  | v13 => s.algorithms13

/-- Checks a signature against the key of a certificate. -/
def checkHandshake (v : Version) (message cert : Bytes) (s : SignatureScheme) (signature : Bytes) :
    Except TlsError Unit :=
  match v.algorithms s with
  | [] => .error .unadvertisedScheme
  | a :: rest =>
    let result : Except CertificateFault Unit := do
      let c ← Certificate.ofDer cert
      SignatureAlgorithm.checkFirst (.unsupportedForKey [] []) c.key message signature (a :: rest)
    match result with
    | .ok () => .ok ()
    | .error f => .error (.certificate f)

/-- Checks the signature of a handshake. -/
def verifyHandshake (v : Version) (message cert : Bytes) (s : SignatureScheme)
    (signature : Bytes) : Reported Unit :=
  match checkHandshake v message cert s signature with
  | .ok () => ([s!"{v.name} handshake signature verified ({s.name})"], .ok ())
  | .error e => ([s!"{v.name} handshake signature rejected ({s.name}): {e.message}"], .error e)

end DynamicRpc.Tls
