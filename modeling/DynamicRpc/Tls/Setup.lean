import DynamicRpc.Files
import DynamicRpc.Tls.Chain
import DynamicRpc.Tls.Options
import DynamicRpc.Tls.PrivateKey

/-!
The TLS configuration of a client, made from its options and the files that they name. A bundle of
roots has to load even if certificates are not checked. Steps are reported as lines of text.
-/
namespace DynamicRpc.Tls

/-- Faults of a handshake or of what it is made with. -/
inductive TlsError where
  | certificate (f : CertificateFault)
  /-- The private key belongs to another certificate. -/
  | keyMismatch
  | privateKey
  | unadvertisedScheme
  deriving DecidableEq, Repr

def TlsError.message : TlsError → String
  | certificate f => s!"invalid peer certificate: {f.message}"
  | keyMismatch => "keys may not be consistent: KeyMismatch"
  | privateKey => "unexpected error: failed to parse private key as RSA, ECDSA, or EdDSA"
  | unadvertisedScheme => "peer misbehaved: SignedHandshakeWithUnadvertisedSigScheme"

/-- Why a file gives no TLS materials. -/
inductive LoadFault where
  | unopened (reason : String)
  | unread (reason : String)
  | pem (f : PemFault)
  | noCertificates
  | noPrivateKey
  | anchor (f : CertificateFault)
  deriving DecidableEq, Repr

def LoadFault.message : LoadFault → String
  | unopened reason => reason
  | unread reason => s!"invalid PEM: {reason}"
  | pem f => s!"invalid PEM: {f.message}"
  | noCertificates => "no certificates found"
  | noPrivateKey => "no private key found"
  | anchor f => (TlsError.certificate f).message

inductive SetupError where
  | load (path : String) (f : LoadFault)
  | options (e : OptionsError)
  | serverName (name : String)
  | rejected (e : TlsError)
  | noRoots
  deriving DecidableEq, Repr

def SetupError.message : SetupError → String
  | load path f => s!"Failed to load '{path}': {f.message}"
  | options e => s!"Invalid TLS options: {e.message}"
  | serverName name => s!"Invalid TLS server name '{name}'"
  | rejected e => s!"TLS configuration rejected: {e.message}"
  | noRoots => "Failed to build the certificate verifier: no root trust anchors were provided"

/-! Files -/

def readMaterial : FileContent → Except LoadFault Bytes
  | .unopened reason => .error (.unopened reason)
  | .unread reason => .error (.unread reason)
  | .bytes b => .ok b

/-- The certificates of a file, of which there is at least one. -/
def loadCertificates (content : FileContent) : Except LoadFault (List Bytes) := do
  let text ← readMaterial content
  match Pem.certificates text with
  | .error f => throw (.pem f)
  | .ok [] => throw .noCertificates
  | .ok list => return list

def loadPrivateKey (content : FileContent) : Except LoadFault Section := do
  let text ← readMaterial content
  match Pem.privateKey? text with
  | .error f => throw (.pem f)
  | .ok none => throw .noPrivateKey
  | .ok (some key) => return key

def readAnchor (der : Bytes) : Except LoadFault TrustAnchor :=
  match TrustAnchor.ofDer der with
  | .ok a => .ok a
  | .error f => .error (.anchor f)

/-- The trusted keys of a bundle, all of which have to be usable. -/
def loadBundle (content : FileContent) : Except LoadFault (List TrustAnchor) := do
  (← loadCertificates content).mapM readAnchor

/-- Faults of a file name its path. -/
def atPath (path : String) (r : Except LoadFault α) : Except SetupError α :=
  match r with
  | .ok a => .ok a
  | .error f => .error (.load path f)

/-! Configuration -/

/-- The roots that the machine trusts and what went wrong when they were read. -/
structure Platform where
  roots : List Bytes
  faults : List String

/-- What a client proves itself with. -/
structure Identity where
  chain : List Bytes
  key : PrivateKey
  deriving DecidableEq, Repr

/-- Whom a client trusts. -/
inductive Trust where
  | anyone
  | anchors (trusted : List TrustAnchor)
  deriving DecidableEq, Repr

structure ClientConfig where
  trust : Trust
  identity : Option Identity
  deriving DecidableEq, Repr

/-- A private key that belongs to the first certificate of a chain. -/
def Identity.ofParts (chain : List Bytes) (key : Section) : Except TlsError Identity :=
  match PrivateKey.ofSection? key with
  | none => .error .privateKey
  | some key =>
    match Certificate.ofDer (chain.headD []) with
    | .error f => .error (.certificate f)
    | .ok c => if c.key = key.publicKey then .ok ⟨chain, key⟩ else .error .keyMismatch

/-- The usable roots of the machine, and lines on what was left out. -/
def Platform.anchors (p : Platform) : List String × List TrustAnchor :=
  let usable := p.roots.filterMap fun der => (TrustAnchor.ofDer der).toOption
  let ignored := p.roots.length - usable.length
  (p.faults.map (s!"failed to load a platform root certificate: {·}") ++
    [s!"loaded {usable.length} platform root certificates ({ignored} ignored)"], usable)

/-- The roots that the options name, if they name any. -/
def Options.bundle (o : Options) (files : Files) : Except SetupError (Option (List TrustAnchor)) :=
  match o.ca with
  | none => .ok none
  | some path => do return some (← atPath path (loadBundle (files path)))

/-- Whom to trust, and lines on it. -/
def Options.trust (o : Options) (platform : Platform) (bundle : Option (List TrustAnchor)) :
    List String × Except SetupError Trust :=
  if o.insecure then
    ("TLS certificate verification is disabled (insecure mode)" ::
      (o.ca.map (s!"CA bundle '{·}' is ignored in insecure mode")).toList, .ok .anyone)
  else
    let (lines, roots) := match bundle with
      | some roots => ([], roots)
      | none => platform.anchors
    (lines, if roots.isEmpty then .error .noRoots else .ok (.anchors roots))

/-- The certificate is read before the key. -/
def Options.identity (o : Options) (files : Files) : Except SetupError (Option Identity) :=
  match o.key, o.cert with
  | some key, some cert => do
    let chain ← atPath cert (loadCertificates (files cert))
    let secret ← atPath key (loadPrivateKey (files key))
    match Identity.ofParts chain secret with
    | .ok identity => return some identity
    | .error e => throw (.rejected e)
  | _, _ => .ok none

def ClientConfig.ofOptions (files : Files) (platform : Platform) (o : Options) :
    List String × Except SetupError ClientConfig :=
  match o.validate with
  | .error e => ([], .error (.options e))
  | .ok () =>
    match o.bundle files with
    | .error e => ([], .error e)
    | .ok bundle =>
      let (lines, trust) := o.trust platform bundle
      (lines, do return ⟨← trust, ← o.identity files⟩)

/-- A configuration together with the name that stands in for the host of every URL. -/
structure TlsConnector where
  config : ClientConfig
  serverName : Option ServerName
  deriving DecidableEq, Repr

namespace TlsConnector

def ofConfig (config : ClientConfig) (name : Option String) : Except SetupError TlsConnector :=
  match name with
  | none => .ok ⟨config, none⟩
  | some text =>
    match ServerName.ofText? text with
    | some name => .ok ⟨config, some name⟩
    | none => .error (.serverName text)

def ofOptions (files : Files) (platform : Platform) (o : Options) :
    List String × Except SetupError TlsConnector :=
  let (lines, config) := ClientConfig.ofOptions files platform o
  (lines, do ofConfig (← config) o.serverName)

end TlsConnector

end DynamicRpc.Tls
