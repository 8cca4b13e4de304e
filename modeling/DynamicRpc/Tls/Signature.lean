import DynamicRpc.Crypto.Edwards
import DynamicRpc.Crypto.PrimeCurve
import DynamicRpc.Crypto.Rsa
import DynamicRpc.Tls.Certificate

/-!
Signature algorithms and the bytes that identify them in certificates, and the numbers that
identify them in a handshake. An algorithm says of which kind the public key has to be.
-/
namespace DynamicRpc.Tls

open Crypto Der

inductive NamedCurve where
  | p256
  | p384
  | p521
  deriving DecidableEq, Repr

namespace NamedCurve

def curve : NamedCurve → PrimeCurve
  | p256 => .p256
  | p384 => .p384
  | p521 => .p521

/-- The identifier as it is written, tag and length included. -/
def oid : NamedCurve → Bytes
  | p256 => [0x06, 0x08, 0x2a, 0x86, 0x48, 0xce, 0x3d, 0x03, 0x01, 0x07]
  | p384 => [0x06, 0x05, 0x2b, 0x81, 0x04, 0x00, 0x22]
  | p521 => [0x06, 0x05, 0x2b, 0x81, 0x04, 0x00, 0x23]

def all : List NamedCurve := [p256, p384, p521]

end NamedCurve

inductive SignatureAlgorithm where
  | ecdsa (curve : NamedCurve) (hash : Hash)
  | ed25519
  | rsaSalted (hash : Hash)
  /-- The identifier may lack its empty parameters. -/
  | rsa (hash : Hash) (parameters : Bool)
  deriving DecidableEq, Repr

/-! Identifiers -/

def curveKeyOid : Bytes := [0x06, 0x07, 0x2a, 0x86, 0x48, 0xce, 0x3d, 0x02, 0x01]

def edwardsOid : Bytes := [0x06, 0x03, 0x2b, 0x65, 0x70]

/-- An identifier of the RSA family, by its last number. -/
def rsaOid (last : UInt8) : Bytes :=
  [0x06, 0x09, 0x2a, 0x86, 0x48, 0x86, 0xf7, 0x0d, 0x01, 0x01, last]

def noParameters : Bytes := [0x05, 0x00]

/-- The number by which the identifiers of a hash function are told apart. -/
def hashNumber : Hash → UInt8
  | .sha256 => 1
  | .sha384 => 2
  | .sha512 => 3

def hashSize : Hash → UInt8
  | .sha256 => 32
  | .sha384 => 48
  | .sha512 => 64

def hashIdentifier (h : Hash) : Bytes :=
  [0x30, 0x0d, 0x06, 0x09, 0x60, 0x86, 0x48, 0x01, 0x65, 0x03, 0x04, 0x02, hashNumber h] ++
    noParameters

namespace SignatureAlgorithm

/-- What identifies the algorithm in a certificate. -/
def identifier : SignatureAlgorithm → Bytes
  | ecdsa _ h => [0x06, 0x08, 0x2a, 0x86, 0x48, 0xce, 0x3d, 0x04, 0x03, hashNumber h + 1]
  | ed25519 => edwardsOid
  | rsaSalted h =>
    rsaOid 0x0a ++ [0x30, 0x34, 0xa0, 0x0f] ++ hashIdentifier h ++ [0xa1, 0x1c, 0x30, 0x1a] ++
      rsaOid 0x08 ++ hashIdentifier h ++ [0xa2, 0x03, 0x02, 0x01, hashSize h]
  | rsa h parameters =>
    rsaOid (hashNumber h + 0x0a) ++ if parameters then noParameters else []

/-- What identifies the kind of its public keys. -/
def keyIdentifier : SignatureAlgorithm → Bytes
  | ecdsa c _ => curveKeyOid ++ c.oid
  | ed25519 => edwardsOid
  | rsaSalted _ | rsa _ _ => rsaOid 0x01 ++ noParameters

def hashes : List Hash := [.sha256, .sha384, .sha512]

/-- In the order in which they are tried. -/
def all : List SignatureAlgorithm :=
  (NamedCurve.all.flatMap fun c => hashes.map (ecdsa c)) ++ [ed25519] ++ hashes.map rsaSalted ++
    (hashes.map fun h => rsa h true) ++ hashes.map fun h => rsa h false

def readRsaKey : Read RsaKey :=
  nested .sequence malformed do
    let modulus ← readNatural
    let exponent ← readNatural
    return ⟨modulus, exponent⟩

/-- The two numbers of a signature on a curve. -/
def readPair : Read (Nat × Nat) :=
  nested .sequence malformed do
    let r ← readNatural
    let s ← readNatural
    return (r, s)

/-- Whether a signature fits a message and a public key. -/
def verifies (a : SignatureAlgorithm) (key message signature : Bytes) : Bool :=
  match a with
  | ecdsa c h =>
    match c.curve.decode? key, whole malformed readPair signature with
    | some point, .ok (r, s) => c.curve.verifies point (h.digest message) r s
    | _, _ => false
  | ed25519 => Edwards.verifies key message signature
  | rsaSalted h =>
    match whole malformed readRsaKey key with
    | .ok k => k.verifiesSalted h message signature
    | .error _ => false
  | rsa h _ =>
    match whole malformed readRsaKey key with
    | .ok k => k.verifies h message signature
    | .error _ => false

def readKey : Read (Bytes × Bytes) := do
  let algorithm ← expect .sequence
  let key ← readBits
  return (algorithm, key)

/-- Checks a signature against a public key as a certificate holds it. -/
def check (a : SignatureAlgorithm) (key message signature : Bytes) :
    Except CertificateFault Unit := do
  let (algorithm, bits) ← whole trailing readKey key
  if algorithm ≠ a.keyIdentifier then throw (.unsupportedForKey a.identifier algorithm)
  if !a.verifies bits message signature then throw .signature

/-- Checks with the first algorithm that suits the key. -/
def checkFirst (fault : CertificateFault) (key message signature : Bytes) :
    List SignatureAlgorithm → Except CertificateFault Unit
  | [] => .error fault
  | a :: rest =>
    match a.check key message signature with
    | .error (.unsupportedForKey algorithm k) =>
      checkFirst (.unsupportedForKey algorithm k) key message signature rest
    | result => result

end SignatureAlgorithm

/-- Checks a signed part against a public key. -/
def Signed.check (s : Signed) (key : Bytes) : Except CertificateFault Unit :=
  SignatureAlgorithm.checkFirst
    (.unsupportedAlgorithm s.algorithm (SignatureAlgorithm.all.map (·.identifier))) key s.content
    s.signature (SignatureAlgorithm.all.filter fun a => a.identifier = s.algorithm)

/-! Handshakes -/

/-- How a handshake was signed, by its number. -/
structure SignatureScheme where
  number : Nat
  deriving DecidableEq, Repr

namespace SignatureScheme

def names : List (Nat × String) :=
  [(0x0201, "RSA_PKCS1_SHA1"), (0x0203, "ECDSA_SHA1_Legacy"), (0x0401, "RSA_PKCS1_SHA256"),
    (0x0403, "ECDSA_NISTP256_SHA256"), (0x0501, "RSA_PKCS1_SHA384"),
    (0x0503, "ECDSA_NISTP384_SHA384"), (0x0601, "RSA_PKCS1_SHA512"),
    (0x0603, "ECDSA_NISTP521_SHA512"), (0x0804, "RSA_PSS_SHA256"), (0x0805, "RSA_PSS_SHA384"),
    (0x0806, "RSA_PSS_SHA512"), (0x0807, "ED25519"), (0x0808, "ED448"), (0x0904, "ML_DSA_44"),
    (0x0905, "ML_DSA_65"), (0x0906, "ML_DSA_87")]

def name (s : SignatureScheme) : String :=
  match names.find? (·.1 = s.number) with
  | some (_, name) => name
  | none => s!"SignatureScheme(0x{String.ofList (Nat.toDigits 16 s.number)})"

/-- Algorithms that a scheme stands for, the one that it names first. Up to version 1.2 a scheme
does not fix the curve. -/
def algorithms (s : SignatureScheme) : List SignatureAlgorithm :=
  match s.number with
  | 0x0403 => [.ecdsa .p256 .sha256, .ecdsa .p384 .sha256, .ecdsa .p521 .sha256]
  | 0x0503 => [.ecdsa .p384 .sha384, .ecdsa .p256 .sha384, .ecdsa .p521 .sha384]
  | 0x0603 => [.ecdsa .p521 .sha512, .ecdsa .p384 .sha512, .ecdsa .p256 .sha512]
  | 0x0807 => [.ed25519]
  | 0x0804 => [.rsaSalted .sha256]
  | 0x0805 => [.rsaSalted .sha384]
  | 0x0806 => [.rsaSalted .sha512]
  | 0x0401 => [.rsa .sha256 true]
  | 0x0501 => [.rsa .sha384 true]
  | 0x0601 => [.rsa .sha512 true]
  | _ => []

/-- Algorithms of version 1.3, which has no plain RSA signatures. -/
def algorithms13 (s : SignatureScheme) : List SignatureAlgorithm :=
  match s.algorithms with
  | .rsa .. :: _ => []
  | list => list.take 1

end SignatureScheme

end DynamicRpc.Tls
