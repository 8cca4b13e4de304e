import DynamicRpc.Tls.Der

/-!
Certificates as far as they are checked. Extensions that are not known must not be critical, and
none may come twice.
-/
namespace DynamicRpc.Tls

open Der

/-- What a signature covers, and the signature. -/
structure Signed where
  content : Bytes
  algorithm : Bytes
  signature : Bytes
  deriving DecidableEq, Repr

/-- Known extensions. The number is the last one of the identifier. -/
inductive ExtensionKind where
  | keyUsage
  | alternativeNames
  | basicConstraints
  | nameConstraints
  | revocationPoints
  | purposes
  deriving DecidableEq, Repr

namespace ExtensionKind

def number : ExtensionKind → UInt8
  | keyUsage => 15
  | alternativeNames => 17
  | basicConstraints => 19
  | nameConstraints => 30
  | revocationPoints => 31
  | purposes => 37

def all : List ExtensionKind :=
  [keyUsage, alternativeNames, basicConstraints, nameConstraints, revocationPoints, purposes]

def ofOid? (oid : Bytes) : Option ExtensionKind := all.find? fun k => oid = [0x55, 0x1d, k.number]

end ExtensionKind

structure Certificate where
  signed : Signed
  issuer : Bytes
  validity : Bytes
  subject : Bytes
  /-- Algorithm and value of the public key. -/
  key : Bytes
  extensions : List (ExtensionKind × Bytes)
  deriving DecidableEq, Repr

namespace Certificate

def extension? (c : Certificate) (k : ExtensionKind) : Option Bytes :=
  (c.extensions.find? (·.1 = k)).map (·.2)

structure RawExtension where
  oid : Bytes
  critical : Bool
  value : Bytes

def readExtension : Read RawExtension := do
  let oid ← expect .oid
  let critical ← readBoolean
  let value ← expect .octetString
  return ⟨oid, critical, value⟩

/-- Adds an extension. All but the first kind are sequences. -/
def remember (known : List (ExtensionKind × Bytes)) (x : RawExtension) :
    Except CertificateFault (List (ExtensionKind × Bytes)) :=
  match ExtensionKind.ofOid? x.oid with
  | none => if x.critical then throw .criticalExtension else return known
  | some kind => do
    if known.any (·.1 = kind) then throw .repeatedExtension
    let value ← if kind = .keyUsage then pure x.value
      else whole malformed (expect .sequence) x.value
    return known ++ [(kind, value)]

/-- Reads extensions one after the other, so that the first fault is the one reported. -/
def readExtensions : Read (List (ExtensionKind × Bytes)) := do
  go (← get).length []
where
  go : Nat → List (ExtensionKind × Bytes) → Read (List (ExtensionKind × Bytes))
    | 0, known => return known
    | n + 1, known => do
      if ← atEnd then return known
      let more ← nested .sequence trailing do
        let x ← readExtension
        liftM (remember known x)
      go n more

/-- The signed part, and the signature behind it. -/
def readSigned : Read (Bytes × Signed) := do
  let start ← get
  let part ← expect .sequence
  let rest ← get
  let algorithm ← expect .sequence
  let signature ← readBits
  return (part, ⟨start.take (start.length - rest.length), algorithm, signature⟩)

/-- The third version, which is the number two. -/
def readVersion : Read Unit :=
  nested (.context 0) .version do
    if (← readSmall) ≠ 2 then throw .version

def readBody (signed : Signed) : Read Certificate := do
  readVersion
  let _ ← expect .integer
  let algorithm ← expect .sequence
  if algorithm ≠ signed.algorithm then throw .algorithmMismatch
  let issuer ← expect .sequence
  let validity ← expect .sequence
  let subject ← expect .sequence
  let key ← expect .sequence
  let extensions ←
    if ← atEnd then pure []
    else nested (.context 3) trailing (nested .sequence trailing readExtensions)
  return ⟨signed, issuer, validity, subject, key, extensions⟩

def ofDer (b : Bytes) : Except CertificateFault Certificate := do
  let (part, signed) ← whole trailing (nested .sequence trailing readSigned) b
  whole trailing (readBody signed) part

/-- Names that the certificate presents, before the first one that cannot be read, and the fault of
that one. -/
def presented (c : Certificate) : List GeneralName × Option CertificateFault :=
  match c.extension? .alternativeNames with
  | some b => go b.length b
  | none => ([], none)
where
  readName : Read GeneralName := do
    let (tag, content) ← any
    if tag = 0x82 then return .domain content
    else if tag = 0xa4 then return .directory
    else if tag = 0x86 then return .uri content
    else if tag = 0x87 then return .address content
    else if tag = 0xa0 || tag = 0x81 || tag = 0xa3 || tag = 0xa5 || tag = 0x88 then
      return .unsupported (tag.toNat % 32)
    else throw malformed
  go : Nat → Bytes → List GeneralName × Option CertificateFault
    | 0, _ => ([], none)
    | n + 1, b =>
      if b.isEmpty then ([], none)
      else
        match readName b with
        | .error e => ([], some e)
        | .ok (name, rest) =>
          let (more, fault?) := go n rest
          (name :: more, fault?)

end Certificate

/-- A key that is trusted to sign for a name, within constraints. -/
structure TrustAnchor where
  subject : Bytes
  key : Bytes
  nameConstraints : Option Bytes
  deriving DecidableEq, Repr

namespace TrustAnchor

/-- Reads a certificate of the first version, which has no extensions. -/
def readFirstVersion : Read TrustAnchor :=
  nested .sequence malformed do
    let anchor ← nested .sequence malformed do
      let _ ← expect .integer
      let _ ← expect .sequence
      let _ ← expect .sequence
      let _ ← expect .sequence
      let subject ← expect .sequence
      let key ← expect .sequence
      return ⟨subject, key, none⟩
    let _ ← expect .sequence
    let _ ← expect .bitString
    return anchor

def ofDer (b : Bytes) : Except CertificateFault TrustAnchor :=
  match Certificate.ofDer b with
  | .ok c => .ok ⟨c.subject, c.key, c.extension? .nameConstraints⟩
  | .error .version =>
    match whole malformed readFirstVersion b with
    | .ok anchor => .ok anchor
    | .error _ => .error malformed
  | .error e => .error e

end TrustAnchor

end DynamicRpc.Tls
