import DynamicRpc.Tls.Pem
import DynamicRpc.Tls.Signature

/-!
Private keys of clients and the public keys that belong to them, in the form in which certificates
hold them.
-/
namespace DynamicRpc.Tls

open Crypto Der

inductive PrivateKey where
  | rsa (key : RsaKey)
  | curve (c : NamedCurve) (point : CurvePoint)
  | edwards (publicKey : Bytes)
  deriving DecidableEq, Repr

namespace PrivateKey

/-! Reading -/

/-- Both primes and the exponents have to fit together. -/
def readRsa : Read PrivateKey :=
  nested .sequence malformed do
    if (← readNatural) ≠ 0 then throw malformed
    let n ← readNatural
    let e ← readNatural
    let d ← readNatural
    let p ← readNatural
    let q ← readNatural
    let dp ← readNatural
    let dq ← readNatural
    let inverse ← readNatural
    let key : RsaKey := ⟨n, e⟩
    let fits := p > 1 && q > 1 && n = p * q && d < n &&
      e * d % (p - 1) = 1 && e * d % (q - 1) = 1 &&
      dp = d % (p - 1) && dq = d % (q - 1) && inverse < p && inverse * q % p = 1
    if key.isAccepted && fits then return .rsa key else throw malformed

/-- A key on a curve. The curve and the public key may be left out. -/
def readCurve (c : NamedCurve) : Read PrivateKey :=
  nested .sequence malformed do
    if (← readNatural) ≠ 1 then throw malformed
    let secret ← expect .octetString
    if ← peek (.context 0) then
      if (← expect (.context 0)) ≠ c.oid then throw malformed
    let written ← if ← peek (.context 1) then
        some <$> nested (.context 1) malformed readBits
      else pure none
    match c.curve.publicKey? (natOfBytes secret) with
    | none => throw malformed
    | some point =>
      if written.isNone || written = some (c.curve.encode point) then return .curve c point
      else throw malformed

def readEdwards : Read PrivateKey := do
  let secret ← expect .octetString
  if secret.length = 32 then return .edwards (Edwards.publicKey secret) else throw malformed

/-- A key under the identifier of its algorithm; what comes after it does not count. -/
def readWrapped : Read PrivateKey :=
  nested .sequence malformed do
    if (← readNatural) > 1 then throw malformed
    let algorithm ← expect .sequence
    let content ← expect .octetString
    set ([] : Bytes)
    if algorithm = rsaOid 0x01 ++ noParameters then
      readWhole readRsa content
    else if algorithm = edwardsOid then
      readWhole readEdwards content
    else
      match NamedCurve.all.find? fun c => algorithm = curveKeyOid ++ c.oid with
      | some c => readWhole (readCurve c) content
      | none => throw malformed
where
  readWhole (r : Read PrivateKey) (b : Bytes) : Read PrivateKey := fun rest => do
    return (← whole malformed r b, rest)

/-- A key on any of the curves. -/
def ofCurveKey? (b : Bytes) : Option PrivateKey :=
  NamedCurve.all.findSome? fun c => (whole malformed (readCurve c) b).toOption

def ofSection? (s : Section) : Option PrivateKey :=
  match s.kind with
  | .rsaKey => (whole malformed readRsa s.content).toOption
  | .privateKey => (whole malformed readWrapped s.content).toOption
  | .ecKey => ofCurveKey? s.content
  | _ => none

/-! The public key -/

/-- A length in its shortest form. -/
def lengthBytes (n : Nat) : Bytes :=
  if n < 128 then [UInt8.ofNat n]
  else
    let digits := bytesOfNat ((bitLength n + 7) / 8) n
    UInt8.ofNat (0x80 + digits.length) :: digits

def write (t : Tag) (content : Bytes) : Bytes := t.byte :: lengthBytes content.length ++ content

/-- A number that is not negative, in its shortest form. -/
def writeNatural (n : Nat) : Bytes := write .integer (bytesOfNat (bitLength n / 8 + 1) n)

/-- Algorithm and value of the public key. -/
def publicKey : PrivateKey → Bytes
  | rsa k =>
    write .sequence (rsaOid 0x01 ++ noParameters) ++
      write .bitString (0 :: write .sequence (writeNatural k.modulus ++ writeNatural k.exponent))
  | curve c point =>
    write .sequence (curveKeyOid ++ c.oid) ++ write .bitString (0 :: c.curve.encode point)
  | edwards b => write .sequence edwardsOid ++ write .bitString (0 :: b)

end PrivateKey

end DynamicRpc.Tls
