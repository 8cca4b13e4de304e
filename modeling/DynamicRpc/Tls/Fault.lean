import DynamicRpc.Text.Quoted
import DynamicRpc.Tls.ServerName

/-!
Why a certificate is refused. When every way to build a chain fails, the fault that says most is the
one reported.
-/
namespace DynamicRpc.Tls

/-- How the bytes of a certificate depart from their encoding. -/
inductive EncodingFault where
  | value
  | time
  | trailing
  deriving DecidableEq, Repr

inductive CertificateFault where
  | encoding (f : EncodingFault)
  | version
  | criticalExtension
  | repeatedExtension
  /-- The algorithm inside the signed part differs from the one outside. -/
  | algorithmMismatch
  | notYetValid (now start : Nat)
  | expired (now finish : Nat)
  /-- Validity ends before it begins. -/
  | validity
  | authorityAsEnd
  | endAsAuthority
  | pathLength
  | purpose (presented : List (List Nat))
  | nameConstraint
  | networkMask
  | malformedConstraint
  | unknownIssuer
  | signature
  | unsupportedAlgorithm (algorithm : Bytes) (supported : List Bytes)
  | unsupportedForKey (algorithm key : Bytes)
  | tooDeep
  | tooManySignatures
  | name (expected : ServerName) (presented : List GeneralName)
  deriving DecidableEq, Repr

def serverPurpose : List Nat := [1, 3, 6, 1, 5, 5, 7, 3, 1]

def clientPurpose : List Nat := [1, 3, 6, 1, 5, 5, 7, 3, 2]

def purposeText (oid : List Nat) : String :=
  if oid = serverPurpose then "server authentication"
  else if oid = clientPurpose then "client authentication"
  else String.intercalate ", " (oid.map toString)

/-- Names as in `a, b or c`. -/
def presentedText : List String → String
  | [] => "is not valid for any names (according to its subjectAltName extension)"
  | [one] => s!"is only valid for {one}"
  | many =>
    "is only valid for " ++ String.intercalate ", " many.dropLast ++ " or " ++
      many.getLast?.getD ""

def byteList (b : Bytes) : String :=
  "[" ++ String.intercalate ", " (b.map fun x => toString x.toNat) ++ "]"

def hexText (b : Bytes) : String := "0x" ++ String.join (b.map GeneralName.hexPair)

namespace CertificateFault

def other (name : String) : String := s!"Other(OtherError({name}))"

def message : CertificateFault → String
  | encoding _ => "BadEncoding"
  | version => other "UnsupportedCertVersion"
  | criticalExtension => other "UnsupportedCriticalExtension"
  | repeatedExtension => other "ExtensionValueInvalid"
  | algorithmMismatch => other "SignatureAlgorithmMismatch"
  | notYetValid now start =>
    s!"certificate not valid yet: verification time {now} (UNIX), but certificate is not valid " ++
      s!"before {start} ({start - now} seconds in future)"
  | expired now finish =>
    s!"certificate expired: verification time {now} (UNIX), but certificate is not valid after " ++
      s!"{finish} ({now - finish} seconds ago)"
  | validity => "Expired"
  | authorityAsEnd => other "CaUsedAsEndEntity"
  | endAsAuthority => other "EndEntityUsedAsCa"
  | pathLength => other "PathLenConstraintViolated"
  | purpose presented =>
    s!"certificate does not allow extended key usage for {purposeText serverPurpose}, allows " ++
      String.intercalate ", " (presented.map purposeText)
  | nameConstraint => other "NameConstraintViolation"
  | networkMask => other "InvalidNetworkMaskConstraint"
  | malformedConstraint => other "MalformedNameConstraint"
  | unknownIssuer => "UnknownIssuer"
  | signature => "BadSignature"
  | unsupportedAlgorithm algorithm supported =>
    s!"UnsupportedSignatureAlgorithmContext \x7b signature_algorithm_id: {byteList algorithm}, " ++
      "supported_algorithms: [" ++ String.intercalate ", " (supported.map hexText) ++ "] \x7d"
  | unsupportedForKey algorithm key =>
    "UnsupportedSignatureAlgorithmForPublicKeyContext \x7b signature_algorithm_id: " ++
      s!"{byteList algorithm}, public_key_algorithm_id: {byteList key} \x7d"
  | tooDeep => other "MaximumPathDepthExceeded"
  | tooManySignatures => other "MaximumSignatureChecksExceeded"
  | name expected presented =>
    s!"certificate not valid for name {Text.quote expected.text}; certificate " ++
      presentedText (presented.map GeneralName.shown)

/-- How much a fault says about why a chain fails. -/
def rank : CertificateFault → Nat
  | notYetValid .. | expired .. => 290
  | name .. => 280
  | signature => 260
  | algorithmMismatch => 250
  | purpose _ => 240
  | nameConstraint => 230
  | pathLength => 220
  | authorityAsEnd | endAsAuthority => 210
  | validity => 190
  | networkMask => 180
  | unsupportedForKey .. => 150
  | unsupportedAlgorithm .. => 140
  | criticalExtension | version => 130
  | tooDeep => 61
  | malformedConstraint => 50
  | encoding .trailing => 40
  | repeatedExtension => 30
  | encoding .time => 20
  | encoding .value => 10
  | unknownIssuer | tooManySignatures => 0

/-- The fault that says more, the first if both say as much. -/
def mostSpecific (a b : CertificateFault) : CertificateFault := if b.rank ≤ a.rank then a else b

/-- The search for a chain ends at once. -/
def isFatal (f : CertificateFault) : Bool := f = tooManySignatures

end CertificateFault

end DynamicRpc.Tls
