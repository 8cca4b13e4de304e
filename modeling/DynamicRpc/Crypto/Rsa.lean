import DynamicRpc.Crypto.Modular
import DynamicRpc.Crypto.Sha2

/-!
Signatures by a power modulo a product of two primes. The signed number holds a digest, either as
it is behind fixed bytes or masked together with a salt.
-/
namespace DynamicRpc.Crypto

structure RsaKey where
  modulus : Nat
  exponent : Nat
  deriving DecidableEq, Repr

namespace RsaKey

/-- Bits of an accepted modulus. -/
def minBits : Nat := 2048

def maxBits : Nat := 8192

def isAccepted (k : RsaKey) : Bool :=
  minBits ≤ bitLength k.modulus && bitLength k.modulus ≤ maxBits && k.modulus % 2 = 1 &&
    3 ≤ k.exponent && bitLength k.exponent ≤ 33 && k.exponent % 2 = 1

def size (k : RsaKey) : Nat := (bitLength k.modulus + 7) / 8

/-- The number that a signature holds, in `length` bytes. -/
def recover? (k : RsaKey) (length : Nat) (signature : Bytes) : Option Bytes :=
  let s := natOfBytes signature
  if k.isAccepted && signature.length = k.size && s < k.modulus then
    let n := powMod k.modulus s k.exponent
    if n < Nat.pow 256 length then some (bytesOfNat length n) else none
  else none

/-- The identifier of a hash function and the length of its digest, as they stand before it. -/
def digestMark : Hash → Bytes
  | .sha256 => [0x30, 0x31, 0x30, 0x0d, 0x06, 0x09, 0x60, 0x86, 0x48, 0x01, 0x65, 0x03, 0x04, 0x02,
      0x01, 0x05, 0x00, 0x04, 0x20]
  | .sha384 => [0x30, 0x41, 0x30, 0x0d, 0x06, 0x09, 0x60, 0x86, 0x48, 0x01, 0x65, 0x03, 0x04, 0x02,
      0x02, 0x05, 0x00, 0x04, 0x30]
  | .sha512 => [0x30, 0x51, 0x30, 0x0d, 0x06, 0x09, 0x60, 0x86, 0x48, 0x01, 0x65, 0x03, 0x04, 0x02,
      0x03, 0x05, 0x00, 0x04, 0x40]

/-- The digest stands behind ones, a zero and its mark. -/
def verifies (k : RsaKey) (h : Hash) (message signature : Bytes) : Bool :=
  let tail := 0 :: digestMark h ++ h.digest message
  let ones := List.replicate (k.size - tail.length - 2) 0xff
  k.recover? k.size signature = some (0 :: 1 :: ones ++ tail)

/-- The first `length` bytes of the digests of a seed with a count behind it. -/
def mask (h : Hash) (seed : Bytes) (length : Nat) : Bytes :=
  ((List.range (length / (h.digest []).length + 1)).flatMap fun i =>
    h.digest (seed ++ bytesOfNat 4 i)).take length

/-- The digest is masked by a salt as long as itself. -/
def verifiesSalted (k : RsaKey) (h : Hash) (message signature : Bytes) : Bool :=
  let digest := h.digest message
  let bits := bitLength k.modulus - 1
  let length := (bits + 7) / 8
  match k.recover? length signature with
  | none => false
  | some em =>
    let dataLength := length - digest.length - 1
    let masked := em.take dataLength
    let check := (em.drop dataLength).take digest.length
    let spare := UInt8.ofNat (Nat.pow 2 (8 - (8 * length - bits)) - 1)
    let unmasked := (masked.zip (mask h check dataLength)).map fun p => p.1 ^^^ p.2
    match unmasked, masked with
    | first :: rest, firstMasked :: _ =>
      let salt := unmasked.drop (dataLength - digest.length)
      let zeros := List.replicate (dataLength - digest.length - 1) (0 : UInt8)
      firstMasked &&& (0xff - spare) = 0 &&
        ((first &&& spare) :: rest).take (dataLength - digest.length) = zeros ++ [1] &&
        em.getLast? = some 0xbc && length ≥ 2 * digest.length + 2 &&
        h.digest (List.replicate 8 0 ++ digest ++ salt) = check
    | _, _ => false

end RsaKey

end DynamicRpc.Crypto
