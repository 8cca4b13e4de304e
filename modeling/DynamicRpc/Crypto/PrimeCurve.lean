import DynamicRpc.Crypto.Modular
import DynamicRpc.Crypto.Sha2

/-!
Elliptic curves over a prime field, `y² = x³ - 3x + b`, and signatures on them. A signature is a
pair of numbers; it is valid if the point that it fixes together with the message and the public
key has the first number as its coordinate.
-/
namespace DynamicRpc.Crypto

inductive CurvePoint where
  | infinity
  | affine (x y : Nat)
  deriving DecidableEq, Repr

/-- A curve, a point on it and the prime order of that point. -/
structure PrimeCurve where
  prime : Nat
  b : Nat
  baseX : Nat
  baseY : Nat
  order : Nat
  deriving DecidableEq, Repr

namespace PrimeCurve

def p256 : PrimeCurve where
  prime := Nat.pow 2 256 - Nat.pow 2 224 + Nat.pow 2 192 + Nat.pow 2 96 - 1
  b := 0x5ac635d8aa3a93e7b3ebbd55769886bc651d06b0cc53b0f63bce3c3e27d2604b
  baseX := 0x6b17d1f2e12c4247f8bce6e563a440f277037d812deb33a0f4a13945d898c296
  baseY := 0x4fe342e2fe1a7f9b8ee7eb4a7c0f9e162bce33576b315ececbb6406837bf51f5
  order := 0xffffffff00000000ffffffffffffffffbce6faada7179e84f3b9cac2fc632551

def p384 : PrimeCurve where
  prime := Nat.pow 2 384 - Nat.pow 2 128 - Nat.pow 2 96 + Nat.pow 2 32 - 1
  b := 0xb3312fa7e23ee7e4988e056be3f82d19181d9c6efe8141120314088f5013875ac656398d8a2ed19d2a85c8edd3ec2aef
  baseX := 0xaa87ca22be8b05378eb1c71ef320ad746e1d3b628ba79b9859f741e082542a385502f25dbf55296c3a545e3872760ab7
  baseY := 0x3617de4a96262c6f5d9e98bf9292dc29f8f41dbd289a147ce9da3113b5f0b8c00a60b1ce1d7e819d7a431d7c90ea0e5f
  order := 0xffffffffffffffffffffffffffffffffffffffffffffffffc7634d81f4372ddf581a0db248b0a77aecec196accc52973

def p521 : PrimeCurve where
  prime := Nat.pow 2 521 - 1
  b := 0x051953eb9618e1c9a1f929a21a0b68540eea2da725b99b315f3b8b489918ef109e156193951ec7e937b1652c0bd3bb1bf073573df883d2c34f1ef451fd46b503f00
  baseX := 0xc6858e06b70404e9cd9e3ecb662395b4429c648139053fb521f828af606b4d3dbaa14b5e77efe75928fe1dc127a2ffa8de3348b3c1856a429bf97e7e31c2e5bd66
  baseY := 0x11839296a789a3bc0045c8a5fb42c7d1bd998f54449579b446817afbd17273e662c97ee72995ef42640c550b9013fad0761353c7086a272c24088be94769fd16650
  order := 0x1fffffffffffffffffffffffffffffffffffffffffffffffffffffffffffffffffa51868783bf2f966b7fcc0148f709a5d03bb5c9b8899c47aebb6fb71e91386409

/-- Bytes of a coordinate. -/
def size (c : PrimeCurve) : Nat := (bitLength c.prime + 7) / 8

def base (c : PrimeCurve) : CurvePoint := .affine c.baseX c.baseY

def isOn (c : PrimeCurve) (x y : Nat) : Bool :=
  x < c.prime && y < c.prime && (y * y + 3 * x) % c.prime = (x * x * x + c.b) % c.prime

/-- The third point on a line through `(x, y)` and a point with abscissa `x'`, mirrored. -/
def third (c : PrimeCurve) (slope x y x' : Nat) : CurvePoint :=
  let z := (slope * slope + 2 * c.prime - x - x') % c.prime
  .affine z (subMod c.prime (slope * subMod c.prime x z % c.prime) y)

def add (c : PrimeCurve) : CurvePoint → CurvePoint → CurvePoint
  | .infinity, q => q
  | p, .infinity => p
  | .affine x y, .affine x' y' =>
    if x ≠ x' then
      c.third (subMod c.prime y' y * invMod c.prime (subMod c.prime x' x) % c.prime) x y x'
    else if y ≠ y' || y = 0 then .infinity
    else
      c.third (subMod c.prime (3 * x * x % c.prime) 3 * invMod c.prime (2 * y) % c.prime) x y x'

def multiply (c : PrimeCurve) (n : Nat) (p : CurvePoint) : CurvePoint :=
  if n = 0 then .infinity
  else
    let half := c.multiply (n / 2) p
    let even := c.add half half
    if n % 2 = 1 then c.add even p else even
  termination_by n

/-- Writes a point with both coordinates. -/
def encode (c : PrimeCurve) : CurvePoint → Bytes
  | .infinity => [0]
  | .affine x y => 4 :: bytesOfNat c.size x ++ bytesOfNat c.size y

/-- Reads a point on the curve. -/
def decode? (c : PrimeCurve) : Bytes → Option CurvePoint
  | 4 :: b =>
    let x := natOfBytes (b.take c.size)
    let y := natOfBytes (b.drop c.size)
    if b.length = 2 * c.size && c.isOn x y then some (.affine x y) else none
  | _ => none

/-- The leading bits of a digest, as many as the order has. -/
def hashNumber (c : PrimeCurve) (digest : Bytes) : Nat :=
  natOfBytes digest / Nat.pow 2 (8 * digest.length - bitLength c.order)

/-- Whether `(r, s)` signs the digest with the private key of `key`. -/
def verifies (c : PrimeCurve) (key : CurvePoint) (digest : Bytes) (r s : Nat) : Bool :=
  let inRange (n : Nat) : Bool := 0 < n && n < c.order
  if inRange r && inRange s then
    let w := invMod c.order s
    let u := c.multiply (c.hashNumber digest * w % c.order) c.base
    let v := c.multiply (r * w % c.order) key
    match c.add u v with
    | .infinity => false
    | .affine x _ => x % c.order = r
  else false

/-- The public key of a private one. -/
def publicKey? (c : PrimeCurve) (d : Nat) : Option CurvePoint :=
  if 0 < d && d < c.order then some (c.multiply d c.base) else none

end PrimeCurve

end DynamicRpc.Crypto
