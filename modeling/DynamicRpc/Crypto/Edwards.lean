import DynamicRpc.Crypto.Modular
import DynamicRpc.Crypto.Sha2

/-!
Signatures on the curve `-x² + y² = 1 + dx²y²` over the field of `2 ^ 255 - 19`. Numbers and points
are written with their last byte first; a point is its second coordinate and the parity of its
first.
-/
namespace DynamicRpc.Crypto.Edwards

def prime : Nat := Nat.pow 2 255 - 19

/-- The order of the base point. -/
def order : Nat := Nat.pow 2 252 + 27742317777372353535851937790883648493

def d : Nat := (prime - 121665) * invMod prime 121666 % prime

structure Point where
  x : Nat
  y : Nat
  deriving DecidableEq, Repr

def zero : Point := ⟨0, 1⟩

def add (p q : Point) : Point :=
  let crossed := d * (p.x * q.x % prime) % prime * (p.y * q.y % prime) % prime
  let x := (p.x * q.y + p.y * q.x) % prime * invMod prime ((1 + crossed) % prime) % prime
  let y := (p.y * q.y + p.x * q.x) % prime * invMod prime (subMod prime 1 crossed) % prime
  ⟨x, y⟩

def negate (p : Point) : Point := ⟨(prime - p.x) % prime, p.y⟩

def multiply (n : Nat) (p : Point) : Point :=
  if n = 0 then zero
  else
    let half := multiply (n / 2) p
    let even := add half half
    if n % 2 = 1 then add even p else even
  termination_by n

/-- The first coordinate with a parity, if there is one. -/
def recoverX? (y parity : Nat) : Option Nat :=
  let square := subMod prime (y * y % prime) 1 * invMod prime ((d * (y * y) + 1) % prime) % prime
  let root := powMod prime square ((prime + 3) / 8)
  let root := if root * root % prime = square then root
    else root * powMod prime 2 ((prime - 1) / 4) % prime
  if root * root % prime ≠ square then none
  else if root = 0 && parity = 1 then none
  else some (if root % 2 = parity then root else prime - root)

def natOfReversed (b : Bytes) : Nat := natOfBytes b.reverse

def encode (p : Point) : Bytes := (bytesOfNat 32 (p.y + p.x % 2 * Nat.pow 2 255)).reverse

def decode? (b : Bytes) : Option Point :=
  let n := natOfReversed b
  let y := n % Nat.pow 2 255
  if b.length = 32 && y < prime then (recoverX? y (n / Nat.pow 2 255)).map (⟨·, y⟩) else none

/-- Its second coordinate is four fifths. -/
def base : Point :=
  let y := 4 * invMod prime 5 % prime
  ⟨(recoverX? y 0).getD 0, y⟩

def verifies (key message signature : Bytes) : Bool :=
  let r := signature.take 32
  let s := natOfReversed (signature.drop 32)
  match decode? key with
  | some a =>
    let h := natOfReversed (Hash.sha512.digest (r ++ key ++ message)) % order
    signature.length = 64 && s < order &&
      encode (add (multiply s base) (multiply h (negate a))) = r
  | none => false

/-- The public key of a private one of 32 bytes, from the first half of its digest with some bits
set. -/
def publicKey (secret : Bytes) : Bytes :=
  let n := natOfReversed ((Hash.sha512.digest secret).take 32)
  let scalar := n % Nat.pow 2 254 / 8 * 8 + Nat.pow 2 254
  encode (multiply scalar base)

end DynamicRpc.Crypto.Edwards
