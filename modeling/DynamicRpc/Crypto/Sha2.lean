import DynamicRpc.Text.Utf8

/-!
The hash functions of the second family. Each works on words of one size: a message is padded to
whole blocks of sixteen words, and every block mixes eight working words. The constants are the
first bits behind the point of roots of the first primes.
-/
namespace DynamicRpc.Crypto

/-- Big-endian. -/
def natOfBytes (b : Bytes) : Nat := b.foldl (fun n x => n * 256 + x.toNat) 0

/-- The last `size` bytes of a number, big-endian. -/
def bytesOfNat (size n : Nat) : Bytes :=
  (List.range size).reverse.map fun i => UInt8.ofNat (n / Nat.pow 256 i)

example : bytesOfNat 3 (natOfBytes [1, 2, 3]) = [1, 2, 3] := by decide

namespace Sha2

def isPrime (n : Nat) : Bool := 2 ≤ n && (List.range n).all fun d => d < 2 || n % d ≠ 0

/-- The first eighty primes. -/
def primes : List Nat := (List.range 410).filter isPrime

/-- The largest number below `root + Nat.pow 2 bits` whose power is not above `n`. -/
def rootFrom (power n : Nat) : Nat → Nat → Nat
  | 0, root => root
  | bits + 1, root =>
    let next := root + Nat.pow 2 bits
    rootFrom power n bits (if Nat.pow next power ≤ n then next else root)

/-- The first `w` bits behind the point of a root of a number below 512. -/
def rootBits (w power n : Nat) : BitVec w :=
  BitVec.ofNat w (rootFrom power (n * Nat.pow 2 (power * w)) (w + 5) 0)

example : rootBits 32 2 2 = 0x6a09e667#32 := by decide +kernel

/-- Three rotations, or two and a shift. -/
structure Amounts where
  first : Nat
  second : Nat
  third : Nat
  shifts : Bool

def Amounts.apply (a : Amounts) (x : BitVec w) : BitVec w :=
  x.rotateRight a.first ^^^ x.rotateRight a.second ^^^
    if a.shifts then x >>> a.third else x.rotateRight a.third

/-- One function of the family. -/
structure Variant (w : Nat) where
  rounds : List (BitVec w)
  start : List (BitVec w)
  upper : Amounts
  lower : Amounts
  upperSchedule : Amounts
  lowerSchedule : Amounts
  /-- The length of a digest in bytes. -/
  size : Nat

structure Working (w : Nat) where
  a : BitVec w
  b : BitVec w
  c : BitVec w
  d : BitVec w
  e : BitVec w
  f : BitVec w
  g : BitVec w
  h : BitVec w

def Working.ofList : List (BitVec w) → Working w
  | [a, b, c, d, e, f, g, h] => ⟨a, b, c, d, e, f, g, h⟩
  | _ => ⟨0, 0, 0, 0, 0, 0, 0, 0⟩

def Working.toList (s : Working w) : List (BitVec w) :=
  [s.a, s.b, s.c, s.d, s.e, s.f, s.g, s.h]

def Working.add (s t : Working w) : Working w :=
  ⟨s.a + t.a, s.b + t.b, s.c + t.c, s.d + t.d, s.e + t.e, s.f + t.f, s.g + t.g, s.h + t.h⟩

namespace Variant

/-- The next `count` words of a schedule, given the last sixteen. -/
def schedule (v : Variant w) : Nat → List (BitVec w) → List (BitVec w)
  | 0, _ => []
  | _, [] => []
  | count + 1, word :: rest =>
    let earlier (i : Nat) : BitVec w := (rest[i]?).getD 0
    let next :=
      v.upperSchedule.apply (earlier 13) + earlier 8 + v.lowerSchedule.apply (earlier 0) + word
    word :: v.schedule count (rest ++ [next])

def round (v : Variant w) (s : Working w) (constant word : BitVec w) : Working w :=
  let choice := (s.e &&& s.f) ^^^ (~~~s.e &&& s.g)
  let majority := (s.a &&& s.b) ^^^ (s.a &&& s.c) ^^^ (s.b &&& s.c)
  let t := s.h + v.upper.apply s.e + choice + constant + word
  ⟨t + v.lower.apply s.a + majority, s.a, s.b, s.c, s.d + t, s.e, s.f, s.g⟩

def block (v : Variant w) (s : Working w) (words : List (BitVec w)) : Working w :=
  let steps := v.rounds.zip (v.schedule v.rounds.length words)
  s.add (steps.foldl (fun s p => v.round s p.1 p.2) s)

/-- Whole blocks: a one bit after the message, zeros, and its length in two words. -/
def pad (w : Nat) (message : Bytes) : Bytes :=
  let blockSize := 2 * w
  let tail := w / 4
  let zeros := (2 * blockSize - 1 - tail - message.length % blockSize) % blockSize
  message ++ 0x80 :: List.replicate zeros 0 ++ bytesOfNat tail (8 * message.length)

def chunks (size : Nat) : Nat → List α → List (List α)
  | 0, _ => []
  | count + 1, xs => xs.take size :: chunks size count (xs.drop size)

def hash (v : Variant w) (message : Bytes) : Bytes :=
  let padded := pad w message
  let words := (chunks (w / 8) (padded.length / (w / 8)) padded).map fun b =>
    BitVec.ofNat w (natOfBytes b)
  let final := (chunks 16 (words.length / 16) words).foldl v.block (.ofList v.start)
  (final.toList.flatMap fun x => bytesOfNat (w / 8) x.toNat).take v.size

end Variant

def words32 : Variant 32 where
  rounds := (primes.take 64).map (rootBits 32 3)
  start := (primes.take 8).map (rootBits 32 2)
  upper := ⟨6, 11, 25, false⟩
  lower := ⟨2, 13, 22, false⟩
  upperSchedule := ⟨17, 19, 10, true⟩
  lowerSchedule := ⟨7, 18, 3, true⟩
  size := 32

def words64 (start : List Nat) (size : Nat) : Variant 64 where
  rounds := primes.map (rootBits 64 3)
  start := start.map (rootBits 64 2)
  upper := ⟨14, 18, 41, false⟩
  lower := ⟨28, 34, 39, false⟩
  upperSchedule := ⟨19, 61, 6, true⟩
  lowerSchedule := ⟨1, 8, 7, true⟩
  size

end Sha2

/-- The hash functions in use, named by the bits of a digest. -/
inductive Hash where
  | sha256
  | sha384
  | sha512
  deriving DecidableEq, Repr

def sha384Variant : Sha2.Variant 64 := Sha2.words64 ((Sha2.primes.drop 8).take 8) 48

def sha512Variant : Sha2.Variant 64 := Sha2.words64 (Sha2.primes.take 8) 64

def Hash.digest : Hash → Bytes → Bytes
  | .sha256 => Sha2.words32.hash
  | .sha384 => sha384Variant.hash
  | .sha512 => sha512Variant.hash

end DynamicRpc.Crypto
