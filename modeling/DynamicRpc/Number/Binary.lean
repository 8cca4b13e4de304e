/-!
Binary floating point numbers as exact arithmetic on naturals. A format counts its magnitudes: the
code of a magnitude is its place in increasing order, and infinity comes right after the finite
ones. Rounding is to nearest, a tie goes to the even code.
-/
namespace DynamicRpc.Number

/-- A format with `precision` bits, whose least positive number is 2 to the minus `depth` and whose
finite numbers have `binades` different last places. -/
structure Format where
  precision : Nat
  depth : Nat
  binades : Nat
  deriving DecidableEq, Repr

def double : Format := ⟨53, 1074, 2046⟩

def single : Format := ⟨24, 149, 254⟩

/-- A sign and the code of a magnitude. -/
structure Binary where
  negative : Bool
  code : Nat
  deriving DecidableEq, Repr, Inhabited

namespace Format

/-- Codes between two powers of two. -/
def step (f : Format) : Nat := Nat.pow 2 (f.precision - 1)

def infinity (f : Format) : Nat := (f.binades + 1) * f.step

/-- The number of codes of one sign. -/
def codes (f : Format) : Nat := (f.binades + 2) * f.step

/-- A magnitude as `m * Nat.pow 2 k`, in units of the least positive number. -/
def parts (f : Format) (code : Nat) : Nat × Nat :=
  if code < f.step then (code, 0) else (f.step + code % f.step, code / f.step - 1)

/-- A magnitude as a count of least positive numbers. -/
def units (f : Format) (code : Nat) : Nat :=
  let (m, k) := f.parts code
  m * Nat.pow 2 k

/-- The nearest natural to a quotient, a tie going to the even one. -/
def nearest (num den : Nat) : Nat :=
  let q := num / den
  let r := num % den
  if 2 * r < den then q
  else if 2 * r > den then q + 1
  else if q % 2 = 0 then q
  else q + 1

/-- The code nearest to `num / den`, infinity when it lies beyond the finite numbers. -/
def round (f : Format) (num den : Nat) : Nat :=
  let n := num * Nat.pow 2 f.depth
  let whole := n / den
  let k := if whole = 0 then 0 else whole.log2 + 1 - f.precision
  Nat.min f.infinity (k * f.step + nearest n (den * Nat.pow 2 k))

def isFinite (f : Format) (x : Binary) : Bool := x.code < f.infinity

def isNaN (f : Format) (x : Binary) : Bool := x.code > f.infinity

/-- Zero of either sign. -/
def isZero (x : Binary) : Bool := x.code = 0

/-- The bits of a number: the sign on top of the code. -/
def ofBits (f : Format) (bits : Nat) : Binary := ⟨bits ≥ f.codes, bits % f.codes⟩

def toBits (f : Format) (x : Binary) : Nat := (if x.negative then f.codes else 0) + x.code

def ofInt (f : Format) (n : Int) : Binary := ⟨n < 0, f.round n.natAbs 1⟩

/-- The same number in another format, rounded. -/
def convert (f g : Format) (x : Binary) : Binary :=
  if f.isNaN x then ⟨x.negative, g.infinity + 1⟩
  else if f.isFinite x then ⟨x.negative, g.round (f.units x.code) (Nat.pow 2 f.depth)⟩
  else ⟨x.negative, g.infinity⟩

/-- The integer that a finite number is, if it is one. -/
def int? (f : Format) (x : Binary) : Option Int :=
  if f.isFinite x then
    let u := f.units x.code
    if u % Nat.pow 2 f.depth = 0 then
      let n : Int := (u / Nat.pow 2 f.depth : Nat)
      some (if x.negative then -n else n)
    else none
  else none

end Format

/-- In a format of four bits a tie between 16 and 18 goes to the even code. -/
example : (Format.mk 4 3 6).round 17 1 = (Format.mk 4 3 6).round 16 1 := by decide

end DynamicRpc.Number
