import DynamicRpc.Number.Binary

/-!
The text of a floating point number: the fewest decimal digits that read back as the same number,
and of those the nearest to it. Positional notation is used between two exponents and scientific
notation outside.
-/
namespace DynamicRpc.Number

/-- `digits * 10 ^ (exponent - count + 1)`: decimal digits and the exponent of the first. -/
structure Decimal where
  digits : List Char
  exponent : Int
  deriving DecidableEq, Repr

def digitsOf (n : Nat) : List Char := Nat.toDigits 10 n

/-- A quotient as `num / den` times a power of ten. -/
def scaled (num den : Nat) (places : Int) : Nat × Nat :=
  if places ≥ 0 then (num * Nat.pow 10 places.toNat, den)
  else (num, den * Nat.pow 10 (-places).toNat)

/-- The exponent of the first decimal digit of a positive quotient. -/
def decimalExponent (num den : Nat) : Int :=
  let guess : Int := (digitsOf num).length - (digitsOf den).length
  let (n, d) := scaled num den (-guess)
  if n < d then guess - 1 else guess

/-- Bounds of the numbers that round to a magnitude, in quarters of the least positive number, and
whether the bounds themselves do. -/
structure Neighbourhood where
  low : Nat
  high : Nat
  closed : Bool

def neighbourhood (f : Format) (code : Nat) : Neighbourhood :=
  let (m, k) := f.parts code
  let low := if m = f.step && k > 0 then 4 * m - 1 else 4 * m - 2
  ⟨low * Nat.pow 2 k, (4 * m + 2) * Nat.pow 2 k, m % 2 = 0⟩

/-- Whether `n / (4 * 2 ^ depth)` lies in a neighbourhood whose bounds are scaled by `c`. -/
def Neighbourhood.holds (b : Neighbourhood) (c n : Nat) : Bool :=
  if b.closed then b.low * c ≤ n && n ≤ b.high * c else b.low * c < n && n < b.high * c

/-- The nearer of the two neighbours with `places` decimal places that reads back, if one does. -/
def tryPlaces (f : Format) (code : Nat) (places : Int) : Option Nat :=
  let b := neighbourhood f code
  let (num, den) := scaled (4 * f.units code) (4 * Nat.pow 2 f.depth) places
  let c := if places ≥ 0 then Nat.pow 10 places.toNat else 1
  let down := num / den
  let holds (d : Nat) : Bool := d > 0 && b.holds c (d * den)
  let near := Format.nearest num den
  if holds near then some near
  else if holds down then some down
  else if holds (down + 1) then some (down + 1)
  else none

/-- Tries `count` digits and more, at most `fuel` times. -/
def shortestFrom (f : Format) (code : Nat) (exponent : Int) (count : Nat) : Nat → Nat × Int
  | 0 => (0, 0)
  | fuel + 1 =>
    let places : Int := count - 1 - exponent
    match tryPlaces f code places with
    | some d => (d, places)
    | none => shortestFrom f code exponent (count + 1) fuel

/-- No format in use needs more decimal digits. -/
def maxDigits : Nat := 17

/-- The shortest digits of a positive finite magnitude. -/
def shortest (f : Format) (code : Nat) : Decimal :=
  let e := decimalExponent (f.units code) (Nat.pow 2 f.depth)
  let (d, places) := shortestFrom f code e 1 maxDigits
  let digits := digitsOf d
  ⟨((digits.reverse.dropWhile (· = '0')).reverse), (digits.length : Int) - 1 - places⟩

/-- The exponents that are written positionally lie between two. -/
structure Layout where
  least : Int
  greatest : Int

def doubleLayout : Layout := ⟨-5, 15⟩

def singleLayout : Layout := ⟨-6, 12⟩

/-- Positional notation has at least one digit on either side of the point; scientific notation has
a point only before further digits, and always the sign of the exponent. -/
def Layout.render (l : Layout) (d : Decimal) : List Char :=
  if l.least ≤ d.exponent && d.exponent ≤ l.greatest then
    if d.exponent < 0 then
      '0' :: '.' :: List.replicate (-d.exponent - 1).toNat '0' ++ d.digits
    else
      let n := d.exponent.toNat + 1
      let whole := d.digits.take n ++ List.replicate (n - d.digits.length) '0'
      let rest := d.digits.drop n
      whole ++ '.' :: (if rest.isEmpty then ['0'] else rest)
  else
    let tail := match d.digits.drop 1 with
      | [] => []
      | rest => '.' :: rest
    let sign := if d.exponent < 0 then '-' else '+'
    d.digits.take 1 ++ tail ++ 'e' :: sign :: digitsOf d.exponent.natAbs

/-- The text of a finite number. -/
def Format.text (f : Format) (l : Layout) (x : Binary) : String :=
  let body := if x.code = 0 then ['0', '.', '0'] else l.render (shortest f x.code)
  String.ofList (if x.negative then '-' :: body else body)

def doubleText (x : Binary) : String := double.text doubleLayout x

def singleText (x : Binary) : String := single.text singleLayout x

end DynamicRpc.Number
