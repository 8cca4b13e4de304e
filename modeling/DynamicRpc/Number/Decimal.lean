import DynamicRpc.Number.Binary

/-!
Reading numbers from text: integers within bounds, and decimals rounded to the nearest number of a
format.
-/
namespace DynamicRpc.Number

def digitValue (c : Char) : Nat := c.toNat - 48

def digitsToNat (cs : List Char) : Nat := cs.foldl (fun n c => n * 10 + digitValue c) 0

inductive IntegerError where
  | empty
  | digit
  | tooLarge
  | tooSmall
  deriving DecidableEq, Repr

def IntegerError.message : IntegerError → String
  | .empty => "cannot parse integer from empty string"
  | .digit => "invalid digit found in string"
  | .tooLarge => "number too large to fit in target type"
  | .tooSmall => "number too small to fit in target type"

/-- Appends digits to a number, away from zero, or gives the first fault: a foreign character counts
before the overflow that the digits after it would cause. -/
def readDigits (low high : Int) (negative : Bool) (n : Int) : List Char → Except IntegerError Int
  | [] => .ok n
  | c :: rest =>
    if !c.isDigit then .error .digit
    else
      let m := if negative then n * 10 - digitValue c else n * 10 + digitValue c
      if m < low then .error .tooSmall
      else if m > high then .error .tooLarge
      else readDigits low high negative m rest

/-- An integer between two bounds, with an optional sign; a minus only if the lower bound is
negative. -/
def readInteger (low high : Int) (text : String) : Except IntegerError Int :=
  match text.toList with
  | [] => .error .empty
  | ['+'] | ['-'] => .error .digit
  | '+' :: rest => readDigits low high false 0 rest
  | '-' :: rest => if low < 0 then readDigits low high true 0 rest else .error .digit
  | cs => readDigits low high false 0 cs

/-- A decimal taken apart: whole digits, digits after the point, exponent. -/
structure DecimalText where
  whole : List Char
  fraction : List Char
  exponent : Int

/-- Reads an optional exponent that ends the text. -/
def readExponent? : List Char → Option Int
  | [] => some 0
  | e :: rest =>
    if e = 'e' || e = 'E' then
      let (negative, digits) := match rest with
        | '-' :: ds => (true, ds)
        | '+' :: ds => (false, ds)
        | ds => (false, ds)
      if digits.isEmpty || !digits.all Char.isDigit then none
      else
        let n : Int := digitsToNat digits
        some (if negative then -n else n)
    else none

/-- Digits with an optional point, at least one digit in all, and an optional exponent. -/
def readDecimalText? (cs : List Char) : Option DecimalText :=
  let whole := cs.takeWhile Char.isDigit
  let rest := cs.dropWhile Char.isDigit
  let (fraction, tail) := match rest with
    | '.' :: r => (r.takeWhile Char.isDigit, r.dropWhile Char.isDigit)
    | r => ([], r)
  if whole.isEmpty && fraction.isEmpty then none
  else (readExponent? tail).map fun e => ⟨whole, fraction, e⟩

/-- Powers of ten beyond this leave every format, whatever the digits before them. -/
def exponentLimit : Int := 2000

/-- The code nearest to `digits * 10 ^ exponent`. -/
def Format.roundDecimal (f : Format) (digits : List Char) (exponent : Int) : Nat :=
  let digits := digits.dropWhile (· = '0')
  if digits.isEmpty then 0
  else
    let top : Int := exponent + digits.length
    if top > exponentLimit then f.infinity
    else if top < -exponentLimit then 0
    else
      let n := digitsToNat digits
      if exponent ≥ 0 then f.round (n * Nat.pow 10 exponent.toNat) 1
      else f.round n (Nat.pow 10 (-exponent).toNat)

def lowerChars (cs : List Char) : List Char := cs.map Char.toLower

/-- A decimal number, an infinity or a word for no number, in any case. -/
def Format.read? (f : Format) (text : String) : Option Binary :=
  let (negative, cs) := match text.toList with
    | '-' :: r => (true, r)
    | '+' :: r => (false, r)
    | r => (false, r)
  let lower := lowerChars cs
  if lower = "inf".toList || lower = "infinity".toList then some ⟨negative, f.infinity⟩
  else if lower = "nan".toList then some ⟨negative, f.infinity + f.step / 2⟩
  else
    (readDecimalText? cs).map fun d =>
      ⟨negative, f.roundDecimal (d.whole ++ d.fraction) (d.exponent - d.fraction.length)⟩

end DynamicRpc.Number
