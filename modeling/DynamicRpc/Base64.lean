import DynamicRpc.Text.Utf8

/-!
Base64: three bytes are written as four symbols of six bits, the last group padded to four. The
strict reader accepts only what the writer produces; the rules of a reader say which of the two
last symbols of the alphabet it knows and how much it forgives at the end.
-/
namespace DynamicRpc.Base64

inductive DecodeError where
  | symbol (offset : Nat) (byte : UInt8)
  | length (count : Nat)
  | lastSymbol (offset : Nat) (byte : UInt8)
  | padding
  deriving DecidableEq, Repr

def DecodeError.message : DecodeError → String
  | .symbol i b => s!"Invalid symbol {b.toNat}, offset {i}."
  | .length n => s!"Invalid input length: {n}"
  | .lastSymbol i b => s!"Invalid last symbol {b.toNat}, offset {i}."
  | .padding => "Invalid padding"

def pad : UInt8 := 61

/-- The symbols of 62 and 63, and what a reader demands of the last group. -/
structure Rules where
  symbol62 : UInt8
  symbol63 : UInt8
  /-- The last group is padded to four symbols. -/
  padded : Bool
  /-- The bits beyond the last byte are zero. -/
  canonical : Bool
  deriving DecidableEq, Repr

/-- The only accepted text is the one the writer produces. -/
def strict : Rules := ⟨43, 47, true, true⟩

def lenient : Rules := ⟨43, 47, false, false⟩

/-- The alphabet that is safe in a URL. -/
def lenientUrlSafe : Rules := ⟨45, 95, false, false⟩

/-- The symbol of a number below 64. -/
def symbol (n : Nat) : UInt8 :=
  if n < 26 then UInt8.ofNat (65 + n)
  else if n < 52 then UInt8.ofNat (97 + (n - 26))
  else if n < 62 then UInt8.ofNat (48 + (n - 52))
  else if n = 62 then 43
  else 47

def encodeBytes : Bytes → Bytes
  | [] => []
  | [a] => [symbol (a.toNat / 4), symbol (a.toNat % 4 * 16), pad, pad]
  | [a, b] =>
    [symbol (a.toNat / 4), symbol (a.toNat % 4 * 16 + b.toNat / 16), symbol (b.toNat % 16 * 4), pad]
  | a :: b :: c :: r =>
    symbol (a.toNat / 4) :: symbol (a.toNat % 4 * 16 + b.toNat / 16) ::
      symbol (b.toNat % 16 * 4 + c.toNat / 64) :: symbol (c.toNat % 64) :: encodeBytes r

def encode (b : Bytes) : String :=
  String.ofList ((encodeBytes b).map fun s => Char.ofNat s.toNat)

/-- The number that a symbol stands for. -/
def Rules.value? (r : Rules) (s : UInt8) : Option Nat :=
  if 65 ≤ s && s ≤ 90 then some (s.toNat - 65)
  else if 97 ≤ s && s ≤ 122 then some (s.toNat - 97 + 26)
  else if 48 ≤ s && s ≤ 57 then some (s.toNat - 48 + 52)
  else if s = r.symbol62 then some 62
  else if s = r.symbol63 then some 63
  else none

def Rules.value (r : Rules) (offset : Nat) (s : UInt8) : Except DecodeError Nat :=
  match r.value? s with
  | some v => .ok v
  | none => .error (.symbol offset s)

/-- The symbols of the last group and the number of pads after them. -/
structure LastGroup where
  values : List Nat
  last : UInt8
  pads : Nat
  deriving DecidableEq, Repr

/-- Reads the last group, of which `seen` are already read. A pad needs two symbols before it and
only pads after it. -/
def Rules.lastGroup (r : Rules) (start : Nat) (seen : LastGroup) : Bytes →
    Except DecodeError LastGroup
  | [] => .ok seen
  | s :: rest =>
    let here := start + seen.values.length + seen.pads
    if s = pad then
      if seen.values.length + seen.pads < 2 then .error (.symbol here s)
      else r.lastGroup start ⟨seen.values, seen.last, seen.pads + 1⟩ rest
    else if seen.pads > 0 then .error (.symbol (start + seen.values.length) pad)
    else do
      let v ← r.value here s
      r.lastGroup start ⟨seen.values ++ [v], s, seen.pads⟩ rest

/-- The bytes of the last group; what is left of the bits of its last symbol must be zero if the
rules say so. -/
def Rules.finish (r : Rules) (start : Nat) (g : LastGroup) : Except DecodeError Bytes :=
  let n := g.values.length
  if n < 2 then .error (.length (start + n))
  else if r.padded && (n + g.pads) % 4 != 0 then .error .padding
  else
    let leftover (bits : Nat) : Bool := r.canonical && bits != 0
    match g.values with
    | [a, b] =>
      if leftover (b % 16) then .error (.lastSymbol (start + 1) g.last)
      else .ok [UInt8.ofNat (a * 4 + b / 16)]
    | [a, b, c] =>
      if leftover (c % 4) then .error (.lastSymbol (start + 2) g.last)
      else .ok [UInt8.ofNat (a * 4 + b / 16), UInt8.ofNat (b % 16 * 16 + c / 4)]
    | [a, b, c, d] =>
      .ok [UInt8.ofNat (a * 4 + b / 16), UInt8.ofNat (b % 16 * 16 + c / 4),
        UInt8.ofNat (c % 4 * 64 + d)]
    | _ => .error .padding

def Rules.decodeFrom (r : Rules) (start : Nat) : Bytes → Except DecodeError Bytes
  | [] => .ok []
  | a :: b :: c :: d :: e :: rest => do
    let x ← r.value start a
    let y ← r.value (start + 1) b
    let z ← r.value (start + 2) c
    let w ← r.value (start + 3) d
    let more ← r.decodeFrom (start + 4) (e :: rest)
    return UInt8.ofNat (x * 4 + y / 16) :: UInt8.ofNat (y % 16 * 16 + z / 4) ::
      UInt8.ofNat (z % 4 * 64 + w) :: more
  | group => do r.finish start (← r.lastGroup start ⟨[], 0, 0⟩ group)

/-- Reads symbols. A lone foreign byte at the end, such as a line break, is reported before any
other fault. -/
def Rules.decode (r : Rules) (text : Bytes) : Except DecodeError Bytes :=
  match text.getLast? with
  | some s =>
    if text.length % 4 = 1 && s != pad && (r.value? s).isNone then
      .error (.symbol (text.length - 1) s)
    else r.decodeFrom 0 text
  | none => .ok []

example : encodeBytes [77, 97] = [84, 87, 69, 61] := by decide

end DynamicRpc.Base64
