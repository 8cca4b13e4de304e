import DynamicRpc.Text.Utf8

/-!
The wire format of messages: a message is a sequence of fields, each a key, made of a field number
and a wire type, and a payload. A nested message is not cut out before it is read: its reader looks
at the bytes that follow too, and must end exactly where the length says.
-/
namespace DynamicRpc.Wire

inductive WireType where
  | varint
  | fixed64
  | delimited
  | startGroup
  | endGroup
  | fixed32
  deriving DecidableEq, Repr

namespace WireType

def number : WireType → Nat
  | varint => 0
  | fixed64 => 1
  | delimited => 2
  | startGroup => 3
  | endGroup => 4
  | fixed32 => 5

def ofNumber? : Nat → Option WireType
  | 0 => some varint
  | 1 => some fixed64
  | 2 => some delimited
  | 3 => some startGroup
  | 4 => some endGroup
  | 5 => some fixed32
  | _ => none

theorem ofNumber?_number (w : WireType) : ofNumber? w.number = some w := by cases w <;> rfl

def label : WireType → String
  | varint => "Varint"
  | fixed64 => "SixtyFourBit"
  | delimited => "LengthDelimited"
  | startGroup => "StartGroup"
  | endGroup => "EndGroup"
  | fixed32 => "ThirtyTwoBit"

end WireType

inductive Cause where
  | varint
  | underflow
  | lengthExceeded
  | key (n : Nat)
  | wireTypeValue (n : Nat)
  | fieldZero
  | wireType (found expected : WireType)
  | notText
  | tooDeep
  | endGroup
  deriving DecidableEq, Repr

def Cause.message : Cause → String
  | .varint => "invalid varint"
  | .underflow => "buffer underflow"
  | .lengthExceeded => "delimited length exceeded"
  | .key n => s!"invalid key value: {n}"
  | .wireTypeValue n => s!"invalid wire type value: {n}"
  | .fieldZero => "invalid tag value: 0"
  | .wireType f e => s!"invalid wire type: {f.label} (expected {e.label})"
  | .notText => "invalid string value: data is not UTF-8 encoded"
  | .tooDeep => "recursion limit reached"
  | .endGroup => "unexpected end group tag"

/-- A cause, the fields that were being read, the innermost first, and the bytes that were not yet
taken when the fault showed. -/
structure DecodeError where
  path : List String
  cause : Cause
  unread : Bytes
  deriving DecidableEq, Repr

def DecodeError.message (e : DecodeError) : String :=
  "failed to decode Protobuf message: " ++ String.join (e.path.map (· ++ ": ")) ++ e.cause.message

abbrev Result (α : Type) := Except DecodeError α

def fail (cause : Cause) (unread : Bytes) : Result α := .error ⟨[], cause, unread⟩

/-- Notes that a fault arose in a field. -/
def inField (name : String) (r : Result α) : Result α :=
  match r with
  | .ok a => .ok a
  | .error e => .error ⟨e.path ++ [name], e.cause, e.unread⟩

/-! Varints -/

/-- The low seven bits first; every byte but the last has its high bit set. -/
def writeVarint (n : Nat) : Bytes :=
  if n < 128 then [UInt8.ofNat n] else UInt8.ofNat (n % 128 + 128) :: writeVarint (n / 128)

/-- Reads at most `limit` bytes; the tenth may only be 0 or 1. -/
def varintFrom : Nat → Bytes → Option (Nat × Bytes)
  | 0, _ => none
  | _, [] => none
  | limit + 1, b :: rest =>
    if b < 128 then if limit = 0 && b ≥ 2 then none else some (b.toNat, rest)
    else
      match varintFrom limit rest with
      | some (n, rest) => some (b.toNat - 128 + 128 * n, rest)
      | none => none

def maxVarintBytes : Nat := 10

/-- What is left after a faulty varint: one that breaks off is taken, a too long one is not. -/
def afterVarint (b : Bytes) : Bytes :=
  if b.length ≤ maxVarintBytes && b.all (· ≥ 128) then [] else b

def readVarint (b : Bytes) : Result (Nat × Bytes) :=
  match varintFrom maxVarintBytes b with
  | some r => .ok r
  | none => fail .varint (afterVarint b)

/-! Keys -/

def writeKey (number : Nat) (w : WireType) : Bytes := writeVarint (number * 8 + w.number)

/-- A field number, a wire type, and what follows. -/
def readKey (b : Bytes) : Result (Nat × WireType × Bytes) := do
  let (key, rest) ← readVarint b
  if key ≥ 0x100000000 then fail (.key key) rest
  else
    match WireType.ofNumber? (key % 8) with
    | none => fail (.wireTypeValue (key % 8)) rest
    | some w => if key / 8 = 0 then fail .fieldZero rest else .ok (key / 8, w, rest)

/-! Payloads -/

/-- Messages and groups may not be nested deeper. -/
def maxDepth : Nat := 100

def expect (found expected : WireType) (b : Bytes) : Result Unit :=
  if found = expected then .ok () else fail (.wireType found expected) b

/-- Splits off `n` bytes. -/
def takeBytes (n : Nat) (b : Bytes) : Result (Bytes × Bytes) :=
  if n ≤ b.length then .ok (b.take n, b.drop n) else fail .underflow b

def readDelimited (b : Bytes) : Result (Bytes × Bytes) := do
  let (n, rest) ← readVarint b
  takeBytes n rest

def writeDelimited (b : Bytes) : Bytes := writeVarint b.length ++ b

def readBytes (w : WireType) (b : Bytes) : Result (Bytes × Bytes) := do
  expect w .delimited b
  readDelimited b

def readText (w : WireType) (b : Bytes) : Result (String × Bytes) := do
  let (raw, rest) ← readBytes w b
  match Text.ofBytes? raw with
  | some s => return (s, rest)
  | none => fail .notText rest

/-- A number of fixed width, the low byte first. -/
def littleEndian : Bytes → Nat
  | [] => 0
  | b :: rest => b.toNat + 256 * littleEndian rest

def writeLittleEndian (n : Nat) : Nat → Bytes
  | 0 => []
  | count + 1 => UInt8.ofNat (n % 256) :: writeLittleEndian (n / 256) count

mutual

/-- Skips the payload of an unknown field; `depth` is how many more groups may open. -/
def skipPayload (depth number : Nat) (w : WireType) (b : Bytes) : Nat → Result Bytes
  | 0 => fail .underflow b
  | fuel + 1 =>
    if depth = 0 then fail .tooDeep b
    else
      match w with
      | .varint => do return (← readVarint b).2
      | .fixed32 => do return (← takeBytes 4 b).2
      | .fixed64 => do return (← takeBytes 8 b).2
      | .delimited => do return (← readDelimited b).2
      | .startGroup => skipGroup depth number b fuel
      | .endGroup => fail .endGroup b

/-- Skips the fields of a group up to its end. -/
def skipGroup (depth number : Nat) (b : Bytes) : Nat → Result Bytes
  | 0 => fail .underflow b
  | fuel + 1 => do
    let (n, w, rest) ← readKey b
    if w = .endGroup then
      if n = number then return rest else fail .endGroup rest
    else
      let rest ← skipPayload (depth - 1) n w rest fuel
      skipGroup depth number rest fuel

end

/-- Skips the payload of an unknown field. Each step of a group takes at least one byte. -/
def skipField (depth number : Nat) (w : WireType) (b : Bytes) : Result Bytes :=
  skipPayload depth number w b (2 * b.length + 2)

/-! Messages -/

/-- Reads the payload of a field into a partial message; `depth` is how many more messages or
groups may be nested. -/
abbrev Merge (σ : Type) := Nat → Nat → WireType → σ → Bytes → Result (σ × Bytes)

/-- Reads fields until no more than `limit` bytes are left. -/
def mergeFields (merge : Merge σ) (depth limit : Nat) : Nat → σ → Bytes → Result (σ × Bytes)
  | 0, s, b => .ok (s, b)
  | fuel + 1, s, b =>
    if b.length ≤ limit then .ok (s, b)
    else do
      let (number, w, rest) ← readKey b
      let (s, rest) ← merge depth number w s rest
      mergeFields merge depth limit fuel s rest

/-- Reads a whole message. -/
def decodeMessage (merge : Merge σ) (start : σ) (b : Bytes) : Result σ := do
  return (← mergeFields merge maxDepth 0 b.length start b).1

/-- Reads a length and that many bytes with `loop`, which must not go beyond them. -/
def withinLength (loop : Nat → Bytes → Result (σ × Bytes)) (b : Bytes) : Result (σ × Bytes) := do
  let (n, rest) ← readVarint b
  if n > rest.length then fail .underflow rest
  else
    let limit := rest.length - n
    let (s, rest) ← loop limit rest
    if rest.length = limit then return (s, rest) else fail .lengthExceeded rest

/-- Reads a nested message over the fields it already has. -/
def readMessage (merge : Merge σ) (depth : Nat) (w : WireType) (s : σ) (b : Bytes) :
    Result (σ × Bytes) := do
  expect w .delimited b
  if depth = 0 then fail .tooDeep b
  else withinLength (fun limit b => mergeFields merge (depth - 1) limit b.length s b) b

/-- Reads fields up to the end of the group that a field number opened. -/
def groupFields (merge : Merge σ) (depth number : Nat) : Nat → σ → Bytes → Result (σ × Bytes)
  | 0, _, b => fail .underflow b
  | fuel + 1, s, b => do
    let (n, w, rest) ← readKey b
    if w = .endGroup then
      if n = number then return (s, rest) else fail .endGroup rest
    else
      let (s, rest) ← merge depth n w s rest
      groupFields merge depth number fuel s rest

/-- Takes a field that a message does not know. Unlike a skipped field it may be nested as deep as
a known one. -/
def readUnknown : Merge Unit
  | depth, number, w, (), b =>
    match w with
    | .varint => do return ((), (← readVarint b).2)
    | .fixed32 => do return ((), (← takeBytes 4 b).2)
    | .fixed64 => do return ((), (← takeBytes 8 b).2)
    | .delimited => do return ((), (← readDelimited b).2)
    | .startGroup | .endGroup => do
      expect w .startGroup b
      match depth with
      | 0 => fail .tooDeep b
      | depth + 1 =>
        groupFields (fun _ n w s b => readUnknown depth n w s b) depth number (b.length + 1) () b

def writeTextField (number : Nat) (s : String) : Bytes :=
  if s.isEmpty then [] else writeKey number .delimited ++ writeDelimited (Text.toBytes s)

def writeBytesField (number : Nat) (b : Bytes) : Bytes :=
  if b.isEmpty then [] else writeKey number .delimited ++ writeDelimited b

end DynamicRpc.Wire
