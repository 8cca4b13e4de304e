import DynamicRpc.Message.Value
import DynamicRpc.Wire.Basic

/-!
Messages on the wire. Fields are written by number, declared ones before extensions, and only those
that show; what is read adds to the fields that a message already has.
-/
namespace DynamicRpc.Message

open Schema Wire

def scalarWireType : Scalar → WireType
  | .double | .fixed64 | .sfixed64 => .fixed64
  | .float | .fixed32 | .sfixed32 => .fixed32
  | .text | .bytes => .delimited
  | _ => .varint

def wireTypeOf : FieldType → WireType
  | .scalar s => scalarWireType s
  | .message _ => .delimited
  | .group _ => .startGroup
  | .enum _ => .varint

/-- The bits of an integer as a natural. -/
def toWord (bits : Nat) (n : Int) : Nat := (n % (Nat.pow 2 bits : Nat)).toNat

/-- A natural whose bits are a signed integer. -/
def ofWord (bits : Nat) (n : Nat) : Int :=
  let low := n % Nat.pow 2 bits
  if low < Nat.pow 2 (bits - 1) then low else (low : Int) - (Nat.pow 2 bits : Nat)

/-- Numbers near zero of either sign become small naturals. -/
def zigzag (n : Int) : Nat := if n < 0 then (-2 * n - 1).toNat else (2 * n).toNat

def ofZigzag (n : Nat) : Int := if n % 2 = 0 then n / 2 else -((n / 2 : Nat) + 1 : Int)

/-! Writing -/

def writeInteger (s : Scalar) (n : Int) : Bytes :=
  match s with
  | .sint32 | .sint64 => writeVarint (zigzag n)
  | .fixed32 | .sfixed32 => writeLittleEndian (toWord 32 n) 4
  | .fixed64 | .sfixed64 => writeLittleEndian (toWord 64 n) 8
  | _ => writeVarint (toWord 64 n)

def writeScalar (type : FieldType) : Value → Bytes
  | .double x => writeLittleEndian (Number.double.toBits x) 8
  | .single x => writeLittleEndian (Number.single.toBits x) 4
  | .integer n =>
    match type with
    | .scalar s => writeInteger s n
    | _ => []
  | .enum n => writeVarint (toWord 64 n)
  | .boolean b => [if b then 1 else 0]
  | .text s => writeDelimited (Text.toBytes s)
  | .bytes b => writeDelimited b
  | _ => []

def Key.value : Key → Value
  | .boolean b => .boolean b
  | .integer n => .integer n
  | .text s => .text s

/-- Puts the fields of a message in the order of writing: declared ones by number, then
extensions by number. -/
def arrange (type : MessageType) (parts : List (Nat × Bytes)) : Bytes :=
  let (declared, others) := parts.partition fun part => (type.field? part.1).isSome
  let sort (ps : List (Nat × Bytes)) := ps.mergeSort fun a b => a.1 ≤ b.1
  (sort declared ++ sort others).flatMap (·.2)

mutual

/-- Writes the value of a field, with its key. -/
def writeValue (p : Pool) (f : Field) : Value → Bytes
  | .list items =>
    if f.packed && f.type.isPackable then
      writeKey f.number .delimited ++ writeDelimited (items.flatMap (writeScalar f.type))
    else writeItems p f items
  | .map entries =>
    match p.mapEntry? f with
    | some (key, value) => writeEntries p f.number key value entries
    | none => []
  | .message fields =>
    let body := match f.type.message?.bind p.message? with
      | some type => arrange type (writeParts p type.fullName fields)
      | none => []
    match f.type with
    | .group _ => writeKey f.number .startGroup ++ body ++ writeKey f.number .endGroup
    | _ => writeKey f.number .delimited ++ writeDelimited body
  | v => writeKey f.number (wireTypeOf f.type) ++ writeScalar f.type v

def writeItems (p : Pool) (f : Field) : List Value → Bytes
  | [] => []
  | v :: rest => writeValue p f v ++ writeItems p f rest

def writeEntries (p : Pool) (number : Nat) (key value : Field) : List (Key × Value) → Bytes
  | [] => []
  | (k, v) :: rest =>
    let keyPart := if shows p key k.value then
        writeKey 1 (wireTypeOf key.type) ++ writeScalar key.type k.value
      else []
    let valuePart := if shows p value v then writeValue p value v else []
    writeKey number .delimited ++ writeDelimited (keyPart ++ valuePart) ++
      writeEntries p number key value rest

/-- The written fields of a message of a type, each with its number. -/
def writeParts (p : Pool) (type : String) : List (Nat × Value) → List (Nat × Bytes)
  | [] => []
  | (number, v) :: rest =>
    match p.fieldOf? type number with
    | some f =>
      if shows p f v then (number, writeValue p f v) :: writeParts p type rest
      else writeParts p type rest
    | none => writeParts p type rest

end

def encode (p : Pool) (m : Message) : Bytes :=
  match p.message? m.type with
  | some type => arrange type (writeParts p m.type m.fields)
  | none => []

/-! Reading -/

def readScalar (s : Scalar) (w : WireType) (b : Bytes) : Result (Value × Bytes) := do
  let word (count : Nat) : Result (Nat × Bytes) := do
    let (raw, rest) ← takeBytes count b
    return (littleEndian raw, rest)
  match s with
  | .text =>
    let (t, rest) ← readText w b
    return (.text t, rest)
  | .bytes =>
    let (raw, rest) ← readBytes w b
    return (.bytes raw, rest)
  | _ =>
    expect w (scalarWireType s) b
    match scalarWireType s with
    | .fixed32 =>
      let (n, rest) ← word 4
      return (match s with
        | .float => .single (Number.single.ofBits n)
        | .sfixed32 => .integer (ofWord 32 n)
        | _ => .integer n, rest)
    | .fixed64 =>
      let (n, rest) ← word 8
      return (match s with
        | .double => .double (Number.double.ofBits n)
        | .sfixed64 => .integer (ofWord 64 n)
        | _ => .integer n, rest)
    | _ =>
      let (n, rest) ← readVarint b
      return (match s with
        | .boolean => .boolean (n ≠ 0)
        | .int32 => .integer (ofWord 32 n)
        | .int64 => .integer (ofWord 64 n)
        | .uint32 => .integer (n % 0x100000000 : Nat)
        | .sint32 => .integer (ofZigzag (n % 0x100000000))
        | .sint64 => .integer (ofZigzag n)
        | _ => .integer n, rest)

/-- Reads fields into those of a nested message; the type says whether it is a group. -/
abbrev ReadNested := FieldType → Nat → WireType → Fields → Bytes → Result (Fields × Bytes)

/-- Reads one value that is neither list nor map over the one that is there. -/
def readOne (nested : ReadNested) (type : FieldType) (number : Nat) (w : WireType) (old : Value)
    (b : Bytes) : Result (Value × Bytes) :=
  match type with
  | .scalar s => readScalar s w b
  | .enum _ => do
    expect w .varint b
    let (n, rest) ← readVarint b
    return (.enum (ofWord 32 n), rest)
  | .message _ | .group _ => do
    let fields := match old with
      | .message fields => fields
      | _ => []
    let (fields, rest) ← nested type number w fields b
    return (.message fields, rest)

/-- Reads packed values. -/
def readPacked (one : Bytes → Result (Value × Bytes)) (limit : Nat) :
    Nat → List Value → Bytes → Result (List Value × Bytes)
  | 0, vs, b => .ok (vs, b)
  | fuel + 1, vs, b =>
    if b.length ≤ limit then .ok (vs, b)
    else do
      let (v, rest) ← one b
      readPacked one limit fuel (vs ++ [v]) rest

/-- Reads key and value of a map entry, in any order and any number of times. -/
def readEntry (nested : ReadNested) (key value : Field) : Merge (Value × Value)
  | depth, number, w, (k, v), b =>
    match number with
    | 1 => do
      let (k, rest) ← readOne nested key.type 1 w k b
      return ((k, v), rest)
    | 2 => do
      let (v, rest) ← readOne nested value.type 2 w v b
      return ((k, v), rest)
    | _ => do return ((k, v), ← skipField depth number w b)

def Value.key? : Value → Option Key
  | .boolean b => some (.boolean b)
  | .integer n => some (.integer n)
  | .text s => some (.text s)
  | _ => none

/-- Reads the payload of a field over its value so far. -/
def readValue (p : Pool) (nested : ReadNested) (depth : Nat) (f : Field) (w : WireType)
    (old : Value) (b : Bytes) : Result (Value × Bytes) :=
  let fresh := typeDefault p f.type
  match old with
  | .list items =>
    if w = .delimited && f.type.isPackable then do
      let (items, rest) ← withinLength (fun limit b =>
        readPacked (readOne nested f.type f.number (wireTypeOf f.type) fresh) limit b.length
          items b) b
      return (.list items, rest)
    else do
      let (v, rest) ← readOne nested f.type f.number w fresh b
      return (.list (items ++ [v]), rest)
  | .map entries =>
    match p.mapEntry? f with
    | none => .ok (old, b)
    | some (key, value) => do
      let ((k, v), rest) ← withinLength (fun limit b =>
        mergeFields (readEntry nested key value) depth limit b.length
          (typeDefault p key.type, typeDefault p value.type) b) b
      match k.key? with
      | some k => return (.map (putEntry entries k v), rest)
      | none => return (old, rest)
  | _ => readOne nested f.type f.number w old b

/-- Reads a field of a message of a type. The depth bounds how far messages are nested. -/
def readField (p : Pool) : Nat → String → Nat → WireType → Fields → Bytes → Result (Fields × Bytes)
  | depth, type, number, w, fs, b =>
    match p.fieldOf? type number with
    | none => do
      let ((), rest) ← readUnknown depth number w () b
      return (fs, rest)
    | some f => do
      let fs := dropAlternatives p type f fs
      let nested : ReadNested := fun type number w fields b => do
        expect w (wireTypeOf type) b
        match depth with
        | 0 => fail .tooDeep b
        | depth + 1 =>
          let inner := fun name (_ : Nat) n w s b => readField p depth name n w s b
          match type with
          | .group name => groupFields (inner name) depth number (b.length + 1) fields b
          | .message name =>
            withinLength (fun limit b => mergeFields (inner name) depth limit b.length fields b) b
          | _ => return (fields, b)
      let old := (valueOf? fs number).getD (fieldDefault p f)
      let (v, rest) ← readValue p nested depth f w old b
      return (setValue fs number v, rest)

/-- Reads a whole message of a type. -/
def decode (p : Pool) (type : String) (b : Bytes) : Result Message := do
  let fields ← decodeMessage (fun depth number w s b => readField p depth type number w s b) [] b
  return ⟨type, fields⟩

end DynamicRpc.Message
