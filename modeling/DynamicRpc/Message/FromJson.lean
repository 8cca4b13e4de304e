import DynamicRpc.Base64
import DynamicRpc.Json.Reader
import DynamicRpc.Message.Wire
import DynamicRpc.Message.WellKnown
import DynamicRpc.Schema.Default
import DynamicRpc.Schema.Descriptor

/-!
Messages from JSON. A member names a field by its JSON name, its declared name or, for an extension,
its full name in brackets; a member that is null leaves its field unset.
-/
namespace DynamicRpc.Message

open Schema

inductive InputError where
  | wrongType (found : Json.Found) (expected : String)
  | unknownField (name : String)
  | unknownEnumValue (name : String)
  | integer (e : Number.IntegerError)
  | fraction
  | outOfRange
  | floatText
  | emptyFloat
  | base64 (e : Base64.DecodeError)
  | booleanKey
  | timestamp (e : TimestampError)
  | duration (e : DurationError)
  | mask
  | notNull
  | noTypeUrl
  | typeUrl (url : String)
  | unknownMessage (name : String)
  | noValue
  | choice (name : String)
  | undecodable (e : Wire.DecodeError)
  /-- An object of a type without fields has so many members. -/
  | notEmpty (count : Nat)

def typeUrlMessage (url : String) : String :=
  s!"unsupported type url '{url}': missing at least one '/'"

def unknownMessageMessage (name : String) : String := s!"message '{name}' not found"

def undecodableMessage (e : Wire.DecodeError) : String := s!"error decoding: {e.message}"

def InputError.message : InputError → String
  | wrongType found expected => s!"invalid type: {found.message}, expected {expected}"
  | unknownField name => s!"unrecognized field name '{name}'"
  | unknownEnumValue name => s!"unrecognized enum value '{name}'"
  | integer e => e.message
  | fraction => "expected integer value"
  | outOfRange => "float value out of range"
  | floatText => "invalid float literal"
  | emptyFloat => "cannot parse float from empty string"
  | base64 e => s!"invalid base64: {e.message}"
  | booleanKey => "provided string was not \x60true\x60 or \x60false\x60"
  | timestamp e => e.message
  | duration e => e.message
  | mask => "invalid field mask"
  | notNull => "expected null"
  | noTypeUrl => "expected '@type' field"
  | typeUrl url => typeUrlMessage url
  | unknownMessage name => unknownMessageMessage name
  | noValue => "expected 'value' field"
  | choice name => s!"multiple fields provided for oneof '{name}'"
  | undecodable e => undecodableMessage e
  | notEmpty count => s!"invalid length {count}, expected fewer elements in map"

abbrev Read (α : Type) := Except InputError α

/-! Scalars -/

def wrongType (v : Json.Value) (expected : String) : Read α :=
  .error (.wrongType (Json.Found.ofValue v) expected)

def scalarExpected : Scalar → String
  | .double => "a 64-bit floating point value"
  | .float => "a 32-bit floating point value"
  | .int32 | .sint32 | .sfixed32 => "a 32-bit signed integer"
  | .int64 | .sint64 | .sfixed64 => "a 64-bit signed integer or decimal string"
  | .uint32 | .fixed32 => "a 32-bit unsigned integer"
  | .uint64 | .fixed64 => "a 64-bit unsigned integer or decimal string"
  | .boolean => "a boolean"
  | .text => "a string"
  | .bytes => "a base64-encoded string"

/-- Whether `x` is below `y`, for finite doubles. -/
def lessThan (x y : Number.Binary) : Bool :=
  let value (z : Number.Binary) : Int :=
    let u : Int := Number.double.units z.code
    if z.negative then -u else u
  value x < value y

def readFloatText (f : Number.Format) (s : String) : Read Number.Binary :=
  match f.read? s with
  | some x => .ok x
  | none => .error (if s.isEmpty then .emptyFloat else .floatText)

/-- The greatest single as a double. -/
def maxSingle : Number.Binary :=
  Number.single.convert Number.double ⟨false, Number.single.infinity - 1⟩

/-- A double as a single, unless it is greater than all of them. -/
def narrow (x : Number.Binary) : Read Number.Binary :=
  if lessThan maxSingle ⟨false, x.code⟩ then .error .outOfRange
  else .ok (Number.double.convert Number.single x)

def integerOfNumber (low high : Int) : Json.Number → Read Int
  | .natural n => if high < n then .error (.integer .tooLarge) else .ok n
  | .negative n => if -(n : Int) < low then .error (.integer .tooSmall) else .ok (-n)
  | .real x =>
    if lessThan x (Number.double.ofInt low) || lessThan (Number.double.ofInt high) x then
      .error .outOfRange
    else
      match Number.double.int? x with
      | some n => .ok (max low (min high n))
      | none => .error .fraction

/-- Reads either alphabet, with or without padding. -/
def readBase64 (s : String) : Read Bytes :=
  let raw := Text.toBytes s
  match Base64.lenient.decode raw with
  | .ok b => .ok b
  | .error e =>
    let other := match e with
      | .symbol _ b => b = Base64.lenientUrlSafe.symbol62 || b = Base64.lenientUrlSafe.symbol63
      | _ => false
    match if other then Base64.lenientUrlSafe.decode raw else .error e with
    | .ok b => .ok b
    | .error e => .error (.base64 e)

def readScalarJson (s : Scalar) (v : Json.Value) : Read Value :=
  match s, v with
  | .double, .number (.natural n) => .ok (.double (Number.double.ofInt n))
  | .double, .number (.negative n) => .ok (.double (Number.double.ofInt (-n)))
  | .double, .number (.real x) => .ok (.double x)
  | .double, .text t => do return .double (← readFloatText Number.double t)
  | .float, .number (.natural n) => .ok (.single (Number.single.ofInt n))
  | .float, .number (.negative n) => .ok (.single (Number.single.ofInt (-n)))
  | .float, .number (.real x) => do return .single (← narrow x)
  | .float, .text t => do return .single (← readFloatText Number.single t)
  | .boolean, .boolean b => .ok (.boolean b)
  | .text, .text t => .ok (.text t)
  | .bytes, .text t => do return .bytes (← readBase64 t)
  | s, v =>
    match integerBounds? s, v with
    | some (low, high), .number n => do return .integer (← integerOfNumber low high n)
    | some (low, high), .text t =>
      match Number.readInteger low high t with
      | .ok n => .ok (.integer n)
      | .error e => .error (.integer e)
    | _, v => wrongType v (scalarExpected s)

def enumNumber (n : Json.Number) : Read Int := integerOfNumber (-0x80000000) 0x7fffffff n

/-- Values of an enum come by name or number. The only value of the null enum is null. -/
def readEnum (p : Pool) (name : String) (v : Json.Value) : Read Value :=
  if name = FieldType.nullEnum then
    match v with
    | .null => .ok (.enum 0)
    | .text s => if s = "NULL_VALUE" then .ok (.enum 0) else .error .notNull
    | v => wrongType v "null"
  else
    match v with
    | .text s =>
      match (p.enum? name).bind (·.byName? s) with
      | some value => .ok (.enum value.number)
      | none => .error (.unknownEnumValue s)
    | .number (.natural n) => do return .enum (← enumNumber (.natural n))
    | .number (.negative n) => do return .enum (← enumNumber (.negative n))
    | v => wrongType v "a string or integer"

def readKeyText (type : FieldType) (s : String) : Read Key :=
  match type with
  | .scalar .text => .ok (.text s)
  | .scalar .boolean =>
    if s = "true" then .ok (.boolean true)
    else if s = "false" then .ok (.boolean false)
    else .error .booleanKey
  | .scalar other =>
    match integerBounds? other with
    | some (low, high) =>
      match Number.readInteger low high s with
      | .ok n => .ok (.integer n)
      | .error e => .error (.integer e)
    | none => .ok (.text s)
  | _ => .ok (.text s)

/-! Well-known types, other than `Any` -/

def loosePart? : WellKnown → Option Loose.Part
  | .struct => some .struct
  | .value => some .value
  | .listValue => some .list
  | _ => none

def WellKnown.expected : WellKnown → String
  | .any | .struct => "a map"
  | .timestamp => "a rfc3339 timestamp string"
  | .duration => "a duration string"
  | .fieldMask => "a field mask string"
  | .listValue => "a list"
  | .value => "a value"
  | .empty => "an empty map"
  | .wrapper s => scalarExpected s

/-- The fields of a loose value as a message of the pool. -/
def looseFields (p : Pool) (type : String) (encoded : Bytes) : Read Fields :=
  match Message.decode p type encoded with
  | .ok m => .ok m.fields
  | .error e => .error (.undecodable e)

def readWellKnown (p : Pool) (type : String) (w : WellKnown) (v : Json.Value) : Read Fields :=
  match w, v with
  | .timestamp, .text s =>
    match Timestamp.ofText s with
    | .ok t => .ok [(1, .integer t.seconds), (2, .integer t.nanos)]
    | .error e => .error (.timestamp e)
  | .duration, .text s =>
    match Duration.ofText s with
    | .ok d => .ok [(1, .integer d.seconds), (2, .integer d.nanos)]
    | .error e => .error (.duration e)
  | .fieldMask, .text s =>
    let paths := ((s.splitOn ",").filter fun path => !path.isEmpty).mapM fun path =>
      snakePath? path.toList
    match paths with
    | some paths => .ok [(1, .list (paths.map fun path => .text (String.ofList path)))]
    | none => .error .mask
  | .wrapper s, v => do return [(1, ← readScalarJson s v)]
  | .value, v => looseFields p type (Loose.ofJson v).encode
  | .struct, .object members => looseFields p type (Loose.encodeMembers (Loose.ofMembers members))
  | .listValue, .list items => looseFields p type (Loose.encodeItems (Loose.ofItems items))
  | .empty, .object members =>
    if members.isEmpty then .ok [] else .error (.notEmpty members.length)
  | w, v => wrongType v w.expected

/-! Messages -/

/-- What a value is read as. -/
inductive Target where
  | one (type : FieldType)
  | list (type : FieldType)
  | map (key value : Field)

def targetOf (p : Pool) (f : Field) : Target :=
  match p.mapEntry? f with
  | some (key, value) => .map key value
  | none => if f.label = .repeated then .list f.type else .one f.type

/-- Reads a value that holds no other messages. -/
def readLeaf (p : Pool) (type : FieldType) (v : Json.Value) : Read Value :=
  match type with
  | .scalar s => readScalarJson s v
  | .enum name => readEnum p name v
  | .message name | .group name =>
    match WellKnown.ofName? name with
    | some w => do return .message (← readWellKnown p name w v)
    | none => wrongType v "a map"

/-- The field that a member of an object names. -/
def memberField? (p : Pool) (type : String) (name : String) : Option Field :=
  let declared := (p.message? type).bind fun m => (m.byJsonName? name).or (m.byName? name)
  declared.or <|
    (p.extensions.find? fun e => e.extendee = type && s!"[{e.field.fullName}]" = name).map (·.field)

/-- What a null member sets its field to: nothing, but for types that have a null value. -/
def nullValue? (p : Pool) (f : Field) : Option Value :=
  match targetOf p f with
  | .one (.enum name) => if name = FieldType.nullEnum then some (.enum 0) else none
  | .one (.message name) =>
    if WellKnown.ofName? name = some .value then
      match readWellKnown p name .value .null with
      | .ok fields => some (.message fields)
      | .error _ => none
    else none
  | _ => none

/-- The choice that a field belongs to, if one of its fields is set already. -/
def takenChoice? (p : Pool) (type : String) (f : Field) (fs : Fields) : Option String :=
  match f.oneof with
  | none => none
  | some choice =>
    let taken := fs.any fun entry =>
      match (p.message? type).bind (·.field? entry.1) with
      | some g => g.oneof = some choice && shows p g entry.2
      | none => false
    if taken then (p.message? type).bind fun m => m.oneofs[choice]? else none

def setMember (p : Pool) (type : String) (f : Field) (fs : Fields) (v : Value) : Read Fields :=
  match takenChoice? p type f fs with
  | some name => .error (.choice name)
  | none => .ok (setValue fs f.number v)

def typeUrl? (members : List (String × Json.Value)) : Option Json.Value :=
  (members.find? (·.1 = "@type")).map (·.2)

/-- The type URL of an object and the message type that it names. -/
def anyType (p : Pool) (members : List (String × Json.Value)) : Read (String × String) :=
  match typeUrl? members with
  | none => .error .noTypeUrl
  | some (.text url) =>
    match typeOfUrl? url with
    | none => .error (.typeUrl url)
    | some name =>
      match p.message? (withoutDot name) with
      | some m => .ok (url, m.fullName)
      | none => .error (.unknownMessage name)
  | some v => wrongType v "a string"

/-- The first member beside the type URL and the value. -/
def strayMember? (members : List (String × Json.Value)) : Option String :=
  (members.find? fun m => m.1 ≠ "@type" && m.1 ≠ "value").map (·.1)

mutual

def readValueJson (p : Pool) (target : Target) : Json.Value → Read Value
  | .object members =>
    match target with
    | .map key value => do return .map (← readEntries p key value [] members)
    | .list _ => wrongType (.object members) "a list"
    | .one type =>
      match type.message? with
      | none => readLeaf p type (.object members)
      | some name =>
        match WellKnown.ofName? name with
        | none => do return .message (← readMembers p name false [] members)
        | some .any => do
          let (url, inner) ← anyType p members
          let fields ← match WellKnown.ofName? inner with
            | none => readMembers p inner true [] members
            | some _ => readPayload p inner members
          if let some stray := (WellKnown.ofName? inner).bind fun _ => strayMember? members then
            throw (.unknownField stray)
          return .message [(1, .text url), (2, .bytes (Message.encode p ⟨inner, fields⟩))]
        | some w => do return .message (← readWellKnown p name w (.object members))
  | .list items =>
    match target with
    | .list type => do return .list (← readItems p type items)
    | .map _ _ => wrongType (.list items) "a map"
    | .one type => readLeaf p type (.list items)
  | v =>
    match target with
    | .one type => readLeaf p type v
    | .list _ => wrongType v "a list"
    | .map _ _ => wrongType v "a map"

def readItems (p : Pool) (type : FieldType) : List Json.Value → Read (List Value)
  | [] => .ok []
  | v :: rest => do
    let v ← readValueJson p (.one type) v
    return v :: (← readItems p type rest)

def readEntries (p : Pool) (key value : Field) (entries : List (Key × Value)) :
    List (String × Json.Value) → Read (List (Key × Value))
  | [] => .ok entries
  | (name, v) :: rest => do
    let k ← readKeyText key.type name
    let v ← readValueJson p (.one value.type) v
    readEntries p key value (putEntry entries k v) rest

/-- Reads members into fields, all but the type URL if it is to be skipped. -/
def readMembers (p : Pool) (type : String) (skipTypeUrl : Bool) (fs : Fields) :
    List (String × Json.Value) → Read Fields
  | [] => .ok fs
  | (name, v) :: rest =>
    if skipTypeUrl && name = "@type" then readMembers p type skipTypeUrl fs rest
    else
      match memberField? p type name with
      | none => .error (.unknownField name)
      | some f =>
        if v.isNull then
          match nullValue? p f with
          | none => readMembers p type skipTypeUrl fs rest
          | some v => do
            let fs ← setMember p type f fs v
            readMembers p type skipTypeUrl fs rest
        else do
          let v ← readValueJson p (targetOf p f) v
          let fs ← setMember p type f fs v
          readMembers p type skipTypeUrl fs rest

/-- Reads the value that stands for a well-known message beside its type URL. -/
def readPayload (p : Pool) (type : String) : List (String × Json.Value) → Read Fields
  | [] => .error .noValue
  | (name, v) :: rest =>
    if name = "value" then do
      match ← readValueJson p (.one (.message type)) v with
      | .message fields => return fields
      | _ => return []
    else if "@type" < name then .error (.unknownField name)
    else readPayload p type rest

end

/-- Reads a message of a type. -/
def ofJson (p : Pool) (type : String) (v : Json.Value) : Read Message := do
  match ← readValueJson p (.one (.message type)) v with
  | .message fields => return ⟨type, fields⟩
  | _ => return .empty type

end DynamicRpc.Message
