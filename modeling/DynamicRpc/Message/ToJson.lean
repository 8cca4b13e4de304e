import DynamicRpc.Message.FromJson

/-!
Messages as JSON. Members stand in the order of the field numbers, extensions last; integers of 64
bits are texts, and bytes are in base64.
-/
namespace DynamicRpc.Message

open Schema

inductive PrintError where
  | timestamp
  | duration
  | typeUrl (url : String)
  | unknownMessage (name : String)
  | mask
  | notFinite
  | undecodable (e : Wire.DecodeError)
  deriving DecidableEq, Repr

def PrintError.message : PrintError → String
  | timestamp => TimestampError.message .range
  | duration => DurationError.message .range
  | typeUrl url => typeUrlMessage url
  | unknownMessage name => unknownMessageMessage name
  | mask => "cannot roundtrip field name through camelcase"
  | notFinite => "cannot serialize non-finite double in google.protobuf.Value"
  | undecodable e => undecodableMessage e

abbrev Print (α : Type) := Except PrintError α

def isWide : FieldType → Bool
  | .scalar .int64 | .scalar .uint64 | .scalar .sint64 | .scalar .fixed64 | .scalar .sfixed64 =>
    true
  | _ => false

/-- The text of a number that is not finite. -/
def extremeText? (f : Number.Format) (x : Number.Binary) : Option String :=
  if f.isFinite x then none
  else if f.isNaN x then some "NaN"
  else if x.negative then some "-Infinity"
  else some "Infinity"

/-- A value that holds no others, as it stands in a wrapper: a number that is not finite is null. -/
def plainTree (type : FieldType) : Value → Json.Tree
  | .double x => .double x
  | .single x => .single x
  | .integer n => if isWide type then .text (toString n) else .integer n
  | .boolean b => .boolean b
  | .text s => .text s
  | .bytes b => .text (Base64.encode b)
  | _ => .null

/-- A value that holds no others, as it stands in a field. -/
def leafTree (p : Pool) (type : FieldType) : Value → Json.Tree
  | .double x =>
    match extremeText? Number.double x with
    | some t => .text t
    | none => .double x
  | .single x =>
    match extremeText? Number.single x with
    | some t => .text t
    | none => .single x
  | .enum n =>
    match type with
    | .enum name =>
      if name = FieldType.nullEnum then .null
      else
        match (p.enum? name).bind (·.byNumber? n) with
        | some v => .text v.name
        | none => .integer n
    | _ => .integer n
  | v => plainTree type v

def keyText : Key → String
  | .boolean b => if b then "true" else "false"
  | .integer n => toString n
  | .text s => s

/-- A well-known message other than `Any`, whose fields and encoded form are given. -/
def wellKnownTree (w : WellKnown) (fs : Fields) (encoded : Bytes) : Print Json.Tree :=
  match w with
  | .timestamp =>
    let t : Timestamp := ⟨integerAt fs 1, integerAt fs 2⟩
    if t.inRange then .ok (.text t.toText) else .error .timestamp
  | .duration =>
    let d : Duration := ⟨integerAt fs 1, integerAt fs 2⟩
    if d.inRange then .ok (.text d.toText) else .error .duration
  | .fieldMask =>
    match (textsAt fs 1).mapM fun path => camelPath? path.toList with
    | some paths => .ok (.text (",".intercalate (paths.map String.ofList)))
    | none => .error .mask
  | .wrapper s => .ok (plainTree (.scalar s) ((valueOf? fs 1).getD (scalarDefault s)))
  | .struct => loose .struct (.struct [])
  | .value => loose .value .null
  | .listValue => loose .list (.list [])
  | .empty | .any => .ok (.object [])
where
  loose (part : Loose.Part) (start : Loose) : Print Json.Tree :=
    match Loose.decodePart part start encoded with
    | .error e => .error (.undecodable e)
    | .ok v =>
      match v.toTree? with
      | some t => .ok t
      | none => .error .notFinite

/-- The name of a field in JSON. -/
def memberName (declared : Bool) (f : Field) : String :=
  if declared then f.jsonName else s!"[{f.fullName}]"

/-- Members in the order of printing: declared fields by number, then extensions by number. -/
def sortMembers (type : String) (p : Pool) (parts : List (Nat × Print (String × Json.Tree))) :
    Print (List (String × Json.Tree)) :=
  let declared (n : Nat) : Bool := ((p.message? type).bind (·.field? n)).isSome
  let (own, others) := parts.partition fun part => declared part.1
  let sort (ps : List (Nat × Print (String × Json.Tree))) := ps.mergeSort fun a b => a.1 ≤ b.1
  (sort own ++ sort others).mapM (·.2)

/-- Prints what a message in an `Any` stands for, given its type URL and its bytes. -/
abbrev Unpack := String → Bytes → Print Json.Tree

mutual

def valueTree (p : Pool) (unpack : Unpack) (f : Field) : Value → Print Json.Tree
  | .message fields =>
    match f.type.message? with
    | none => .ok .null
    | some type =>
      match WellKnown.ofName? type with
      | some .any => unpack (textAt fields 1) (bytesAt fields 2)
      | some w => wellKnownTree w fields (Message.encode p ⟨type, fields⟩)
      | none => do return .object (← sortMembers type p (memberTrees p unpack type fields))
  | .list items => do return .list (← itemTrees p unpack f items)
  | .map entries =>
    match p.mapEntry? f with
    | some (_, value) => do return .object (← entryTrees p unpack value entries)
    | none => .ok .null
  | v => .ok (leafTree p f.type v)

def itemTrees (p : Pool) (unpack : Unpack) (f : Field) : List Value → Print (List Json.Tree)
  | [] => .ok []
  | v :: rest => do
    let t ← valueTree p unpack f v
    return t :: (← itemTrees p unpack f rest)

def entryTrees (p : Pool) (unpack : Unpack) (value : Field) :
    List (Key × Value) → Print (List (String × Json.Tree))
  | [] => .ok []
  | (k, v) :: rest => do
    let t ← valueTree p unpack value v
    return (keyText k, t) :: (← entryTrees p unpack value rest)

def memberTrees (p : Pool) (unpack : Unpack) (type : String) :
    List (Nat × Value) → List (Nat × Print (String × Json.Tree))
  | [] => []
  | (number, v) :: rest =>
    match p.fieldOf? type number with
    | none => memberTrees p unpack type rest
    | some f =>
      if shows p f v then
        let declared := ((p.message? type).bind (·.field? number)).isSome
        let member := do return (memberName declared f, ← valueTree p unpack f v)
        (number, member) :: memberTrees p unpack type rest
      else memberTrees p unpack type rest

end

/-- Prints a message given as an `Any`: its type URL and its own members, or, for a well-known
type, what it stands for as a member named value. A message in it is shorter than it is, so as many
levels as it has bytes are enough. -/
def unpackFrom (p : Pool) : Nat → Unpack
  | 0, _, _ => .ok .null
  | levels + 1, url, encoded =>
    match typeOfUrl? url with
    | none => .error (.typeUrl url)
    | some name =>
      match p.message? (withoutDot name) with
      | none => .error (.unknownMessage name)
      | some type =>
        match Message.decode p type.fullName encoded with
        | .error e => .error (.undecodable e)
        | .ok m => do
          let head := ("@type", Json.Tree.text url)
          let unpack := unpackFrom p levels
          match WellKnown.ofName? m.type with
          | none =>
            return .object (head :: (← sortMembers m.type p (memberTrees p unpack m.type m.fields)))
          | some .any =>
            return .object [head, ("value", ← unpack (textAt m.fields 1) (bytesAt m.fields 2))]
          | some w =>
            return .object [head, ("value", ← wellKnownTree w m.fields (Message.encode p m))]

def unpackAny (p : Pool) : Unpack := fun url encoded =>
  unpackFrom p (encoded.length + 1) url encoded


def tree (p : Pool) (m : Message) : Print Json.Tree :=
  match WellKnown.ofName? m.type with
  | none => do return .object (← sortMembers m.type p (memberTrees p (unpackAny p) m.type m.fields))
  | some .any => unpackAny p (textAt m.fields 1) (bytesAt m.fields 2)
  | some w => wellKnownTree w m.fields (m.encode p)

/-- The message on lines of JSON, or a note that it cannot be printed. -/
def text (p : Pool) (m : Message) : String :=
  match m.tree p with
  | .ok t => t.layout 0
  | .error e => s!"<unprintable {m.type}: {e.message}>"

end DynamicRpc.Message
