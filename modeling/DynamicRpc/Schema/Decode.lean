import DynamicRpc.Schema.Declaration
import DynamicRpc.Wire.Basic

/-!
Reading the declarations of a file from the wire. Which fields the messages of a declaration have is
given as a table; the reader checks every known field, also those that no declaration keeps.
-/
namespace DynamicRpc.Schema

open Wire

/-- The messages that make up the declarations of a file. -/
inductive Shape where
  | file
  | message
  | extensionRange
  | reservedRange
  | field
  | oneof
  | enum
  | enumReservedRange
  | enumValue
  | service
  | method
  | fileOptions
  | messageOptions
  | fieldOptions
  | oneofOptions
  | enumOptions
  | enumValueOptions
  | serviceOptions
  | methodOptions
  | extensionRangeOptions
  | uninterpretedOption
  | namePart
  | sourceInfo
  | location
  deriving DecidableEq, Repr

inductive Content where
  | text
  | bytes
  | int32
  | boolean
  | uint64
  | int64
  | double
  /-- Integers that may also come packed into one payload. -/
  | int32s
  | nested (shape : Shape)

structure ShapeField where
  number : Nat
  name : String
  content : Content

namespace Shape

def label : Shape → String
  | file => "FileDescriptorProto"
  | message => "DescriptorProto"
  | extensionRange => "ExtensionRange"
  | reservedRange => "ReservedRange"
  | field => "FieldDescriptorProto"
  | oneof => "OneofDescriptorProto"
  | enum => "EnumDescriptorProto"
  | enumReservedRange => "EnumReservedRange"
  | enumValue => "EnumValueDescriptorProto"
  | service => "ServiceDescriptorProto"
  | method => "MethodDescriptorProto"
  | fileOptions => "FileOptions"
  | messageOptions => "MessageOptions"
  | fieldOptions => "FieldOptions"
  | oneofOptions => "OneofOptions"
  | enumOptions => "EnumOptions"
  | enumValueOptions => "EnumValueOptions"
  | serviceOptions => "ServiceOptions"
  | methodOptions => "MethodOptions"
  | extensionRangeOptions => "ExtensionRangeOptions"
  | uninterpretedOption => "UninterpretedOption"
  | namePart => "NamePart"
  | sourceInfo => "SourceCodeInfo"
  | location => "Location"

private def uninterpreted : ShapeField :=
  ⟨999, "uninterpreted_option", .nested .uninterpretedOption⟩

def fields : Shape → List ShapeField
  | file =>
    [⟨1, "name", .text⟩, ⟨2, "package", .text⟩, ⟨3, "dependency", .text⟩,
      ⟨10, "public_dependency", .int32s⟩, ⟨11, "weak_dependency", .int32s⟩,
      ⟨4, "message_type", .nested .message⟩, ⟨5, "enum_type", .nested .enum⟩,
      ⟨6, "service", .nested .service⟩, ⟨7, "extension", .nested .field⟩,
      ⟨8, "options", .nested .fileOptions⟩, ⟨9, "source_code_info", .nested .sourceInfo⟩,
      ⟨12, "syntax", .text⟩]
  | message =>
    [⟨1, "name", .text⟩, ⟨2, "field", .nested .field⟩, ⟨6, "extension", .nested .field⟩,
      ⟨3, "nested_type", .nested .message⟩, ⟨4, "enum_type", .nested .enum⟩,
      ⟨5, "extension_range", .nested .extensionRange⟩, ⟨8, "oneof_decl", .nested .oneof⟩,
      ⟨7, "options", .nested .messageOptions⟩, ⟨9, "reserved_range", .nested .reservedRange⟩,
      ⟨10, "reserved_name", .text⟩]
  | extensionRange =>
    [⟨1, "start", .int32⟩, ⟨2, "end", .int32⟩, ⟨3, "options", .nested .extensionRangeOptions⟩]
  | reservedRange => [⟨1, "start", .int32⟩, ⟨2, "end", .int32⟩]
  | field =>
    [⟨1, "name", .text⟩, ⟨3, "number", .int32⟩, ⟨4, "label", .int32⟩, ⟨5, "type", .int32⟩,
      ⟨6, "type_name", .text⟩, ⟨2, "extendee", .text⟩, ⟨7, "default_value", .text⟩,
      ⟨9, "oneof_index", .int32⟩, ⟨10, "json_name", .text⟩,
      ⟨8, "options", .nested .fieldOptions⟩, ⟨17, "proto3_optional", .boolean⟩]
  | oneof => [⟨1, "name", .text⟩, ⟨2, "options", .nested .oneofOptions⟩]
  | enum =>
    [⟨1, "name", .text⟩, ⟨2, "value", .nested .enumValue⟩, ⟨3, "options", .nested .enumOptions⟩,
      ⟨4, "reserved_range", .nested .enumReservedRange⟩, ⟨5, "reserved_name", .text⟩]
  | enumReservedRange => [⟨1, "start", .int32⟩, ⟨2, "end", .int32⟩]
  | enumValue =>
    [⟨1, "name", .text⟩, ⟨2, "number", .int32⟩, ⟨3, "options", .nested .enumValueOptions⟩]
  | service =>
    [⟨1, "name", .text⟩, ⟨2, "method", .nested .method⟩, ⟨3, "options", .nested .serviceOptions⟩]
  | method =>
    [⟨1, "name", .text⟩, ⟨2, "input_type", .text⟩, ⟨3, "output_type", .text⟩,
      ⟨4, "options", .nested .methodOptions⟩, ⟨5, "client_streaming", .boolean⟩,
      ⟨6, "server_streaming", .boolean⟩]
  | fileOptions =>
    [⟨1, "java_package", .text⟩, ⟨8, "java_outer_classname", .text⟩,
      ⟨10, "java_multiple_files", .boolean⟩, ⟨20, "java_generate_equals_and_hash", .boolean⟩,
      ⟨27, "java_string_check_utf8", .boolean⟩, ⟨9, "optimize_for", .int32⟩,
      ⟨11, "go_package", .text⟩, ⟨16, "cc_generic_services", .boolean⟩,
      ⟨17, "java_generic_services", .boolean⟩, ⟨18, "py_generic_services", .boolean⟩,
      ⟨42, "php_generic_services", .boolean⟩, ⟨23, "deprecated", .boolean⟩,
      ⟨31, "cc_enable_arenas", .boolean⟩, ⟨36, "objc_class_prefix", .text⟩,
      ⟨37, "csharp_namespace", .text⟩, ⟨39, "swift_prefix", .text⟩,
      ⟨40, "php_class_prefix", .text⟩, ⟨41, "php_namespace", .text⟩,
      ⟨44, "php_metadata_namespace", .text⟩, ⟨45, "ruby_package", .text⟩, uninterpreted]
  | messageOptions =>
    [⟨1, "message_set_wire_format", .boolean⟩, ⟨2, "no_standard_descriptor_accessor", .boolean⟩,
      ⟨3, "deprecated", .boolean⟩, ⟨7, "map_entry", .boolean⟩, uninterpreted]
  | fieldOptions =>
    [⟨1, "ctype", .int32⟩, ⟨2, "packed", .boolean⟩, ⟨6, "jstype", .int32⟩, ⟨5, "lazy", .boolean⟩,
      ⟨3, "deprecated", .boolean⟩, ⟨10, "weak", .boolean⟩, uninterpreted]
  | oneofOptions => [uninterpreted]
  | enumOptions => [⟨2, "allow_alias", .boolean⟩, ⟨3, "deprecated", .boolean⟩, uninterpreted]
  | enumValueOptions => [⟨1, "deprecated", .boolean⟩, uninterpreted]
  | serviceOptions => [⟨33, "deprecated", .boolean⟩, uninterpreted]
  | methodOptions =>
    [⟨33, "deprecated", .boolean⟩, ⟨34, "idempotency_level", .int32⟩, uninterpreted]
  | extensionRangeOptions => [uninterpreted]
  | uninterpretedOption =>
    [⟨2, "name", .nested .namePart⟩, ⟨3, "identifier_value", .text⟩,
      ⟨4, "positive_int_value", .uint64⟩, ⟨5, "negative_int_value", .int64⟩,
      ⟨6, "double_value", .double⟩, ⟨7, "string_value", .bytes⟩, ⟨8, "aggregate_value", .text⟩]
  | namePart => [⟨1, "name_part", .text⟩, ⟨2, "is_extension", .boolean⟩]
  | sourceInfo => [⟨1, "location", .nested .location⟩]
  | location =>
    [⟨1, "path", .int32s⟩, ⟨2, "span", .int32s⟩, ⟨3, "leading_comments", .text⟩,
      ⟨4, "trailing_comments", .text⟩, ⟨6, "leading_detached_comments", .text⟩]

end Shape

/-- What was read of a message: its known fields in order of arrival, the last first. -/
inductive Node where
  | number (n : Int)
  | text (s : String)
  | nested (fields : List (Nat × Node))
  deriving Inhabited

abbrev NodeFields := List (Nat × Node)

/-- The low 32 bits as a signed number. -/
def toInt32 (n : Nat) : Int := Int.bmod (n % 0x100000000 : Nat) 0x100000000

def readInt32 (b : Bytes) : Result (Int × Bytes) := do
  let (n, rest) ← readVarint b
  return (toInt32 n, rest)

/-- Reads packed integers up to a limit and puts them before those already read. -/
def readPacked (number limit : Nat) : Nat → NodeFields → Bytes → Result (NodeFields × Bytes)
  | 0, s, b => .ok (s, b)
  | fuel + 1, s, b =>
    if b.length ≤ limit then .ok (s, b)
    else do
      let (n, rest) ← readInt32 b
      readPacked number limit fuel ((number, .number n) :: s) rest

/-- Reads the payload of a known field; `nested` reads a message of a shape. -/
def readContent (nested : Shape → WireType → Bytes → Result (NodeFields × Bytes)) (number : Nat)
    (w : WireType) (s : NodeFields) (b : Bytes) : Content → Result (NodeFields × Bytes)
  | .text => do
    let (t, rest) ← readText w b
    return ((number, .text t) :: s, rest)
  | .bytes => do
    let (_, rest) ← readBytes w b
    return (s, rest)
  | .int32 => do
    expect w .varint b
    let (n, rest) ← readInt32 b
    return ((number, .number n) :: s, rest)
  | .boolean | .uint64 | .int64 => do
    expect w .varint b
    let (n, rest) ← readVarint b
    return ((number, .number n) :: s, rest)
  | .double => do
    expect w .fixed64 b
    let (_, rest) ← takeBytes 8 b
    return (s, rest)
  | .int32s => do
    if w = .delimited then withinLength (fun limit b => readPacked number limit b.length s b) b
    else
      expect w .varint b
      let (n, rest) ← readInt32 b
      return ((number, .number n) :: s, rest)
  | .nested shape => do
    let (fields, rest) ← nested shape w b
    return ((number, .nested fields) :: s, rest)

/-- Reads a field of a shape. The depth bounds how far messages are nested. -/
def Shape.merge : Nat → Shape → Nat → WireType → NodeFields → Bytes → Result (NodeFields × Bytes)
  | depth, shape, number, w, s, b =>
    match shape.fields.find? (·.number = number) with
    | none => do return (s, ← skipField depth number w b)
    | some known =>
      inField s!"{shape.label}.{known.name}"
        (readContent (fun inner w b => do
          expect w .delimited b
          match depth with
          | 0 => fail .tooDeep b
          | depth + 1 =>
            withinLength (fun limit b =>
              mergeFields (fun _ number w s b => Shape.merge depth inner number w s b) depth limit
                b.length [] b) b) number w s b known.content)

/-! Declarations from fields -/

namespace NodeFields

/-- The values of a field, in order of arrival. -/
def all (fs : NodeFields) (number : Nat) : List Node :=
  (fs.filter (·.1 = number)).reverse.map (·.2)

def last? (fs : NodeFields) (number : Nat) : Option Node :=
  (fs.find? (·.1 = number)).map (·.2)

def text? (fs : NodeFields) (number : Nat) : Option String :=
  match fs.last? number with
  | some (.text s) => some s
  | _ => none

def text (fs : NodeFields) (number : Nat) : String := (fs.text? number).getD ""

def texts (fs : NodeFields) (number : Nat) : List String :=
  (fs.all number).filterMap fun
    | .text s => some s
    | _ => none

def int? (fs : NodeFields) (number : Nat) : Option Int :=
  match fs.last? number with
  | some (.number n) => some n
  | _ => none

def int (fs : NodeFields) (number : Nat) : Int := (fs.int? number).getD 0

def ints (fs : NodeFields) (number : Nat) : List Int :=
  (fs.all number).filterMap fun
    | .number n => some n
    | _ => none

def flag? (fs : NodeFields) (number : Nat) : Option Bool := (fs.int? number).map (· ≠ 0)

def flag (fs : NodeFields) (number : Nat) : Bool := (fs.flag? number).getD false

def messages (fs : NodeFields) (number : Nat) : List NodeFields :=
  (fs.all number).filterMap fun
    | .nested s => some s
    | _ => none

/-- A message that may come in parts, later fields before earlier ones. -/
def merged (fs : NodeFields) (number : Nat) : NodeFields := (fs.messages number).reverse.flatten

end NodeFields

open NodeFields

def Label.ofNumber (n : Int) : Label :=
  if n = 2 then .required else if n = 3 then .repeated else .optional

def fieldOfNode (fs : NodeFields) : FieldDecl where
  name := text fs 1
  number := int fs 3
  label := .ofNumber (int fs 4)
  type := (int fs 5).toNat
  typeName := text? fs 6
  extendee := text fs 2
  default := text? fs 7
  oneof := int? fs 9
  jsonName := text? fs 10
  packed := flag? (merged fs 8) 2
  explicitPresence := flag fs 17

def rangeOfNode (fs : NodeFields) : NumberRange := ⟨int fs 1, int fs 2⟩

def enumOfNode (fs : NodeFields) : EnumDecl where
  name := text fs 1
  values := (messages fs 2).map fun v => ⟨text v 1, int v 2⟩
  reserved := (messages fs 4).map rangeOfNode
  allowAlias := flag (merged fs 3) 2

/-- Reads a message with its nested messages, at most `depth` deep. -/
def messageOfNode : Nat → NodeFields → MessageDecl
  | 0, fs => ⟨text fs 1, [], [], [], [], [], [], [], false⟩
  | depth + 1, fs =>
    { name := text fs 1
      fields := (messages fs 2).map fieldOfNode
      oneofs := (messages fs 8).map (text · 1)
      nested := (messages fs 3).map (messageOfNode depth)
      enums := (messages fs 4).map enumOfNode
      extensions := (messages fs 6).map fieldOfNode
      extensionRanges := (messages fs 5).map rangeOfNode
      reserved := (messages fs 9).map rangeOfNode
      mapEntry := flag (merged fs 7) 7 }

def serviceOfNode (fs : NodeFields) : ServiceDecl where
  name := text fs 1
  methods := (messages fs 2).map fun m => ⟨text m 1, text m 2, text m 3, flag m 5, flag m 6⟩

def fileOfNode (fs : NodeFields) : FileDecl where
  name := text? fs 1
  package := text fs 2
  imports := texts fs 3
  publicImports := ints fs 10
  messages := (messages fs 4).map (messageOfNode maxDepth)
  enums := (messages fs 5).map enumOfNode
  services := (messages fs 6).map serviceOfNode
  extensions := (messages fs 7).map fieldOfNode
  syntaxName := text fs 12

def FileDecl.decode (b : Bytes) : Result FileDecl := do
  let (fs, _) ← mergeFields (fun depth number w s b => Shape.merge depth .file number w s b)
    maxDepth 0 b.length [] b
  return fileOfNode fs

end DynamicRpc.Schema
