import DynamicRpc.Schema.Declaration

/-!
Linked schemas. A pool holds files whose type references are resolved to full names; what a full
name stands for is looked up in the pool. Each full name is defined once.
-/
namespace DynamicRpc.Schema

inductive Scalar where
  | double
  | float
  | int32
  | int64
  | uint32
  | uint64
  | sint32
  | sint64
  | fixed32
  | fixed64
  | sfixed32
  | sfixed64
  | boolean
  | text
  | bytes
  deriving DecidableEq, Repr, Inhabited

namespace Scalar

def name : Scalar → String
  | double => "double"
  | float => "float"
  | int32 => "int32"
  | int64 => "int64"
  | uint32 => "uint32"
  | uint64 => "uint64"
  | sint32 => "sint32"
  | sint64 => "sint64"
  | fixed32 => "fixed32"
  | fixed64 => "fixed64"
  | sfixed32 => "sfixed32"
  | sfixed64 => "sfixed64"
  | boolean => "bool"
  | text => "string"
  | bytes => "bytes"

/-- The scalar of a declared type; a type that is none counts as a double. -/
def ofNumber : Nat → Scalar
  | 2 => float
  | 3 => int64
  | 4 => uint64
  | 5 => int32
  | 6 => fixed64
  | 7 => fixed32
  | 8 => boolean
  | 9 => text
  | 12 => bytes
  | 13 => uint32
  | 15 => sfixed32
  | 16 => sfixed64
  | 17 => sint32
  | 18 => sint64
  | _ => double

end Scalar

inductive FieldType where
  | scalar (s : Scalar)
  | message (fullName : String)
  /-- A message written between group keys. -/
  | group (fullName : String)
  | enum (fullName : String)
  deriving DecidableEq, Repr, Inhabited

namespace FieldType

def message? : FieldType → Option String
  | message n | group n => some n
  | _ => none

/-- The name of a type as a reader sees it. -/
def name : FieldType → String
  | scalar s => s.name
  | message n | group n | enum n => n

/-- The full name of the enum that has only a null value. -/
def nullEnum : String := "google.protobuf.NullValue"

/-- Texts, bytes and messages cannot be packed. -/
def isPackable : FieldType → Bool
  | scalar .text | scalar .bytes | message _ | group _ => false
  | _ => true

end FieldType

structure Field where
  name : String
  fullName : String
  number : Nat
  label : Label
  type : FieldType
  jsonName : String
  oneof : Option Nat
  packed : Bool
  /-- An absent value differs from a default one. -/
  presence : Bool
  deriving DecidableEq, Repr, Inhabited

structure Extension where
  field : Field
  extendee : String
  deriving DecidableEq, Repr, Inhabited

structure EnumType where
  name : String
  fullName : String
  /-- As declared; the first is the default. -/
  values : List EnumValueDecl
  deriving DecidableEq, Repr, Inhabited

structure MessageType where
  name : String
  fullName : String
  /-- In the order of their numbers. -/
  fields : List Field
  oneofs : List String
  nested : List MessageType
  enums : List EnumType
  extensions : List Extension
  mapEntry : Bool
  deriving Repr, Inhabited

structure Method where
  name : String
  input : String
  output : String
  clientStreaming : Bool
  serverStreaming : Bool
  deriving DecidableEq, Repr, Inhabited

structure Service where
  name : String
  fullName : String
  methods : List Method
  deriving DecidableEq, Repr, Inhabited

structure File where
  decl : FileDecl
  messages : List MessageType
  enums : List EnumType
  services : List Service
  extensions : List Extension
  deriving Repr, Inhabited

namespace EnumType

/-- Puts a value in the order of the numbers; one of several equal ones goes before the last. -/
def place (v : EnumValueDecl) : List EnumValueDecl → List EnumValueDecl
  | [] => [v]
  | [u] => if u.number < v.number then [u, v] else [v, u]
  | u :: w :: rest =>
    if u.number < v.number || (u.number = v.number && w.number = v.number) then
      u :: place v (w :: rest)
    else v :: u :: w :: rest

/-- The values in the order of their numbers. -/
def sorted (e : EnumType) : List EnumValueDecl := e.values.foldl (fun vs v => place v vs) []

/-- Of several values with a number the first declared one. -/
def byNumber? (e : EnumType) (n : Int) : Option EnumValueDecl := e.values.find? (·.number = n)

/-- The number of an absent value. -/
def default (e : EnumType) : Int :=
  match e.values with
  | v :: _ => v.number
  | [] => 0

def byName? (e : EnumType) (name : String) : Option EnumValueDecl := e.values.find? (·.name = name)

end EnumType

namespace MessageType

mutual

/-- A message and all that are nested in it. -/
def all : MessageType → List MessageType
  | ⟨name, fullName, fields, oneofs, nested, enums, extensions, mapEntry⟩ =>
    ⟨name, fullName, fields, oneofs, nested, enums, extensions, mapEntry⟩ :: allOf nested

def allOf : List MessageType → List MessageType
  | [] => []
  | m :: rest => m.all ++ allOf rest

end

mutual

/-- The extensions declared in a message, those of nested messages first. -/
def allExtensions : MessageType → List Extension
  | ⟨_, _, _, _, nested, _, extensions, _⟩ => extensionsOf nested ++ extensions

def extensionsOf : List MessageType → List Extension
  | [] => []
  | m :: rest => m.allExtensions ++ extensionsOf rest

end

def field? (m : MessageType) (number : Nat) : Option Field := m.fields.find? (·.number = number)

def byName? (m : MessageType) (name : String) : Option Field := m.fields.find? (·.name = name)

def byJsonName? (m : MessageType) (name : String) : Option Field :=
  m.fields.find? (·.jsonName = name)

end MessageType

namespace File

def path (f : File) : String := f.decl.path

def allMessages (f : File) : List MessageType := MessageType.allOf f.messages

def allEnums (f : File) : List EnumType := f.enums ++ f.allMessages.flatMap (·.enums)

/-- Extensions declared inside messages come first. -/
def allExtensions (f : File) : List Extension :=
  MessageType.extensionsOf f.messages ++ f.extensions

end File

structure Pool where
  files : List File
  deriving Repr, Inhabited

namespace Pool

def empty : Pool := ⟨[]⟩

def contains (p : Pool) (path : String) : Bool := p.files.any (·.path = path)

def file? (p : Pool) (path : String) : Option File := p.files.find? (·.path = path)

def messages (p : Pool) : List MessageType := p.files.flatMap (·.allMessages)

def enums (p : Pool) : List EnumType := p.files.flatMap (·.allEnums)

def services (p : Pool) : List Service := p.files.flatMap (·.services)

def extensions (p : Pool) : List Extension := p.files.flatMap (·.allExtensions)

def message? (p : Pool) (fullName : String) : Option MessageType :=
  p.messages.find? (·.fullName = fullName)

def enum? (p : Pool) (fullName : String) : Option EnumType :=
  p.enums.find? (·.fullName = fullName)

def service? (p : Pool) (fullName : String) : Option Service :=
  p.services.find? (·.fullName = fullName)

def extension? (p : Pool) (fullName : String) : Option Extension :=
  p.extensions.find? (·.field.fullName = fullName)

/-- The extension of a message with a number, of several the last one. -/
def extensionOf? (p : Pool) (message : String) (number : Nat) : Option Extension :=
  (p.extensions.filter fun e => e.extendee = message && e.field.number = number).getLast?

/-- Key and value of the entries of a map field. -/
def mapEntry? (p : Pool) (f : Field) : Option (Field × Field) :=
  if f.label ≠ .repeated then none
  else
    match f.type.message?.bind p.message? with
    | none => none
    | some m =>
      if m.mapEntry then
        match m.field? 1, m.field? 2 with
        | some key, some value => some (key, value)
        | _, _ => none
      else none

/-- The declared field or else the extension of a message with a number. -/
def fieldOf? (p : Pool) (message : String) (number : Nat) : Option Field :=
  match (p.message? message).bind (·.field? number) with
  | some f => some f
  | none => (p.extensionOf? message number).map (·.field)

def isList (p : Pool) (f : Field) : Bool := f.label = .repeated && (p.mapEntry? f).isNone

end Pool

end DynamicRpc.Schema
