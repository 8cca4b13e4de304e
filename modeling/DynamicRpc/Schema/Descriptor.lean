import DynamicRpc.Schema.Pool

/-!
What a full name can be looked up as: a message, a service, an enum or an extension, tried in this
order.
-/
namespace DynamicRpc.Schema

inductive Descriptor where
  | message (m : MessageType)
  | service (s : Service)
  | enum (e : EnumType)
  | extension (x : Extension)
  deriving Repr, Inhabited

namespace Descriptor

def kind : Descriptor → String
  | message _ => "message"
  | service _ => "service"
  | enum _ => "enum"
  | extension _ => "extension"

def name : Descriptor → String
  | message m => m.name
  | service s => s.name
  | enum e => e.name
  | extension x => x.field.name

def fullName : Descriptor → String
  | message m => m.fullName
  | service s => s.fullName
  | enum e => e.fullName
  | extension x => x.field.fullName

end Descriptor

/-- A name without its leading dot. -/
def withoutDot (name : String) : String :=
  match name.toList with
  | '.' :: rest => String.ofList rest
  | _ => name

namespace Pool

def find? (p : Pool) (name : String) : Option Descriptor :=
  let name := withoutDot name
  ((p.message? name).map .message).or <|
    ((p.service? name).map .service).or <|
      ((p.enum? name).map .enum).or ((p.extension? name).map .extension)

end Pool

end DynamicRpc.Schema
