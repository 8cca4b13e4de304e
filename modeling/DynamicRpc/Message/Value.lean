import DynamicRpc.Number.Binary
import DynamicRpc.Schema.Pool

/-!
Messages whose types are known only from a schema. A message holds the fields that were set, by
number; which kind of value a field takes, and what it is worth when it is not set, is looked up in
the pool.
-/
namespace DynamicRpc.Message

open Schema

/-- Keys of maps. -/
inductive Key where
  | boolean (b : Bool)
  | integer (n : Int)
  | text (s : String)
  deriving DecidableEq, Repr, Inhabited

inductive Value where
  | double (x : Number.Binary)
  | single (x : Number.Binary)
  | integer (n : Int)
  | boolean (b : Bool)
  | text (s : String)
  | bytes (b : Bytes)
  | enum (n : Int)
  | message (fields : List (Nat × Value))
  | list (items : List Value)
  /-- No key occurs twice. -/
  | map (entries : List (Key × Value))
  deriving Repr, Inhabited

/-- Numbers and values of the fields that are set, no number twice. -/
abbrev Fields := List (Nat × Value)

def valueOf? (fs : Fields) (number : Nat) : Option Value :=
  (fs.find? (·.1 = number)).map (·.2)

/-- Sets a field in place, or else at the end. -/
def setValue (fs : Fields) (number : Nat) (v : Value) : Fields :=
  if fs.any (·.1 = number) then fs.map fun f => if f.1 = number then (number, v) else f
  else fs ++ [(number, v)]

/-- Puts an entry in the place of one with the same key, or else at the end. -/
def putEntry (entries : List (Key × Value)) (k : Key) (v : Value) : List (Key × Value) :=
  if entries.any (·.1 = k) then entries.map fun e => if e.1 = k then (k, v) else e
  else entries ++ [(k, v)]

end DynamicRpc.Message

namespace DynamicRpc

/-- The fields of a message of a type, named by its full name. -/
structure Message where
  type : String
  fields : Message.Fields
  deriving Repr, Inhabited

end DynamicRpc

namespace DynamicRpc.Message

open Schema

def empty (type : String) : Message := ⟨type, []⟩

def scalarDefault : Scalar → Value
  | .double => .double ⟨false, 0⟩
  | .float => .single ⟨false, 0⟩
  | .boolean => .boolean false
  | .text => .text ""
  | .bytes => .bytes []
  | _ => .integer 0

/-- The value of an absent field that is neither a list nor a map. -/
def typeDefault (p : Pool) : FieldType → Value
  | .scalar s => scalarDefault s
  | .message _ | .group _ => .message []
  | .enum name => .enum (((p.enum? name).map (·.default)).getD 0)

def fieldDefault (p : Pool) (f : Field) : Value :=
  if (p.mapEntry? f).isSome then .map []
  else if f.label = .repeated then .list []
  else typeDefault p f.type

/-- Whether a value is worth as much as an absent one. Zeros count whatever their sign. -/
def isDefault (p : Pool) (f : Field) : Value → Bool
  | .double x | .single x => x.code = 0
  | .integer n => n = 0
  | .boolean b => !b
  | .text s => s.isEmpty
  | .bytes b => b.isEmpty
  | .list items => items.isEmpty
  | .map entries => entries.isEmpty
  | .message _ => false
  | .enum n =>
    match f.type with
    | .enum name => n = ((p.enum? name).map (·.default)).getD 0
    | _ => n = 0

/-- Whether a field that is set shows: it tracks its presence or is not worth the default. -/
def shows (p : Pool) (f : Field) (v : Value) : Bool := f.presence || !isDefault p f v

/-- Unsets the other fields of a choice that a field belongs to. -/
def dropAlternatives (p : Pool) (type : String) (f : Field) (fs : Fields) : Fields :=
  match f.oneof with
  | none => fs
  | some choice =>
    fs.filter fun entry => entry.1 = f.number ||
      match p.fieldOf? type entry.1 with
      | some g => g.oneof ≠ some choice
      | none => true

end DynamicRpc.Message
