import DynamicRpc.Message.Struct
import DynamicRpc.Message.Time
import DynamicRpc.Message.Value
import DynamicRpc.Text.Ascii

/-!
Message types whose JSON is not an object of their fields. All are known by their full names.
-/
namespace DynamicRpc.Message

open Schema

inductive WellKnown where
  | any
  | timestamp
  | duration
  | fieldMask
  | struct
  | value
  | listValue
  | empty
  | wrapper (s : Scalar)
  deriving DecidableEq, Repr

namespace WellKnown

def names : List (String × WellKnown) :=
  [("Any", any), ("Timestamp", timestamp), ("Duration", duration), ("FieldMask", fieldMask),
    ("Struct", struct), ("Value", value), ("ListValue", listValue), ("Empty", empty),
    ("DoubleValue", wrapper .double), ("FloatValue", wrapper .float),
    ("Int64Value", wrapper .int64), ("UInt64Value", wrapper .uint64),
    ("Int32Value", wrapper .int32), ("UInt32Value", wrapper .uint32),
    ("BoolValue", wrapper .boolean), ("StringValue", wrapper .text),
    ("BytesValue", wrapper .bytes)]

/-- The well-known type of a full name. -/
def ofName? (fullName : String) : Option WellKnown :=
  (names.find? fun n => s!"google.protobuf.{n.1}" = fullName).map (·.2)

end WellKnown

/-! Paths of field masks -/

/-- A path with a capital letter for each letter after an underscore; other underscores and capital
letters have no such form. -/
def camelPath? : List Char → Option (List Char)
  | [] => some []
  | '_' :: c :: rest =>
    if 'a' ≤ c && c ≤ 'z' then (camelPath? rest).map (c.toUpper :: ·) else none
  | c :: rest =>
    if c = '_' || ('A' ≤ c && c ≤ 'Z') then none else (camelPath? rest).map (c :: ·)

/-- The path that a path in capitals stands for. -/
def snakePath? : List Char → Option (List Char)
  | [] => some []
  | c :: rest =>
    if c = '_' then none
    else if 'A' ≤ c && c ≤ 'Z' then (snakePath? rest).map ('_' :: c.toLower :: ·)
    else (snakePath? rest).map (c :: ·)

example : camelPath? "a_b.c".toList = some "aB.c".toList := by decide
example : snakePath? "aB.c".toList = some "a_b.c".toList := by decide

/-- The message type at the end of a type URL. -/
def typeOfUrl? (url : String) : Option String := (Text.splitLast? '/' url).map (·.2)

/-! Fields -/

def integerAt (fs : Fields) (number : Nat) : Int :=
  match valueOf? fs number with
  | some (.integer n) => n
  | _ => 0

def textAt (fs : Fields) (number : Nat) : String :=
  match valueOf? fs number with
  | some (.text s) => s
  | _ => ""

def bytesAt (fs : Fields) (number : Nat) : Bytes :=
  match valueOf? fs number with
  | some (.bytes b) => b
  | _ => []

def textsAt (fs : Fields) (number : Nat) : List String :=
  match valueOf? fs number with
  | some (.list items) => items.filterMap fun
    | .text s => some s
    | _ => none
  | _ => []

end DynamicRpc.Message
