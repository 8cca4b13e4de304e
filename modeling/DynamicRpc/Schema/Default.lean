import DynamicRpc.Number.Decimal
import DynamicRpc.Schema.Pool

/-!
Default values as they are written in declarations. Only their form is checked; bytes use the
escapes of string literals.
-/
namespace DynamicRpc.Schema

def isOctal (c : Char) : Bool := '0' ≤ c && c ≤ '7'

def isHex (c : Char) : Bool := c.isDigit || ('a' ≤ c && c ≤ 'f') || ('A' ≤ c && c ≤ 'F')

/-- Whether the escapes of a literal are complete. -/
def escapesAreValid : List Char → Bool
  | [] => true
  | '\\' :: c :: rest =>
    if "abfnrtv\\'\"?".toList.contains c || isOctal c then escapesAreValid rest
    else if c = 'x' || c = 'X' then (rest.headD ' ' |> isHex) && escapesAreValid rest
    else false
  | '\\' :: [] => false
  | _ :: rest => escapesAreValid rest

def integerBounds? : Scalar → Option (Int × Int)
  | .int32 | .sint32 | .sfixed32 => some (-0x80000000, 0x7fffffff)
  | .int64 | .sint64 | .sfixed64 => some (-0x8000000000000000, 0x7fffffffffffffff)
  | .uint32 | .fixed32 => some (0, 0xffffffff)
  | .uint64 | .fixed64 => some (0, 0xffffffffffffffff)
  | _ => none

def Scalar.acceptsDefault (s : Scalar) (text : String) : Bool :=
  match integerBounds? s with
  | some (low, high) => (Number.readInteger low high text).isOk
  | none =>
    match s with
    | .double | .float => (Number.double.read? text).isSome
    | .boolean => text = "true" || text = "false"
    | .bytes => escapesAreValid text.toList
    | _ => true

end DynamicRpc.Schema
