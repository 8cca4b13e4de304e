import DynamicRpc.Number.Binary
import DynamicRpc.Text.Utf8

/-!
JSON values. A number is kept as an integer as long as it is one of at most 64 bits. The members of
an object are sorted by name, and a name occurs once.
-/
namespace DynamicRpc.Json

inductive Number where
  | natural (n : Nat)
  /-- The number below zero of this magnitude. -/
  | negative (n : Nat)
  | real (x : Number.Binary)
  deriving DecidableEq, Repr

inductive Value where
  | null
  | boolean (b : Bool)
  | number (n : Number)
  | text (s : String)
  | list (items : List Value)
  | object (members : List (String × Value))
  deriving Inhabited

/-- Puts a member in its place; a later value of a name replaces an earlier one. -/
def insertMember (name : String) (v : Value) :
    List (String × Value) → List (String × Value)
  | [] => [(name, v)]
  | m :: rest =>
    if m.1 = name then (name, v) :: rest
    else if name < m.1 then (name, v) :: m :: rest
    else m :: insertMember name v rest

def Value.ofMembers (ms : List (String × Value)) : Value :=
  .object (ms.foldl (fun o m => insertMember m.1 m.2 o) [])

def Value.isNull : Value → Bool
  | .null => true
  | _ => false

def Value.ofText? : Option String → Value
  | some s => .text s
  | none => .null

end DynamicRpc.Json
