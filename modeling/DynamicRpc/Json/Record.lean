import DynamicRpc.Json.Reader

/-!
Reading JSON straight into typed values, so that faults carry their place. A record is written as an
object, or as a list of its fields in order; unknown and repeated fields are refused.
-/
namespace DynamicRpc.Json

open Reader

/-- Reads some value that is not the expected one and complains about it. -/
def failWrongType (expected : String) : Reader α := do
  let wrong (found : Found) : Reader α := failUnplaced (.wrongType found expected)
  match ← peek with
  | none => failNext .expectedValue
  | some b =>
    if b = 110 then advance; readIdent [117, 108, 108]; wrong .null
    else if b = 116 then advance; readIdent [114, 117, 101]; wrong (.boolean true)
    else if b = 102 then advance; readIdent [97, 108, 115, 101]; wrong (.boolean false)
    else if b = 45 then advance; wrong (.number (← readNumber false))
    else if isDigit b then wrong (.number (← readNumber true))
    else if b = 34 then advance; wrong (.text (← readString))
    else if b = 91 then wrong .sequence
    else if b = 123 then wrong .map
    else failNext .expectedValue

/-- Shows the first byte of a value. -/
def startValue : Reader UInt8 := do
  match ← peekValue with
  | some b => return b
  | none => failNext .endInValue

def readText (expected : String) : Reader String := do
  if (← startValue) = 34 then advance; readString
  else placed (failWrongType expected)

/-- Reads a text that has to pass `parse`, which otherwise gives the complaint. -/
def readParsed (expected : String) (parse : String → Except String α) : Reader α := do
  if (← startValue) = 34 then
    advance
    let s ← readString
    match parse s with
    | .ok a => return a
    | .error message => placed (failUnplaced (.other message))
  else placed (failWrongType expected)

def readBoolean : Reader Bool := do
  let b ← startValue
  if b = 116 then advance; readIdent [114, 117, 101]; return true
  else if b = 102 then advance; readIdent [97, 108, 115, 101]; return false
  else placed (failWrongType "a boolean")

/-- A natural number of 64 bits. -/
def readSize : Reader Nat := do
  let b ← startValue
  if b = 45 || isDigit b then
    if b = 45 then advance
    match ← readNumber (b ≠ 45) with
    | .natural n => return n
    | .negative n => placed (failUnplaced (.wrongValue (.number (.negative n)) "usize"))
    | .real x => placed (failUnplaced (.wrongType (.number (.real x)) "usize"))
  else placed (failWrongType "usize")

def readOptional (r : Reader α) : Reader (Option α) := do
  if (← peekValue) = some 110 then advance; readIdent [117, 108, 108]; return none
  else return some (← r)

def readAll (r : Reader α) (first : Bool) : Nat → Reader (List α)
  | 0 => failHere .endInList
  | fuel + 1 => do
    if ← anotherItem first then
      let a ← r
      let rest ← readAll r false fuel
      return a :: rest
    else return []

def readList (r : Reader α) : Reader (List α) := do
  if (← startValue) = 91 then
    advance
    placed (finally_ (readAll r true ((← cursor).rest.length + 1)) endList)
  else placed (failWrongType "a sequence")

/-- A field of a record that is being read. -/
structure Field (σ : Type) where
  name : String
  required : Bool
  read : σ → Reader σ

structure Record (σ : Type) where
  expected : String
  fields : List (Field σ)

namespace Record

/-- The complaint about a list that is too short. -/
def lengthMessage (r : Record σ) : String :=
  let n := r.fields.length
  s!"{r.expected} with {n} element" ++ (if n = 1 then "" else "s")

def readMembers (r : Record σ) (first : Bool) (seen : List String) (s : σ) :
    Nat → Reader (σ × List String)
  | 0 => failHere .endInObject
  | fuel + 1 => do
    if ← anotherMember first then
      let name ← readKey
      match r.fields.find? (·.name = name) with
      | none => failUnplaced (.unknownField name (r.fields.map (·.name)))
      | some field =>
        if seen.contains name then failUnplaced (.duplicateField name)
        else
          readColon
          let s ← field.read s
          r.readMembers false (name :: seen) s fuel
    else return (s, seen)

def readElements (r : Record σ) (first : Bool) (count : Nat) (s : σ) : List (Field σ) → Reader σ
  | [] => return s
  | field :: rest => do
    if ← anotherItem first then
      let s ← field.read s
      r.readElements false (count + 1) s rest
    else if field.required then failUnplaced (.wrongLength count r.lengthMessage)
    else r.readElements first (count + 1) s rest

/-- Reads a record over the values that absent fields keep. -/
def read (r : Record σ) (start : σ) : Reader σ := do
  let b ← startValue
  if b = 91 then
    advance
    placed (finally_ (r.readElements true 0 start r.fields) endList)
  else if b = 123 then
    advance
    let members : Reader σ := do
      -- a member is refused once all fields are there
      let (s, seen) ← r.readMembers true [] start (r.fields.length + 1)
      match r.fields.find? fun f => f.required && !seen.contains f.name with
      | some f => failUnplaced (.missingField f.name)
      | none => return s
    placed (finally_ members endObject)
  else placed (failWrongType r.expected)

end Record

end DynamicRpc.Json
