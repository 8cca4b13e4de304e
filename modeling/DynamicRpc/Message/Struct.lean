import DynamicRpc.Json.Tree
import DynamicRpc.Wire.Basic

/-!
Values of no fixed type, as messages carry them: the same shapes as JSON, with doubles for all
numbers. A value without a kind counts as null.
-/
namespace DynamicRpc.Message

open Wire

inductive Loose where
  | null
  | number (x : Number.Binary)
  | text (s : String)
  | boolean (b : Bool)
  | struct (members : List (String × Loose))
  | list (items : List Loose)
  deriving Repr, Inhabited

namespace Loose

def ofNumber : Json.Number → Loose
  | .natural n => .number (Number.double.ofInt n)
  | .negative n => .number (Number.double.ofInt (-n))
  | .real x => .number x

mutual

def ofJson : Json.Value → Loose
  | .null => .null
  | .boolean b => .boolean b
  | .number n => ofNumber n
  | .text s => .text s
  | .list items => .list (ofItems items)
  | .object members => .struct (ofMembers members)

def ofItems : List Json.Value → List Loose
  | [] => []
  | v :: rest => ofJson v :: ofItems rest

def ofMembers : List (String × Json.Value) → List (String × Loose)
  | [] => []
  | (name, v) :: rest => (name, ofJson v) :: ofMembers rest

end

/-! Writing -/

def writeNested (number : Nat) (b : Bytes) : Bytes :=
  writeKey number .delimited ++ writeDelimited b

mutual

/-- The fields of a value; the kind is written also where it is worth nothing. -/
def encode : Loose → Bytes
  | .null => writeKey 1 .varint ++ [0]
  | .number x => writeKey 2 .fixed64 ++ writeLittleEndian (Number.double.toBits x) 8
  | .text s => writeNested 3 (Text.toBytes s)
  | .boolean b => writeKey 4 .varint ++ [if b then 1 else 0]
  | .struct members => writeNested 5 (encodeMembers members)
  | .list items => writeNested 6 (encodeItems items)

def encodeMembers : List (String × Loose) → Bytes
  | [] => []
  | (name, v) :: rest =>
    writeNested 1 (writeTextField 1 name ++ writeNested 2 (encode v)) ++ encodeMembers rest

def encodeItems : List Loose → Bytes
  | [] => []
  | v :: rest => writeNested 1 (encode v) ++ encodeItems rest

end

/-! Reading -/

/-- Puts a member in the order of the names; a later value of a name replaces an earlier one. -/
def insert (name : String) (v : Loose) : List (String × Loose) → List (String × Loose)
  | [] => [(name, v)]
  | m :: rest =>
    if m.1 = name then (name, v) :: rest
    else if name < m.1 then (name, v) :: m :: rest
    else m :: insert name v rest

/-- Which of the messages that make up a value is being read. -/
inductive Part where
  | value
  | struct
  | entry
  | list

/-- Reads a field into a part. The members of a struct are read as entries of their own, each with
its name and value as the only member. -/
def mergePart : Nat → Part → Nat → WireType → Loose → Bytes → Result (Loose × Bytes)
  | depth, part, key, w, v, b =>
    let nested (inner : Part) (start : Loose) : Result (Loose × Bytes) := do
      expect w .delimited b
      match depth with
      | 0 => fail .tooDeep b
      | depth + 1 =>
        withinLength (fun limit b =>
          mergeFields (fun _ key w v b => mergePart depth inner key w v b) depth limit
            b.length start b) b
    let unknown : Result (Loose × Bytes) := do return (v, ← skipField depth key w b)
    match part with
    | .value =>
      if key = 0 || key > 6 then unknown
      else inField "Value.kind" do
        match key with
        | 1 =>
          expect w .varint b
          let (_, rest) ← readVarint b
          return (.null, rest)
        | 2 =>
          expect w .fixed64 b
          let (raw, rest) ← takeBytes 8 b
          return (.number (Number.double.ofBits (littleEndian raw)), rest)
        | 3 =>
          let (s, rest) ← readText w b
          return (.text s, rest)
        | 4 =>
          expect w .varint b
          let (n, rest) ← readVarint b
          return (.boolean (n ≠ 0), rest)
        | 5 => nested .struct (match v with
          | .struct members => .struct members
          | _ => .struct [])
        | _ => nested .list (match v with
          | .list items => .list items
          | _ => .list [])
    | .struct =>
      if key = 1 then inField "Struct.fields" do
        let (entry, rest) ← nested .entry (.struct [("", .null)])
        match v, entry with
        | .struct members, .struct [(name, value)] =>
          return (.struct (insert name value members), rest)
        | _, _ => return (v, rest)
      else unknown
    | .entry =>
      match key, v with
      | 1, .struct [(_, value)] => do
        let (name, rest) ← readText w b
        return (.struct [(name, value)], rest)
      | 2, .struct [(name, value)] => do
        let (value, rest) ← nested .value value
        return (.struct [(name, value)], rest)
      | _, _ => unknown
    | .list =>
      match key, v with
      | 1, .list items => inField "ListValue.values" do
        let (item, rest) ← nested .value .null
        return (.list (items ++ [item]), rest)
      | _, _ => unknown

def decodePart (part : Part) (start : Loose) (b : Bytes) : Result Loose :=
  decodeMessage (fun depth key w v b => mergePart depth part key w v b) start b

/-! As JSON -/

mutual

/-- A number that is not finite has no JSON. -/
def toTree? : Loose → Option Json.Tree
  | .null => some .null
  | .number x => if Number.double.isFinite x then some (.double x) else none
  | .text s => some (.text s)
  | .boolean b => some (.boolean b)
  | .struct members => (memberTrees? members).map .object
  | .list items => (itemTrees? items).map .list

def itemTrees? : List Loose → Option (List Json.Tree)
  | [] => some []
  | v :: rest => do return (← v.toTree?) :: (← itemTrees? rest)

def memberTrees? : List (String × Loose) → Option (List (String × Json.Tree))
  | [] => some []
  | (name, v) :: rest => do return (name, ← v.toTree?) :: (← memberTrees? rest)

end

end Loose

end DynamicRpc.Message
