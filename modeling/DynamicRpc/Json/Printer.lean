import DynamicRpc.Json.Value
import DynamicRpc.Number.Shortest

/-!
The compact text of a JSON value: no blanks, control characters and quotes escaped, all other
characters as they are.
-/
namespace DynamicRpc.Json

def hexDigits4 (n : Nat) : List Char :=
  let d := Nat.toDigits 16 n
  List.replicate (4 - d.length) '0' ++ d

def escapeChar (c : Char) : List Char :=
  if c = '"' then ['\\', '"']
  else if c = '\\' then ['\\', '\\']
  else if c = '\n' then ['\\', 'n']
  else if c = '\r' then ['\\', 'r']
  else if c = '\t' then ['\\', 't']
  else if c = '\x08' then ['\\', 'b']
  else if c = '\x0c' then ['\\', 'f']
  else if c.toNat < 0x20 then '\\' :: 'u' :: hexDigits4 c.toNat
  else [c]

def quoted (s : String) : String :=
  String.ofList ('"' :: s.toList.flatMap escapeChar ++ ['"'])

def Number.text : Number → String
  | .natural n => toString n
  | .negative n => "-" ++ toString n
  | .real x => Number.doubleText x

mutual

def Value.print : Value → String
  | .null => "null"
  | .boolean true => "true"
  | .boolean false => "false"
  | .number n => n.text
  | .text s => quoted s
  | .list items => "[" ++ String.intercalate "," (printItems items) ++ "]"
  | .object members => "\x7b" ++ String.intercalate "," (printMembers members) ++ "\x7d"

def printItems : List Value → List String
  | [] => []
  | v :: rest => v.print :: printItems rest

def printMembers : List (String × Value) → List String
  | [] => []
  | (name, v) :: rest => (quoted name ++ ":" ++ v.print) :: printMembers rest

end

end DynamicRpc.Json
