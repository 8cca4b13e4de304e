import DynamicRpc.Json.Printer

/-!
JSON to be laid out on lines: members keep their order, and numbers of single precision their own
digits. Each level is indented by two blanks.
-/
namespace DynamicRpc.Json

inductive Tree where
  | null
  | boolean (b : Bool)
  | integer (n : Int)
  | double (x : Number.Binary)
  | single (x : Number.Binary)
  | text (s : String)
  | list (items : List Tree)
  | object (members : List (String × Tree))
  deriving Repr, Inhabited

/-- The text of a finite number; others have none in JSON. -/
def numberText (f : Number.Format) (text : Number.Binary → String) (x : Number.Binary) : String :=
  if f.isFinite x then text x else "null"

def blanks (count : Nat) : String := String.ofList (List.replicate count ' ')

/-- Puts items between brackets, each on a line of its own. -/
def bracketed (indent : Nat) (opening closing : String) (items : List String) : String :=
  if items.isEmpty then opening ++ closing
  else
    let lines := items.map fun item => blanks (indent + 2) ++ item
    opening ++ "\n" ++ String.intercalate ",\n" lines ++ "\n" ++ blanks indent ++ closing

mutual

def Tree.layout (indent : Nat) : Tree → String
  | .null => "null"
  | .boolean true => "true"
  | .boolean false => "false"
  | .integer n => toString n
  | .double x => numberText Number.double Number.doubleText x
  | .single x => numberText Number.single Number.singleText x
  | .text s => quoted s
  | .list items => bracketed indent "[" "]" (layoutItems (indent + 2) items)
  | .object members => bracketed indent "\x7b" "\x7d" (layoutMembers (indent + 2) members)

def layoutItems (indent : Nat) : List Tree → List String
  | [] => []
  | t :: rest => t.layout indent :: layoutItems indent rest

def layoutMembers (indent : Nat) : List (String × Tree) → List String
  | [] => []
  | (name, t) :: rest =>
    (quoted name ++ ": " ++ t.layout indent) :: layoutMembers indent rest

end

end DynamicRpc.Json
