import DynamicRpc.Schema.Descriptor
import DynamicRpc.Text.Style

/-!
The text of a descriptor. Messages and enums are written behind a margin, which gets wider by two
blanks for what stands inside; the entries of map fields are not written as messages.
-/
namespace DynamicRpc.Schema

open Text

/-- A line two blanks further in. -/
def indent (l : Line) : Line := plain "  " :: l

/-- The margin of what stands inside something with this margin. -/
def innerMargin (margin : String) : String := margin ++ "  "

/-- The type of a field or extension, with the types of key and value for a map. -/
def Pool.typeText (p : Pool) (f : Field) : String :=
  match p.mapEntry? f with
  | some (key, value) => s!"map<{key.type.name}, {value.type.name}>"
  | none => f.type.name

def Pool.fieldLine (p : Pool) (f : Field) : Line :=
  let label := if p.isList f then [⟨.cyan, "repeated"⟩, plain " "] else []
  label ++ [⟨.yellow, p.typeText f⟩, plain s!" {f.name} = {f.number};"]

def opening (keyword name : String) : Line :=
  [⟨.cyan, keyword⟩, plain " ", ⟨.green, name⟩, plain " \x7b"]

def closing : Line := [plain "\x7d"]

def EnumType.lines (e : EnumType) (margin : String) : List Line :=
  (plain margin :: opening "enum" e.name) ::
    e.sorted.map (fun v =>
      plain (innerMargin margin) ::
        [plain s!"{v.name} = ", ⟨.purple, toString v.number⟩, plain ";"]) ++
    [plain margin :: closing]

mutual

def Pool.messageLines (p : Pool) (margin : String) : MessageType → List Line
  | ⟨name, _, fields, _, nested, enums, _, _⟩ =>
    (plain margin :: opening "message" name) ::
      fields.map (fun f => plain (innerMargin margin) :: p.fieldLine f) ++
      p.nestedLines (innerMargin margin) nested ++
      enums.flatMap (·.lines (innerMargin margin)) ++
      [plain margin :: closing]

/-- The nested messages that are no map entries. -/
def Pool.nestedLines (p : Pool) (margin : String) : List MessageType → List Line
  | [] => []
  | m :: rest =>
    (if m.mapEntry then [] else p.messageLines margin m) ++ p.nestedLines margin rest

end

def Method.line (m : Method) : Line :=
  let stream (on : Bool) : Line := if on then [⟨.cyan, "stream"⟩, plain " "] else []
  [⟨.cyan, "rpc"⟩, plain " ", ⟨.green, m.name⟩, plain "("] ++ stream m.clientStreaming ++
    [⟨.yellow, m.input⟩, plain ") ", ⟨.cyan, "returns"⟩, plain " ("] ++ stream m.serverStreaming ++
    [⟨.yellow, m.output⟩, plain ");"]

def Service.lines (s : Service) : List Line :=
  opening "service" s.name :: s.methods.map (fun m => indent m.line) ++ [closing]

/-- The line of an extension names its type but not whether it is a list. -/
def Extension.lines (x : Extension) : List Line :=
  [opening "extend" x.extendee,
    indent [⟨.yellow, x.field.type.name⟩, plain s!" {x.field.name} = {x.field.number};"],
    closing]

def Pool.lines (p : Pool) : Descriptor → List Line
  | .message m => p.messageLines "" m
  | .service s => s.lines
  | .enum e => e.lines ""
  | .extension x => x.lines

def Pool.describe (p : Pool) (colour : Bool) (d : Descriptor) : String :=
  renderLines colour (p.lines d)

end DynamicRpc.Schema
