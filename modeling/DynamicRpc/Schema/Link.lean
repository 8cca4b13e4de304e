import DynamicRpc.Schema.Default
import DynamicRpc.Schema.Symbol

/-!
Linking files into a pool. First all names are collected; then each file is resolved against the
names of all files, of which it may use those of its imports and of what they pass on.
-/
namespace DynamicRpc.Schema

/-- What a file is resolved against: all known names, the files whose names it may use, and which
generation it belongs to. -/
structure Context where
  symbols : List Symbol
  visible : List String
  firstGeneration : Bool

/-! Names -/

inductive Wanted where
  | message
  | type

def Wanted.accepts : Wanted → Definition → Bool
  | _, .message _ => true
  | .type, .enum _ => true
  | _, _ => false

def Wanted.description : Wanted → String
  | .message => "a message type"
  | .type => "a message or enum type"

/-- Definitions that can have others inside their name. -/
def Definition.isNamespace : Definition → Bool
  | .package | .message _ | .enum _ | .service => true
  | _ => false

namespace Context

def symbol? (c : Context) (name : String) : Option Symbol := c.symbols.find? (·.name = name)

/-- The innermost definition of the wanted kind; one of another kind is only complained about if
there is none. -/
def resolveSimple (c : Context) (wanted : Wanted) (name : String) (other : Option String) :
    List String → Except LinkError Symbol
  | [] =>
    match other with
    | some found => .error (.wrongKind found wanted.description)
    | none => .error (.notDefined name)
  | scope :: rest =>
    match c.symbol? (qualify scope name) with
    | none => c.resolveSimple wanted name other rest
    | some s =>
      if wanted.accepts s.definition then .ok s
      else c.resolveSimple wanted name (some (other.getD s.name)) rest

/-- The innermost definition of the first part decides where the other parts are looked for. -/
def resolveDotted (c : Context) (name first tail : String) : List String → Except LinkError Symbol
  | [] => .error (.notDefined name)
  | scope :: rest =>
    let outer := qualify scope first
    if (c.symbol? outer).any (·.definition.isNamespace) then
      let full := outer ++ "." ++ tail
      match c.symbol? full with
      | some s => .ok s
      | none => .error (.shadowed name full)
    else c.resolveDotted name first tail rest

/-- Finds what a reference in a scope stands for. A leading dot makes it a full name. -/
def resolve (c : Context) (wanted : Wanted) (scope name : String) : Except LinkError Symbol := do
  let s ←
    match name.toList with
    | '.' :: full =>
      match c.symbol? (String.ofList full) with
      | some s => .ok s
      | none => .error (.notDefined name)
    | cs =>
      match cs.span (· ≠ '.') with
      | (_, []) => c.resolveSimple wanted name none (scopes scope)
      | (first, _ :: tail) =>
        c.resolveDotted name (String.ofList first) (String.ofList tail) (scopes scope)
  if !wanted.accepts s.definition then throw (.wrongKind s.name wanted.description)
  else if c.visible.contains s.file then return s
  else throw (.notDefined s.name)

end Context

/-! Fields -/

def maxFieldNumber : Int := 536870911

/-- Numbers kept for the implementation. -/
def isKeptNumber (n : Int) : Bool := 19000 ≤ n && n ≤ 19999

def checkFieldNumber (n : Int) : Except LinkError Nat :=
  if n < 1 || n > maxFieldNumber || isKeptNumber n then .error (.fieldNumber n) else .ok n.toNat

/-- The type number of a group. -/
def groupType : Nat := 10

def Context.fieldType (c : Context) (scope : String) (f : FieldDecl) :
    Except LinkError FieldType :=
  match f.typeName with
  | none => .ok (.scalar (.ofNumber f.type))
  | some name => do
    let s ← c.resolve .type scope name
    match s.definition with
    | .enum _ => return .enum s.name
    | _ => return if f.type = groupType then .group s.name else .message s.name

/-- Drops underscores and capitalises what follows them. -/
def jsonNameOf (name : String) : String :=
  String.ofList (go false name.toList)
where
  go (capital : Bool) : List Char → List Char
    | [] => []
    | c :: rest =>
      if c = '_' then go true rest
      else (if capital then c.toUpper else c) :: go false rest

def Context.checkDefault (c : Context) (type : FieldType) (f : FieldDecl) :
    Except LinkError Unit :=
  match f.default with
  | none => .ok ()
  | some text =>
    let accepted : Bool := match type with
      | .scalar s => s.acceptsDefault text
      | .enum name =>
        match c.symbol? name with
        | some ⟨_, _, .enum e⟩ => e.values.any (·.name = text)
        | _ => false
      | _ => false
    if accepted then .ok () else .error (.defaultValue text type.name)

def Context.field (c : Context) (scope : String) (number : Nat) (type : FieldType)
    (f : FieldDecl) : Field where
  name := f.name
  fullName := qualify scope f.name
  number := number
  label := f.label
  type := type
  jsonName := f.jsonName.getD (jsonNameOf f.name)
  oneof := f.oneof.map Int.toNat
  packed := f.label = .repeated && type.isPackable && f.packed.getD (!c.firstGeneration)
  presence := f.explicitPresence || f.oneof.isSome ||
    (f.label ≠ .repeated && (type.message?.isSome || c.firstGeneration))

def NumberRange.holds (r : NumberRange) (n : Int) : Bool := r.start ≤ n && n < r.stop

/-- Links the fields of a message, in order. -/
def Context.linkFields (c : Context) (m : MessageDecl) (full : String) (done : List Field) :
    List FieldDecl → Except LinkError (List Field)
  | [] => .ok done
  | f :: rest => do
    let number ← checkFieldNumber f.number
    if done.any (·.number = number) then throw (.duplicateFieldNumber f.number)
    match m.reserved.find? (·.holds f.number) with
    | some r => throw (.reservedFieldNumber f.number r)
    | none => pure ()
    match m.extensionRanges.find? (·.holds f.number) with
    | some r => throw (.extensionFieldNumber f.number r)
    | none => pure ()
    let type ← c.fieldType full f
    match f.oneof with
    | some i => if i < 0 || i ≥ m.oneofs.length then throw .oneofIndex
    | none => pure ()
    c.checkDefault type f
    let field := c.field full number type f
    if done.any (·.jsonName = field.jsonName) then throw (.duplicateJsonName field.jsonName)
    c.linkFields m full (done ++ [field]) rest

def Context.linkExtension (c : Context) (scope : String) (f : FieldDecl) :
    Except LinkError Extension := do
  let number ← checkFieldNumber f.number
  let s ← c.resolve .message scope f.extendee
  match s.definition with
  | .message m =>
    if !m.extensionRanges.any (·.holds f.number) then throw (.extensionNumber s.name f.number)
  | _ => pure ()
  let type ← c.fieldType scope f
  c.checkDefault type f
  let field := c.field scope number type f
  return ⟨{ field with presence := f.label ≠ .repeated }, s.name⟩

/-! Enums, messages and services -/

def checkEnumNumbers (e : EnumDecl) (seen : List Int) : List EnumValueDecl → Except LinkError Unit
  | [] => .ok ()
  | v :: rest =>
    if !e.allowAlias && seen.contains v.number then .error (.duplicateEnumNumber v.number)
    else
      match e.reserved.find? fun r => r.start ≤ v.number && v.number ≤ r.stop with
      | some r => .error (.reservedEnumNumber v.number r)
      | none => checkEnumNumbers e (v.number :: seen) rest

def Context.linkEnum (c : Context) (scope : String) (e : EnumDecl) : Except LinkError EnumType :=
  match e.values with
  | [] => .error .emptyEnum
  | v :: _ => do
    if !c.firstGeneration && v.number ≠ 0 then throw .enumStart
    checkEnumNumbers e [] e.values
    return ⟨e.name, qualify scope e.name, e.values⟩

/-- Fields in the order of their numbers. -/
def sortFields (fs : List Field) : List Field := fs.mergeSort fun a b => a.number ≤ b.number

mutual

def Context.linkMessage (c : Context) (scope : String) : MessageDecl → Except LinkError MessageType
  | ⟨name, fields, oneofs, nested, enums, extensions, ranges, reserved, mapEntry⟩ => do
    let full := qualify scope name
    let fields ← c.linkFields
      ⟨name, fields, oneofs, nested, enums, extensions, ranges, reserved, mapEntry⟩ full [] fields
    let nested ← c.linkMessages full nested
    let enums ← enums.mapM (c.linkEnum full)
    let extensions ← extensions.mapM (c.linkExtension full)
    return ⟨name, full, sortFields fields, oneofs, nested, enums, extensions, mapEntry⟩

def Context.linkMessages (c : Context) (scope : String) :
    List MessageDecl → Except LinkError (List MessageType)
  | [] => return []
  | m :: rest => return (← c.linkMessage scope m) :: (← c.linkMessages scope rest)

end

def Context.linkMethod (c : Context) (scope : String) (m : MethodDecl) :
    Except LinkError Method := do
  let input ← c.resolve .message scope m.input
  let output ← c.resolve .message scope m.output
  return ⟨m.name, input.name, output.name, m.clientStreaming, m.serverStreaming⟩

def Context.linkService (c : Context) (scope : String) (s : ServiceDecl) :
    Except LinkError Service := do
  let full := qualify scope s.name
  return ⟨s.name, full, ← s.methods.mapM (c.linkMethod full)⟩

/-! Files -/

/-- The imports that a file passes on to its importers. -/
def FileDecl.passedOn (f : FileDecl) : List String :=
  f.publicImports.filterMap fun i => if i < 0 then none else f.imports[i.toNat]?

/-- Adds what the files of a list pass on, until nothing is added. -/
def passOn (files : List FileDecl) (seen : List String) : Nat → List String
  | 0 => seen
  | fuel + 1 =>
    let more := (files.filter fun f => seen.contains f.path).flatMap (·.passedOn)
    let fresh := more.filter fun n => !seen.contains n
    if fresh.isEmpty then seen else passOn files (seen ++ fresh.eraseDups) fuel

/-- The files whose names a file may use. -/
def FileDecl.visible (files : List FileDecl) (f : FileDecl) : List String :=
  f.path :: passOn files f.imports.eraseDups files.length

def linkFile (files : List FileDecl) (symbols : List Symbol) (f : FileDecl) :
    Except LinkError File := do
  if f.publicImports.any fun i => i < 0 || i ≥ f.imports.length then throw .importIndex
  let c : Context := ⟨symbols, f.visible files, f.isFirstGeneration⟩
  let messages ← c.linkMessages f.package f.messages
  let enums ← f.enums.mapM (c.linkEnum f.package)
  let services ← f.services.mapM (c.linkService f.package)
  let extensions ← f.extensions.mapM (c.linkExtension f.package)
  return ⟨f, messages, enums, services, extensions⟩

/-- The names that the files of a pool define. -/
def Pool.symbols (p : Pool) : List Symbol := p.files.flatMap (·.decl.symbols)

/-- Links new files into a pool. All names are collected before any is resolved. -/
def Pool.link (p : Pool) (fresh : List FileDecl) : Except LinkError Pool := do
  let symbols ← fresh.foldlM FileDecl.define p.symbols
  let files := p.files.map (·.decl) ++ fresh
  let linked ← fresh.mapM (linkFile files symbols)
  return ⟨p.files ++ linked⟩

end DynamicRpc.Schema
