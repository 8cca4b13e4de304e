import DynamicRpc.Schema.Declaration

/-!
The names that files define. Packages may be shared between files; every other full name is defined
once among all linked files.
-/
namespace DynamicRpc.Schema

inductive Definition where
  | package
  | message (m : MessageDecl)
  | oneof
  | field
  | enum (e : EnumDecl)
  | enumValue
  | service
  | method
  | extension
  deriving Repr, Inhabited

structure Symbol where
  name : String
  file : String
  definition : Definition
  deriving Repr, Inhabited

inductive LinkError where
  | unknownSyntax (name : String)
  | importIndex
  | definedTwice (name : String)
  | definedElsewhere (name file : String)
  | camelCase (first second : String)
  | notDefined (name : String)
  | shadowed (name found : String)
  | wrongKind (name expected : String)
  | fieldNumber (n : Int)
  | duplicateFieldNumber (n : Int)
  | reservedFieldNumber (n : Int) (range : NumberRange)
  | extensionFieldNumber (n : Int) (range : NumberRange)
  | duplicateJsonName (name : String)
  | oneofIndex
  | defaultValue (value type : String)
  | emptyEnum
  | enumStart
  | duplicateEnumNumber (n : Int)
  | reservedEnumNumber (n : Int) (range : NumberRange)
  | extensionNumber (message : String) (n : Int)
  deriving DecidableEq, Repr

def LinkError.message : LinkError → String
  | .unknownSyntax name => s!"unknown syntax '{name}'"
  | .importIndex => "invalid import index"
  | .definedTwice name => s!"name '{name}' is defined twice"
  | .definedElsewhere name file => s!"name '{name}' is already defined in file '{file}'"
  | .camelCase a b => s!"camel-case name of field '{a}' conflicts with field '{b}'"
  | .notDefined name => s!"name '{name}' is not defined"
  | .shadowed name found => s!"'{name}' resolves to '{found}', which is not defined"
  | .wrongKind name expected => s!"'{name}' is not {expected}"
  | .fieldNumber n => s!"invalid field number '{n}'"
  | .duplicateFieldNumber n => s!"field number '{n}' has already been used"
  | .reservedFieldNumber n r =>
    s!"field number '{n}' conflicts with reserved range '{r.start} to {r.stop - 1}'"
  | .extensionFieldNumber n r =>
    s!"field number '{n}' conflicts with extension range '{r.start} to {r.stop - 1}'"
  | .duplicateJsonName name => s!"a field with JSON name '{name}' is already defined"
  | .oneofIndex => "invalid oneof index"
  | .defaultValue value type => s!"invalid default value '{value}' for type '{type}'"
  | .emptyEnum => "enums must have at least one value"
  | .enumStart => "the first value for proto3 enums must be 0"
  | .duplicateEnumNumber n => s!"enum number '{n}' has already been used"
  | .reservedEnumNumber n r =>
    s!"enum number '{n}' conflicts with reserved range '{r.start} to {r.stop}'"
  | .extensionNumber message n =>
    s!"message '{message}' does not define '{n}' as an extension number"

/-- The names of an enum; its values stand beside it. -/
def EnumDecl.symbols (file scope : String) (e : EnumDecl) : List Symbol :=
  ⟨qualify scope e.name, file, .enum e⟩ ::
    e.values.map fun v => ⟨qualify scope v.name, file, .enumValue⟩

def extensionSymbols (file scope : String) (extensions : List FieldDecl) : List Symbol :=
  extensions.map fun x => ⟨qualify scope x.name, file, .extension⟩

mutual

def MessageDecl.symbols (file scope : String) : MessageDecl → List Symbol
  | ⟨name, fields, oneofs, nested, enums, extensions, ranges, reserved, mapEntry⟩ =>
    let full := qualify scope name
    ⟨full, file, .message
        ⟨name, fields, oneofs, nested, enums, extensions, ranges, reserved, mapEntry⟩⟩ ::
      oneofs.map (fun o => ⟨qualify full o, file, .oneof⟩) ++
      fields.map (fun f => ⟨qualify full f.name, file, .field⟩) ++
      symbolsOf file full nested ++
      enums.flatMap (·.symbols file full) ++
      extensionSymbols file full extensions

def symbolsOf (file scope : String) : List MessageDecl → List Symbol
  | [] => []
  | m :: rest => m.symbols file scope ++ symbolsOf file scope rest

end

def ServiceDecl.symbols (file scope : String) (s : ServiceDecl) : List Symbol :=
  let full := qualify scope s.name
  ⟨full, file, .service⟩ :: s.methods.map fun m => ⟨qualify full m.name, file, .method⟩

def FileDecl.symbols (f : FileDecl) : List Symbol :=
  (packageNames f.package).map (⟨·, f.path, .package⟩) ++
    symbolsOf f.path f.package f.messages ++
    f.enums.flatMap (·.symbols f.path f.package) ++
    f.services.flatMap (·.symbols f.path f.package) ++
    extensionSymbols f.path f.package f.extensions

/-- Names in lower case without underscores, by which fields of a message may not agree. -/
def camelKey (name : String) : String :=
  String.ofList ((name.toList.filter (· ≠ '_')).map Char.toLower)

def checkCamelCase (seen : List String) : List FieldDecl → Except LinkError Unit
  | [] => .ok ()
  | f :: rest =>
    match seen.find? fun n => camelKey n = camelKey f.name with
    | some n => .error (.camelCase n f.name)
    | none => checkCamelCase (seen ++ [f.name]) rest

/-- Adds a name to those known. -/
def define (known : List Symbol) (s : Symbol) : Except LinkError (List Symbol) :=
  match known.find? (·.name = s.name) with
  | none => .ok (s :: known)
  | some old =>
    match old.definition, s.definition with
    | .package, .package => .ok known
    | _, _ =>
      if old.file = s.file then .error (.definedTwice s.name)
      else .error (.definedElsewhere s.name old.file)

/-- Adds the names of a file, and checks the fields of its messages. -/
def FileDecl.define (known : List Symbol) (f : FileDecl) : Except LinkError (List Symbol) :=
  if !f.isFirstGeneration && f.syntaxName ≠ "proto3" then .error (.unknownSyntax f.syntaxName)
  else
    f.symbols.foldlM (fun known s => do
      let known ← Schema.define known s
      match s.definition with
      | .message m => if !f.isFirstGeneration then checkCamelCase [] m.fields
      | _ => pure ()
      return known) known

end DynamicRpc.Schema
