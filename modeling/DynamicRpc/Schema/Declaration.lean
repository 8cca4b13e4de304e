import DynamicRpc.Text.Utf8

/-!
Declarations of a schema as a server sends them: files with messages, enums, services and
extensions. References to types are still text.
-/
namespace DynamicRpc.Schema

inductive Label where
  | optional
  | required
  | repeated
  deriving DecidableEq, Repr, Inhabited

structure FieldDecl where
  name : String
  number : Int
  label : Label
  /-- The number of the declared type. -/
  type : Nat
  typeName : Option String
  extendee : String
  default : Option String
  oneof : Option Int
  jsonName : Option String
  packed : Option Bool
  explicitPresence : Bool
  deriving DecidableEq, Repr, Inhabited

structure EnumValueDecl where
  name : String
  number : Int
  deriving DecidableEq, Repr, Inhabited

/-- A range of numbers; whether its end belongs to it depends on where it stands. -/
structure NumberRange where
  start : Int
  stop : Int
  deriving DecidableEq, Repr, Inhabited

structure EnumDecl where
  name : String
  values : List EnumValueDecl
  reserved : List NumberRange
  allowAlias : Bool
  deriving DecidableEq, Repr, Inhabited

structure MessageDecl where
  name : String
  fields : List FieldDecl
  oneofs : List String
  nested : List MessageDecl
  enums : List EnumDecl
  extensions : List FieldDecl
  extensionRanges : List NumberRange
  reserved : List NumberRange
  mapEntry : Bool
  deriving Repr, Inhabited

structure MethodDecl where
  name : String
  input : String
  output : String
  clientStreaming : Bool
  serverStreaming : Bool
  deriving DecidableEq, Repr, Inhabited

structure ServiceDecl where
  name : String
  methods : List MethodDecl
  deriving DecidableEq, Repr, Inhabited

structure FileDecl where
  name : Option String
  package : String
  imports : List String
  /-- Places of imports that are passed on to importers. -/
  publicImports : List Int
  messages : List MessageDecl
  enums : List EnumDecl
  services : List ServiceDecl
  extensions : List FieldDecl
  syntaxName : String
  deriving Repr, Inhabited

/-- The name under which a file is imported; a file without one goes by the empty name. -/
def FileDecl.path (f : FileDecl) : String := f.name.getD ""

/-- Whether fields track their presence unless told otherwise, and enums may start anywhere. -/
def FileDecl.isFirstGeneration (f : FileDecl) : Bool :=
  f.syntaxName.isEmpty || f.syntaxName = "proto2"

/-- A name inside a scope; the outermost scope is empty. -/
def qualify (scope name : String) : String := if scope.isEmpty then name else scope ++ "." ++ name

/-- The parts of a dotted name up to each dot, and the whole name. -/
def dottedStarts (before : List Char) : List Char → List (List Char)
  | [] => [before]
  | c :: rest =>
    if c = '.' then before :: dottedStarts (before ++ [c]) rest
    else dottedStarts (before ++ [c]) rest

/-- The packages that a dotted name passes through, the outermost first. -/
def packageNames (package : String) : List String :=
  if package.isEmpty then [] else (dottedStarts [] package.toList).map String.ofList

/-- The scopes around a name, the innermost first; the last is empty. -/
def scopes (scope : String) : List String := (packageNames scope).reverse ++ [""]

example : scopes "a.b" = ["a.b", "a", ""] := by decide

end DynamicRpc.Schema
