import DynamicRpc.Schema.Descriptor
import DynamicRpc.Schema.Link

/-!
What is known of the schema of a server: linked files, and their extensions by number. Files are
inserted in batches: every import must be cached or in the batch, and the imports among the new
files may not form a cycle. A batch is linked as a whole or not at all.
-/
namespace DynamicRpc.Reflection

open Schema

/-- Extensions by the message that they extend and their number, no two of one key. -/
abbrev ExtensionIndex := List ((String × Nat) × Extension)

namespace ExtensionIndex

/-- Puts an extension in the place of another with its key. -/
def put (x : ExtensionIndex) (e : Extension) : ExtensionIndex :=
  let key := (e.extendee, e.field.number)
  (key, e) :: x.filter (·.1 ≠ key)

def ofPool (p : Pool) : ExtensionIndex := p.extensions.foldl put []

def lookup? (x : ExtensionIndex) (message : String) (number : Nat) : Option Extension :=
  (x.find? (·.1 = (message, number))).map (·.2)

end ExtensionIndex

structure Cache where
  pool : Pool
  extensions : ExtensionIndex
  deriving Repr, Inhabited

/-- An order in which the new files of a batch are linked. They come out of a table of names, and
nothing says in which order they do. -/
structure LinkOrder where
  arrange : List FileDecl → List FileDecl
  perm : ∀ files, (arrange files).Perm files

/-- The order of the batch. -/
def LinkOrder.asGiven : LinkOrder := ⟨id, .refl⟩

inductive InsertError where
  | missingImport (file dependency : String)
  | importCycle (file : String)
  | unnamedFile
  | link (e : LinkError)
  deriving DecidableEq, Repr

def InsertError.message : InsertError → String
  | .missingImport file dependency =>
    s!"file '{file}' imports '{dependency}', which is neither cached nor part of the same batch"
  | .importCycle file => s!"import cycle detected through file '{file}'"
  | .unnamedFile => "received a file descriptor without a name"
  | .link e => s!"failed to link file descriptors: {e.message}"

/-! Cycles -/

/-- The files that wait for imports among the new files, with how many they wait for, and those
that wait for none. -/
structure Sweep where
  pending : List (String × Nat)
  ready : List String
  deriving DecidableEq, Repr

namespace Sweep

def start (batch : List FileDecl) : Sweep :=
  let names := batch.map (·.path)
  let pending := batch.map fun f => (f.path, (f.imports.filter names.contains).length)
  ⟨pending, (pending.filter (·.2 = 0)).map (·.1)⟩

def lower (path : String) (pending : List (String × Nat)) : List (String × Nat) :=
  pending.map fun p => if p.1 = path then (p.1, p.2 - 1) else p

/-- A file that imports a finished one waits for one file less. -/
def release (finished : String) (s : Sweep) (f : FileDecl) : Sweep :=
  if f.imports.contains finished then
    match s.pending.find? (·.1 = f.path) with
    | none => s
    | some (_, count) =>
      ⟨lower f.path s.pending, if count ≤ 1 then f.path :: s.ready else s.ready⟩
  else s

/-- Finishes ready files until there is none. -/
def run (batch : List FileDecl) : Nat → Sweep → Sweep
  | 0, s => s
  | fuel + 1, s =>
    match s.ready with
    | [] => s
    | finished :: ready =>
      run batch fuel (batch.foldl (release finished)
        ⟨s.pending.filter (·.1 ≠ finished), ready⟩)

end Sweep

/-- The least of some names. -/
def leastName? : List String → Option String
  | [] => none
  | n :: rest => some (rest.foldl (fun a b => if b < a then b else a) n)

/-- The least name of a file that never gets ready. -/
def cycle? (batch : List FileDecl) : Option String :=
  leastName? ((Sweep.run batch batch.length (.start batch)).pending.map (·.1))

/-! The cache -/

namespace Cache

def empty : Cache := ⟨.empty, []⟩

def contains (c : Cache) (path : String) : Bool := c.pool.contains path

def paths (c : Cache) : List String := c.pool.files.map (·.path)

def find? (c : Cache) (name : String) : Option Descriptor := c.pool.find? name

def extension? (c : Cache) (message : String) (number : Nat) : Option Extension :=
  c.extensions.lookup? message number

/-- Imports of the new files of a batch that are neither cached nor in the batch, each with the
file that needs it. -/
def missing (c : Cache) (batch : List FileDecl) : List (String × String) :=
  let provided := batch.map (·.path)
  (batch.filter fun f => !c.contains f.path).flatMap fun f =>
    (f.imports.filter fun d => !provided.contains d && !c.contains d).map fun d => (f.path, d)

/-- The first file of each name that is not cached. -/
def firsts (c : Cache) (batch : List FileDecl) : List FileDecl :=
  batch.foldl (fun kept f =>
    if c.contains f.path || kept.any (·.path = f.path) then kept else kept ++ [f]) []

/-- The new files of a batch, as they are linked. -/
def fresh (c : Cache) (o : LinkOrder) (batch : List FileDecl) : List FileDecl :=
  o.arrange (c.firsts batch)

/-- Links a batch into the cache, and says how many files were new. -/
def insert (c : Cache) (o : LinkOrder) (batch : List FileDecl) : Except InsertError Nat × Cache :=
  if batch.any (·.name.isNone) then (.error .unnamedFile, c)
  else
    let fresh := c.fresh o batch
    if fresh.isEmpty then (.ok 0, c)
    else
      match c.missing fresh with
      | (file, dependency) :: _ => (.error (.missingImport file dependency), c)
      | [] =>
        match cycle? fresh with
        | some file => (.error (.importCycle file), c)
        | none =>
          match c.pool.link fresh with
          | .error e => (.error (.link e), c)
          | .ok pool =>
            let c := { c with extensions := .ofPool pool }
            (.ok fresh.length, { c with pool })

end Cache

end DynamicRpc.Reflection
