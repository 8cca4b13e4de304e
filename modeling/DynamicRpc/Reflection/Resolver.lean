import DynamicRpc.Reflection.Cache
import DynamicRpc.Reflection.Transport
import DynamicRpc.Schema.Decode

/-!
Finds what a name stands for. What the cache does not know is asked of the service: first the file
that holds it, then every import that neither the cache nor the service's answers bring along. A
batch enters the cache once it is closed under imports. Files that were fetched for a batch that
failed are remembered for later ones, and so are imports that the service does not have.
-/
namespace DynamicRpc.Reflection

open Schema

/-- Why descriptors that a service sent cannot be used. -/
inductive DescriptorFault where
  | undecodable (e : Wire.DecodeError)
  | unavailable (file dependency : String) (remote : Option Rpc.Status)
  | refused (e : InsertError)
  deriving Repr

inductive ResolveError where
  | unknownSymbol (symbol : String) (remote : Option Rpc.Status)
  | unknownExtension (message : String) (number : Nat) (remote : Option Rpc.Status)
  | wrongKind (name expected actual : String)
  | malformed (target : String) (fault : DescriptorFault)
  | remote (status : Rpc.Status)
  | transport (e : QueryError)
  deriving Repr

def DescriptorFault.message : DescriptorFault → String
  | undecodable e => s!"failed to decode FileDescriptorProto: {e.message}"
  | unavailable file dependency _ =>
    s!"import '{dependency}' of '{file}' is not available from the server"
  | refused e => e.message

def ResolveError.message : ResolveError → String
  | unknownSymbol symbol _ => s!"Symbol '{symbol}' not found: the server does not expose it"
  | unknownExtension message number _ =>
    s!"Extension {number} of message '{message}' not found: the server does not expose it"
  | wrongKind name expected actual => s!"'{name}' is a {actual}, not a {expected}"
  | malformed target fault =>
    s!"The server sent malformed descriptors while resolving '{target}': {fault.message}"
  | remote status => s!"Reflection request failed: {status.remoteText}"
  | transport e => s!"Reflection transport failed: '{e.message}'"

structure Resolver where
  transport : Transport
  cache : Cache
  /-- Imports that were fetched by name and are not cached, no two of one name. -/
  fetched : List FileDecl
  /-- Imports that the service does not have, with what it said. -/
  unavailable : List (String × Rpc.Status)
  deriving Repr

namespace Resolver

def ofChoice (choice : Option Dialect) : Resolver := ⟨.ofChoice choice, .empty, [], []⟩

/-- Drops the stream, and all that is remembered beside the cache. -/
def reset (r : Resolver) : Resolver :=
  { r with transport := r.transport.reset, fetched := [], unavailable := [] }

def close (r : Resolver) : Resolver := { r with transport := r.transport.close }

/-- Asks a query. Refusals and statuses of the stream are one kind of error. -/
def ask (c : Connector) (r : Resolver) (q : Query) : Ended Resolver ResolveError Reply :=
  match r.transport.send c q with
  | (.done (.refused s), t) => (.failed (.remote s), { r with transport := t })
  | (.done reply, t) => (.done reply, { r with transport := t })
  | (.failed (.status s), t) => (.failed (.remote s), { r with transport := t })
  | (.failed e, t) => (.failed (.transport e), { r with transport := t })
  | (.dropped, t) => (.dropped, { r with transport := t })

/-- Asks for files. -/
def fetch (c : Connector) (r : Resolver) (q : Query) : Ended Resolver ResolveError (List Bytes) :=
  (r.ask c q).andThen fun reply r =>
    match reply with
    | .files files => (.done files, r)
    | other => (.failed (.transport (.unexpected other.kind)), r)

def decodeFiles (files : List Bytes) : Except Wire.DecodeError (List FileDecl) :=
  files.mapM FileDecl.decode

def remember (r : Resolver) (f : FileDecl) : Resolver :=
  { r with fetched := f :: r.fetched.filter (·.path ≠ f.path) }

def fetched? (r : Resolver) (path : String) : Option FileDecl := r.fetched.find? (·.path = path)

def unavailable? (r : Resolver) (path : String) : Option Rpc.Status :=
  (r.unavailable.find? (·.1 = path)).map (·.2)

/-- Asks for an import, and gives all files of the answer. The import has to be among them. -/
def fetchImport (c : Connector) (target file dependency : String) (r : Resolver) :
    Ended Resolver ResolveError (List FileDecl) :=
  let malformed (fault : DescriptorFault) := Outcome.failed (.malformed target fault)
  match r.fetch c (.file dependency) with
  | (.done encoded, r) =>
    match decodeFiles encoded with
    | .error e => (malformed (.undecodable e), r)
    | .ok files =>
      let r := files.foldl remember r
      if files.any (·.path = dependency) then (.done files, r)
      else (malformed (.unavailable file dependency none), r)
  | (.failed (.remote s), r) =>
    if s.code = .notFound then
      (malformed (.unavailable file dependency (some s)),
        { r with unavailable := (dependency, s) :: r.unavailable })
    else (.failed (.remote s), r)
  | (.failed e, r) => (.failed e, r)
  | (.dropped, r) => (.dropped, r)

/-! Closing a batch -/

theorem countP_lt {p q : α → Bool} {xs : List α} {a : α} (h : ∀ x, p x → q x) (mem : a ∈ xs)
    (new : q a) (old : p a = false) : xs.countP p < xs.countP q := by
  induction xs with
  | nil => simp at mem
  | cons x rest ih =>
    have le : rest.countP p ≤ rest.countP q := List.countP_mono_left fun x _ => h x
    rcases List.mem_cons.1 mem with rfl | mem
    · simp only [List.countP_cons, new, old]
      simp only [Bool.false_eq_true, if_false, if_true]
      omega
    · have lt := ih mem
      rw [List.countP_cons, List.countP_cons]
      split
      next px => rw [if_pos (h x px)]; omega
      next => split <;> omega

/-- How many remembered files a batch does not hold. -/
def unused (r : Resolver) (batch : List FileDecl) : Nat :=
  r.fetched.countP fun f => !(batch.map (·.path)).contains f.path

/-- A remembered file that a batch misses counts no longer once it is added. -/
theorem unused_append_lt {r : Resolver} {batch : List FileDecl} {f : FileDecl} {file : String}
    {path : String} (missing : (r.cache.missing batch).head? = some (file, path))
    (found : r.fetched? path = some f) : r.unused (batch ++ [f]) < r.unused batch := by
  have name : f.path = path := by simpa using List.find?_some found
  have absent : f.path ∉ batch.map (·.path) := by
    have := List.mem_of_head? missing
    simp only [Cache.missing, List.mem_flatMap, List.mem_map, List.mem_filter] at this
    obtain ⟨_, _, _, ⟨_, h⟩, h'⟩ := this
    simp only [Prod.mk.injEq] at h'
    rw [name, ← h'.2]
    intro h''
    simp [h''] at h
  refine countP_lt (fun x => ?_) (List.mem_of_find?_eq_some found) (by simpa using absent) (by simp)
  simp only [List.map_append, Bool.not_eq_true', List.contains_eq_mem, decide_eq_false_iff_not,
    List.mem_append, not_or]
  exact And.left

/-- Adds imports to a batch until none is missing: remembered files first, others as the service
sends them. The caller waits for as many answers as its patience allows, and gives up with the next
question. -/
def complete (c : Connector) (target : String) (patience : Nat) (r : Resolver)
    (batch : List FileDecl) : Ended Resolver ResolveError (List FileDecl) :=
  match _missing : (r.cache.missing batch).head? with
  | none => (.done batch, r)
  | some (file, dependency) =>
    match _found : r.fetched? dependency with
    | some f => complete c target patience r (batch ++ [f])
    | none =>
      match r.unavailable? dependency with
      | some s => (.failed (.malformed target (.unavailable file dependency (some s))), r)
      | none =>
        match patience with
        | 0 => (.dropped, { r with transport := r.transport.reset })
        | patience + 1 =>
          match r.fetchImport c target file dependency with
          | (.done files, r) => complete c target patience r (batch ++ files)
          | (.failed e, r) => (.failed e, r)
          | (.dropped, r) => (.dropped, r)
termination_by (patience, r.unused batch)
decreasing_by
  · exact Prod.Lex.right _ (unused_append_lt _missing _found)
  · exact Prod.Lex.left _ _ (Nat.lt_succ_self _)

/-- Puts a closed batch into the cache. What is cached need not be remembered. -/
def insert (c : Connector) (target : String) (batch : List FileDecl) (r : Resolver) :
    Ended Resolver ResolveError Unit :=
  match r.cache.insert (c.linking r.transport.history) batch with
  | (.error e, cache) => (.failed (.malformed target (.refused e)), { r with cache })
  | (.ok _, cache) =>
    (.done (), { r with cache, fetched := r.fetched.filter fun f => !cache.contains f.path })

/-- Completes and caches what a service sent. -/
def register (c : Connector) (target : String) (patience : Nat) (r : Resolver)
    (files : List Bytes) : Ended Resolver ResolveError Unit :=
  match decodeFiles files with
  | .error e => (.failed (.malformed target (.undecodable e)), r)
  | .ok batch => (r.complete c target patience batch).andThen fun batch r => r.insert c target batch

/-! Lookups -/

/-- Answers from the cache, or else asks and answers then. -/
def lookup (c : Connector) (patience : Nat) (r : Resolver) (answer? : Cache → Option α)
    (query : Query) (target : String) (unknown : Option Rpc.Status → ResolveError) :
    Ended Resolver ResolveError α :=
  match answer? r.cache with
  | some a => (.done a, r)
  | none =>
    match r.fetch c query with
    | (.done files, r) =>
      (r.register c target patience files).andThen fun () r =>
        match answer? r.cache with
        | some a => (.done a, r)
        | none => (.failed (unknown none), r)
    | (.failed (.remote s), r) =>
      (.failed (if s.code = .notFound then unknown (some s) else .remote s), r)
    | (.failed e, r) => (.failed e, r)
    | (.dropped, r) => (.dropped, r)

def find (c : Connector) (patience : Nat) (r : Resolver) (name : String) :
    Ended Resolver ResolveError Descriptor :=
  r.lookup c patience (·.find? name) (.symbol name) name (.unknownSymbol name)

def findMessage (c : Connector) (patience : Nat) (r : Resolver) (name : String) :
    Ended Resolver ResolveError MessageType :=
  (r.find c patience name).andThen fun d r =>
    match d with
    | .message m => (.done m, r)
    | other => (.failed (.wrongKind name "message" other.kind), r)

/-- Finds the message that a type URL names: what stands after its last slash. -/
def findMessageByUrl (c : Connector) (patience : Nat) (r : Resolver) (url : String) :
    Ended Resolver ResolveError MessageType :=
  r.findMessage c patience (((Text.splitLast? '/' url).map (·.2)).getD url)

/-- Finds an extension by its number. A number that no query can hold is unknown. -/
def findExtension (c : Connector) (patience : Nat) (r : Resolver) (message : String)
    (number : Nat) : Ended Resolver ResolveError Extension :=
  if number < 0x80000000 then
    r.lookup c patience (·.extension? message number) (.extension message number)
      s!"{message}({number})" (.unknownExtension message number)
  else
    match r.cache.extension? message number with
    | some x => (.done x, r)
    | none => (.failed (.unknownExtension message number none), r)

def services (c : Connector) (r : Resolver) : Ended Resolver ResolveError (List String) :=
  (r.ask c .services).andThen fun reply r =>
    match reply with
    | .services names => (.done names, r)
    | other => (.failed (.transport (.unexpected other.kind)), r)

end Resolver

end DynamicRpc.Reflection
