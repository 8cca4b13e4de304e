import DynamicRpc.Proofs.Reflection.Insertion
import DynamicRpc.Reflection.Resolver

/-!
How asking for files, completing a batch and a lookup can end. The relations here list the endings
one by one, each with what the transport said and with the resolver that is left.
-/
namespace DynamicRpc.Reflection

open Schema

/-- An outcome in which the service says why it does not answer: in its reply, or as the status of
the stream. -/
def Outcome.Refuses (o : Outcome QueryError Reply) (s : Rpc.Status) : Prop :=
  o = .done (.refused s) ∨ o = .failed (.status s)

/-- The endings of asking for files. -/
inductive Fetching (c : Connector) (r : Resolver) (q : Query) :
    Outcome ResolveError (List Bytes) → Resolver → Prop where
  | files (encoded : List Bytes) (t : Transport)
    (h : r.transport.send c q = (.done (.files encoded), t)) :
    Fetching c r q (.done encoded) { r with transport := t }
  | refused (o : Outcome QueryError Reply) (s : Rpc.Status) (t : Transport)
    (h : r.transport.send c q = (o, t)) (ho : o.Refuses s) :
    Fetching c r q (.failed (.remote s)) { r with transport := t }
  | broken (e : QueryError) (t : Transport) (h : r.transport.send c q = (.failed e, t))
    (he : ∀ s, e ≠ .status s) :
    Fetching c r q (.failed (.transport e)) { r with transport := t }
  | services (names : List String) (t : Transport)
    (h : r.transport.send c q = (.done (.services names), t)) :
    Fetching c r q (.failed (.transport (.unexpected (Reply.services names).kind)))
      { r with transport := t }
  | dropped (t : Transport) (h : r.transport.send c q = (.dropped, t)) :
    Fetching c r q .dropped { r with transport := t }

/-- The endings of asking for an import. -/
inductive Importing (c : Connector) (target file dependency : String) (r : Resolver) :
    Outcome ResolveError (List FileDecl) → Resolver → Prop where
  | received (encoded : List Bytes) (files : List FileDecl) (r₁ : Resolver)
    (x : Fetching c r (.file dependency) (.done encoded) r₁)
    (hd : Resolver.decodeFiles encoded = .ok files) (mem : dependency ∈ files.map (·.path)) :
    Importing c target file dependency r (.done files) (files.foldl Resolver.remember r₁)
  | absent (encoded : List Bytes) (files : List FileDecl) (r₁ : Resolver)
    (x : Fetching c r (.file dependency) (.done encoded) r₁)
    (hd : Resolver.decodeFiles encoded = .ok files) (mem : dependency ∉ files.map (·.path)) :
    Importing c target file dependency r
      (.failed (.malformed target (.unavailable file dependency none)))
      (files.foldl Resolver.remember r₁)
  | undecodable (encoded : List Bytes) (e : Wire.DecodeError) (r₁ : Resolver)
    (x : Fetching c r (.file dependency) (.done encoded) r₁)
    (hd : Resolver.decodeFiles encoded = .error e) :
    Importing c target file dependency r (.failed (.malformed target (.undecodable e))) r₁
  | unknown (s : Rpc.Status) (r₁ : Resolver)
    (x : Fetching c r (.file dependency) (.failed (.remote s)) r₁) (code : s.code = .notFound) :
    Importing c target file dependency r
      (.failed (.malformed target (.unavailable file dependency (some s))))
      { r₁ with unavailable := (dependency, s) :: r₁.unavailable }
  | failed (e : ResolveError) (r₁ : Resolver)
    (x : Fetching c r (.file dependency) (.failed e) r₁)
    (code : ∀ s, e = .remote s → s.code ≠ .notFound) :
    Importing c target file dependency r (.failed e) r₁
  | dropped (r₁ : Resolver) (x : Fetching c r (.file dependency) .dropped r₁) :
    Importing c target file dependency r .dropped r₁

/-- The import that a batch misses first, with the file that needs it. -/
def Resolver.Misses (r : Resolver) (batch : List FileDecl) (file dependency : String) : Prop :=
  (r.cache.missing batch).head? = some (file, dependency)

/-- An import of which nothing is remembered. -/
def Resolver.Forgot (r : Resolver) (dependency : String) : Prop :=
  r.fetched? dependency = none ∧ r.unavailable? dependency = none

/-- The endings of completing a batch, with the patience that is left. -/
inductive Completing (c : Connector) (target : String) :
    Nat → Resolver → List FileDecl → Outcome ResolveError (List FileDecl) → Resolver → Prop where
  | closed (patience : Nat) (r : Resolver) (batch : List FileDecl)
    (none : r.cache.missing batch = []) : Completing c target patience r batch (.done batch) r
  | remembered (patience : Nat) (r r' : Resolver) (batch : List FileDecl)
    (o : Outcome ResolveError (List FileDecl)) (file dependency : String) (f : FileDecl)
    (first : r.Misses batch file dependency) (found : r.fetched? dependency = some f)
    (rest : Completing c target patience r (batch ++ [f]) o r') :
    Completing c target patience r batch o r'
  | unavailable (patience : Nat) (r : Resolver) (batch : List FileDecl) (file dependency : String)
    (s : Rpc.Status) (first : r.Misses batch file dependency)
    (new : r.fetched? dependency = none) (known : r.unavailable? dependency = some s) :
    Completing c target patience r batch
      (.failed (.malformed target (.unavailable file dependency (some s)))) r
  | givenUp (r : Resolver) (batch : List FileDecl) (file dependency : String)
    (first : r.Misses batch file dependency) (forgot : r.Forgot dependency) :
    Completing c target 0 r batch .dropped { r with transport := r.transport.reset }
  | received (patience : Nat) (r r₁ r' : Resolver) (batch files : List FileDecl)
    (o : Outcome ResolveError (List FileDecl)) (file dependency : String)
    (first : r.Misses batch file dependency) (forgot : r.Forgot dependency)
    (x : Importing c target file dependency r (.done files) r₁)
    (rest : Completing c target patience r₁ (batch ++ files) o r') :
    Completing c target (patience + 1) r batch o r'
  | failed (patience : Nat) (r r₁ : Resolver) (batch : List FileDecl) (e : ResolveError)
    (file dependency : String) (first : r.Misses batch file dependency)
    (forgot : r.Forgot dependency) (x : Importing c target file dependency r (.failed e) r₁) :
    Completing c target (patience + 1) r batch (.failed e) r₁
  | dropped (patience : Nat) (r r₁ : Resolver) (batch : List FileDecl) (file dependency : String)
    (first : r.Misses batch file dependency) (forgot : r.Forgot dependency)
    (x : Importing c target file dependency r .dropped r₁) :
    Completing c target (patience + 1) r batch .dropped r₁

/-- A batch in a cache; what is cached need not be remembered. -/
def Resolver.withCache (r : Resolver) (cache : Cache) : Resolver :=
  { r with cache, fetched := r.fetched.filter fun f => !cache.contains f.path }

/-- The endings of a lookup. -/
inductive Looking {α : Type} (c : Connector) (patience : Nat) (r : Resolver)
    (answer? : Cache → Option α) (q : Query) (target : String)
    (unknown : Option Rpc.Status → ResolveError) : Outcome ResolveError α → Resolver → Prop where
  | cached (a : α) (known : answer? r.cache = some a) :
    Looking c patience r answer? q target unknown (.done a) r
  | unknown (s : Rpc.Status) (r₁ : Resolver) (new : answer? r.cache = none)
    (x : Fetching c r q (.failed (.remote s)) r₁) (code : s.code = .notFound) :
    Looking c patience r answer? q target unknown (.failed (unknown (some s))) r₁
  | failed (e : ResolveError) (r₁ : Resolver) (new : answer? r.cache = none)
    (x : Fetching c r q (.failed e) r₁) (code : ∀ s, e = .remote s → s.code ≠ .notFound) :
    Looking c patience r answer? q target unknown (.failed e) r₁
  | dropped (r₁ : Resolver) (new : answer? r.cache = none) (x : Fetching c r q .dropped r₁) :
    Looking c patience r answer? q target unknown .dropped r₁
  | undecodable (encoded : List Bytes) (e : Wire.DecodeError) (r₁ : Resolver)
    (new : answer? r.cache = none) (x : Fetching c r q (.done encoded) r₁)
    (hd : Resolver.decodeFiles encoded = .error e) :
    Looking c patience r answer? q target unknown (.failed (.malformed target (.undecodable e))) r₁
  | incomplete (encoded : List Bytes) (batch : List FileDecl) (e : ResolveError) (r₁ r₂ : Resolver)
    (new : answer? r.cache = none) (x : Fetching c r q (.done encoded) r₁)
    (hd : Resolver.decodeFiles encoded = .ok batch)
    (y : Completing c target patience r₁ batch (.failed e) r₂) :
    Looking c patience r answer? q target unknown (.failed e) r₂
  | givenUp (encoded : List Bytes) (batch : List FileDecl) (r₁ r₂ : Resolver)
    (new : answer? r.cache = none) (x : Fetching c r q (.done encoded) r₁)
    (hd : Resolver.decodeFiles encoded = .ok batch)
    (y : Completing c target patience r₁ batch .dropped r₂) :
    Looking c patience r answer? q target unknown .dropped r₂
  | refused (encoded : List Bytes) (batch closed : List FileDecl) (e : InsertError)
    (r₁ r₂ : Resolver) (new : answer? r.cache = none) (x : Fetching c r q (.done encoded) r₁)
    (hd : Resolver.decodeFiles encoded = .ok batch)
    (y : Completing c target patience r₁ batch (.done closed) r₂)
    (hi : r₂.cache.insert (c.linking r₂.transport.history) closed = (.error e, r₂.cache)) :
    Looking c patience r answer? q target unknown (.failed (.malformed target (.refused e))) r₂
  | answered (encoded : List Bytes) (batch closed : List FileDecl) (cache : Cache) (n : Nat) (a : α)
    (r₁ r₂ : Resolver) (new : answer? r.cache = none) (x : Fetching c r q (.done encoded) r₁)
    (hd : Resolver.decodeFiles encoded = .ok batch)
    (y : Completing c target patience r₁ batch (.done closed) r₂)
    (hi : r₂.cache.insert (c.linking r₂.transport.history) closed = (.ok n, cache))
    (found : answer? cache = some a) :
    Looking c patience r answer? q target unknown (.done a) (r₂.withCache cache)
  | absent (encoded : List Bytes) (batch closed : List FileDecl) (cache : Cache) (n : Nat)
    (r₁ r₂ : Resolver) (new : answer? r.cache = none) (x : Fetching c r q (.done encoded) r₁)
    (hd : Resolver.decodeFiles encoded = .ok batch)
    (y : Completing c target patience r₁ batch (.done closed) r₂)
    (hi : r₂.cache.insert (c.linking r₂.transport.history) closed = (.ok n, cache))
    (missing : answer? cache = none) :
    Looking c patience r answer? q target unknown (.failed (unknown none)) (r₂.withCache cache)

theorem Resolver.Misses.mem {r : Resolver} {batch : List FileDecl} {file dependency : String}
    (first : r.Misses batch file dependency) : (file, dependency) ∈ r.cache.missing batch :=
  List.mem_of_head? first

/-- An import that could be had is among the files of its answer. -/
theorem Importing.mem_paths {c : Connector} {target file dependency : String} {r r' : Resolver}
    {files : List FileDecl} (x : Importing c target file dependency r (.done files) r') :
    dependency ∈ files.map (·.path) := by
  cases x with
  | received encoded files r₁ x hd mem => exact mem

namespace Resolver

variable {c : Connector} {r r' : Resolver} {q : Query} {target file dependency : String}
  {patience : Nat} {batch : List FileDecl}

theorem fetch_fetching (c : Connector) (r : Resolver) (q : Query) :
    Fetching c r q (r.fetch c q).1 (r.fetch c q).2 := by
  unfold fetch ask
  rcases h : r.transport.send c q with ⟨o, t⟩
  cases o with
  | done reply =>
    cases reply with
    | files encoded => exact .files encoded t h
    | services names => exact .services names t h
    | refused s => exact .refused _ s t h (.inl rfl)
  | failed e =>
    cases e with
    | status s => exact .refused _ s t h (.inr rfl)
    | streamClosed => exact .broken _ t h nofun
    | sendFailed => exact .broken _ t h nofun
    | closed => exact .broken _ t h nofun
    | unexpected what => exact .broken _ t h nofun
  | dropped => exact .dropped t h

theorem fetchImport_importing (c : Connector) (target file dependency : String) (r : Resolver) :
    Importing c target file dependency r (r.fetchImport c target file dependency).1
      (r.fetchImport c target file dependency).2 := by
  have x := fetch_fetching c r (.file dependency)
  unfold fetchImport
  rcases h : r.fetch c (.file dependency) with ⟨o, r₁⟩
  rw [h] at x
  cases o with
  | done encoded =>
    dsimp only
    split
    next e hd => exact .undecodable encoded e r₁ x hd
    next files hd =>
      split
      next mem => exact .received encoded files r₁ x hd (by simpa using mem)
      next mem => exact .absent encoded files r₁ x hd (by simpa using mem)
  | failed e =>
    cases e with
    | remote s =>
      dsimp only
      split
      next code => exact .unknown s r₁ x code
      next code => exact .failed _ r₁ x (by rintro _ ⟨⟩; exact code)
    | _ => exact .failed _ r₁ x nofun
  | dropped => exact .dropped r₁ x

theorem complete_completing (c : Connector) (target : String) (patience : Nat) (r : Resolver)
    (batch : List FileDecl) : Completing c target patience r batch
      (r.complete c target patience batch).1 (r.complete c target patience batch).2 := by
  fun_induction complete c target patience r batch with
  | case1 patience r batch none => exact .closed patience r batch (List.head?_eq_none_iff.1 none)
  | case2 patience r batch file dependency first f found ih =>
    exact .remembered patience r _ batch _ file dependency f first found ih
  | case3 patience r batch file dependency first new s known =>
    exact .unavailable patience r batch file dependency s first new known
  | case4 r batch file dependency first new unknown =>
    exact .givenUp r batch file dependency first ⟨new, unknown⟩
  | case5 r batch file dependency first new unknown patience files r₁ hx ih =>
    have x := hx ▸ fetchImport_importing c target file dependency r
    exact .received patience r r₁ _ batch files _ file dependency first ⟨new, unknown⟩ x ih
  | case6 r batch file dependency first new unknown patience e r₁ hx =>
    have x := hx ▸ fetchImport_importing c target file dependency r
    exact .failed patience r r₁ batch e file dependency first ⟨new, unknown⟩ x
  | case7 r batch file dependency first new unknown patience r₁ hx =>
    have x := hx ▸ fetchImport_importing c target file dependency r
    exact .dropped patience r r₁ batch file dependency first ⟨new, unknown⟩ x

/-- One step of completing a batch. -/
theorem complete_eq (c : Connector) (target : String) (patience : Nat) (r : Resolver)
    (batch : List FileDecl) : r.complete c target patience batch =
    match (r.cache.missing batch).head? with
    | none => (.done batch, r)
    | some (file, dependency) =>
      match r.fetched? dependency with
      | some f => r.complete c target patience (batch ++ [f])
      | none =>
        match r.unavailable? dependency with
        | some s => (.failed (.malformed target (.unavailable file dependency (some s))), r)
        | none =>
          match patience with
          | 0 => (.dropped, { r with transport := r.transport.reset })
          | patience + 1 => (r.fetchImport c target file dependency).andThen fun files r =>
            r.complete c target patience (batch ++ files) := by
  rw [complete]
  -- The first two matches carry their equations for the termination, so they have to be split.
  split
  next none => simp only [none]
  next file dependency first =>
    simp only [first]
    split
    next f found => simp only [found]
    next new =>
      simp only [new]
      cases r.unavailable? dependency with
      | some s => rfl
      | none =>
        cases patience with
        | zero => rfl
        | succ patience =>
          dsimp only
          rcases r.fetchImport c target file dependency with ⟨o, r₁⟩
          cases o <;> rfl

theorem complete_of_closed (none : r.cache.missing batch = []) :
    r.complete c target patience batch = (.done batch, r) := by
  rw [complete_eq, none]
  rfl

theorem lookup_looking {α : Type} (c : Connector) (patience : Nat) (r : Resolver)
    (answer? : Cache → Option α) (q : Query) (target : String)
    (unknown : Option Rpc.Status → ResolveError) :
    Looking c patience r answer? q target unknown
      (r.lookup c patience answer? q target unknown).1
      (r.lookup c patience answer? q target unknown).2 := by
  have x := fetch_fetching c r q
  unfold lookup
  split
  next a known => exact .cached a known
  next new =>
    rcases hx : r.fetch c q with ⟨o, r₁⟩
    rw [hx] at x
    cases o with
    | dropped => exact .dropped r₁ new x
    | failed e =>
      cases e with
      | remote s =>
        dsimp only
        split
        next code => exact .unknown s r₁ new x code
        next code => exact .failed _ r₁ new x (by rintro _ ⟨⟩; exact code)
      | _ => exact .failed _ r₁ new x nofun
    | done encoded =>
      dsimp only
      cases hd : decodeFiles encoded with
      | error e =>
        rw [register, hd]
        exact .undecodable encoded e r₁ new x hd
      | ok batch =>
        have y := complete_completing c target patience r₁ batch
        rw [register, hd]
        dsimp only
        rcases hy : r₁.complete c target patience batch with ⟨o, r₂⟩
        rw [hy] at y
        cases o with
        | failed e => exact .incomplete encoded batch e r₁ r₂ new x hd y
        | dropped => exact .givenUp encoded batch r₁ r₂ new x hd y
        | done closed =>
          rw [Ended.andThen_done, insert]
          split
          next e cache hi =>
            obtain rfl := Cache.cache_of_refused hi
            exact .refused encoded batch closed e r₁ r₂ new x hd y hi
          next n cache hi =>
            rw [Ended.andThen_done]
            split
            next a found => exact .answered encoded batch closed cache n a r₁ r₂ new x hd y hi found
            next missing =>
              exact .absent encoded batch closed cache n r₁ r₂ new x hd y hi missing

end Resolver

end DynamicRpc.Reflection
