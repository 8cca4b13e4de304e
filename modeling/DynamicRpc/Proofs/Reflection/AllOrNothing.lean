import DynamicRpc.Proofs.Reflection.ExtensionIndex

/-!
A batch is taken as a whole or not at all. What refuses it can come at any depth, from a file
without a name to a symbol that is defined twice, and leaves cache and resolver as they were. A
batch that is taken adds one file for each name that was not cached, and touches none that was; the
extensions by number go along with the files.
-/
namespace DynamicRpc.Reflection

open Schema

namespace Cache

variable {c c' : Cache} {o : LinkOrder} {batch : List FileDecl} {n : Nat} {path : String}

/-- What can be wrong with a batch: a file without a name, or new files that miss an import, do not
come to an end with their imports, or do not link. -/
inductive Faulty (c : Cache) (o : LinkOrder) (batch : List FileDecl) : Prop where
  | unnamed (f : FileDecl) (hf : f ∈ batch) (none : f.name = none)
  | missingImport (missing : c.missing (c.fresh o batch) ≠ [])
  | importCycle (cycle : cycle? (c.fresh o batch) ≠ none)
  | unlinked (e : LinkError) (failed : c.pool.link (c.fresh o batch) = .error e)

/-- A batch is refused if and only if something is wrong with it. -/
theorem refused_iff : (∃ e, c.insert o batch = (.error e, c)) ↔ c.Faulty o batch := by
  constructor
  · rintro ⟨e, h⟩
    cases insertion_of_insert h with
    | unnamed f hf none => exact .unnamed f hf none
    | missingImport _ file dependency mem => exact .missingImport (List.ne_nil_of_mem mem)
    | importCycle _ _ file cycle => exact .importCycle (by rw [cycle]; exact nofun)
    | unlinked _ _ _ e failed => exact .unlinked e failed
  · intro faulty
    rcases h : c.insert o batch with ⟨e | n, c'⟩
    · obtain rfl := cache_of_refused h
      exact ⟨e, rfl⟩
    · obtain ⟨named, closed, acyclic, linked, _⟩ := checks_of_insert h
      cases faulty with
      | unnamed f hf unnamed => exact absurd unnamed (named f hf)
      | missingImport missing => exact absurd closed missing
      | importCycle cycle => exact absurd acyclic cycle
      | unlinked e failed => cases failed.symm.trans linked

theorem paths_eq (c : Cache) : c.paths = c.decls.map (·.path) := by
  rw [paths, decls, Pool.decls, List.map_map]
  rfl

/-- A file of a cache by its name, as it was declared. -/
theorem file?_decl (c : Cache) (path : String) :
    (c.pool.file? path).map (·.decl) = c.decls.find? (·.path = path) := by
  rw [decls, Pool.decls, List.find?_map]
  rfl

/-- A batch was taken: `new` are the names that it brought. -/
structure Took (c : Cache) (batch : List FileDecl) (new : List String) (c' : Cache) : Prop where
  distinct : new.Nodup
  mem : ∀ path, path ∈ new ↔ path ∈ batch.map (·.path) ∧ ¬ c.contains path
  paths : c'.paths = c.paths ++ new
  /-- Of several files with a new name the cache has the first one. -/
  first : ∀ path ∈ new, (c'.pool.file? path).map (·.decl) = batch.find? (·.path = path)
  kept : c.pool.files <+: c'.pool.files
  known : ∀ path, c.contains path → c'.pool.file? path = c.pool.file? path
  /-- Files and extensions change together. -/
  indexed : c.Indexed → c'.Indexed

/-- A name that is not cached is that of a file in the batch, and of the first such file. -/
theorem file?_insert_of_new (h : c.insert o batch = (.ok n, c'))
    (new : path ∉ c.decls.map (·.path)) :
    (c'.pool.file? path).map (·.decl) = batch.find? (·.path = path) := by
  have absent : c.decls.find? (·.path = path) = none := by
    refine List.find?_eq_none.2 fun f hf same => new ?_
    exact List.mem_map.2 ⟨f, hf, of_decide_eq_true same⟩
  rw [file?_decl, decls_insert h, List.find?_append, absent, Option.none_or, find?_fresh new]

/-- Files that are cached stay where they are. -/
theorem Grows.file? (grown : c.Grows c') (known : c.contains path) :
    c'.pool.file? path = c.pool.file? path := by
  obtain ⟨files, split, _⟩ := grown
  have found : (c.pool.files.find? (·.path = path)).isSome :=
    List.find?_isSome.2 (List.any_eq_true.1 known)
  rw [Pool.file?, split, List.find?_append, Option.or_of_isSome found, Pool.file?]

theorem took_insert (h : c.insert o batch = (.ok n, c')) :
    c.Took batch ((c.fresh o batch).map (·.path)) c' where
  distinct := nodup_fresh
  mem path := by rw [mem_paths_fresh, contains_iff]
  paths := by rw [paths_eq, paths_eq, decls_insert h, List.map_append]
  first path new := file?_insert_of_new h (mem_paths_fresh.1 new).2
  kept := by
    obtain ⟨files, split, _⟩ := grows_insert h
    exact ⟨files, split.symm⟩
  known path := (grows_insert h).file?
  indexed indexed := indexed.insert h

/-- The number that an insertion answers with is that of the new files. -/
theorem count_insert (h : c.insert o batch = (.ok n, c')) : n = (c.fresh o batch).length := by
  obtain ⟨_, _, _, _, count⟩ := checks_of_insert h
  exact count

/-- Every insertion, in whatever order its files are linked, either is refused, over a fault in the
batch, and then it leaves the cache as it was, files and extensions, and a resolver leaves itself as
it was; or it takes the whole batch, with its extensions, and says how many names were new. -/
theorem insertion_is_all_or_nothing (c : Cache) (o : LinkOrder) (batch : List FileDecl) :
    (∃ e, c.insert o batch = (.error e, c) ∧ c.Faulty o batch ∧
      ∀ (s : Connector) target (r : Resolver),
        Resolver.insert { s with linking := fun _ => o } target batch { r with cache := c } =
          (.failed (.malformed target (.refused e)), { r with cache := c })) ∨
    ∃ new c', c.insert o batch = (.ok new.length, c') ∧ ¬ c.Faulty o batch ∧
      c.Took batch new c' ∧
      ∀ (s : Connector) target (r : Resolver),
        Resolver.insert { s with linking := fun _ => o } target batch { r with cache := c } =
          (.done (), r.withCache c') := by
  rcases h : c.insert o batch with ⟨e | n, c'⟩
  · obtain rfl := cache_of_refused h
    refine .inl ⟨e, rfl, refused_iff.1 ⟨e, h⟩, fun s target r => ?_⟩
    simp only [Resolver.insert, h]
  · refine .inr ⟨(c.fresh o batch).map (·.path), c', ?_, ?_, took_insert h, fun s target r => ?_⟩
    · rw [count_insert h, List.length_map]
    · intro faulty
      obtain ⟨e, refused⟩ := refused_iff.2 faulty
      cases h.symm.trans refused
    · simp only [Resolver.insert, h]
      rfl

end Cache

end DynamicRpc.Reflection
