import DynamicRpc.Proofs.Reflection.CachedNames
import DynamicRpc.Proofs.Reflection.LastWait
import DynamicRpc.Proofs.Schema.PlainNames

/-!
Services with a fixed set of files. Such a service may add any of its files to an answer, in any
order; it never leaves out what was asked for. Whatever a resolver did before, all that it caches
and remembers is then of the set, and no file of the set is remembered as missing.
-/
namespace DynamicRpc.Reflection

open Schema Resolver

/-- Files of a service. They bring their imports along, and can be linked portion by portion, as
long as what is linked is closed under imports after each portion. -/
structure Catalog where
  files : List FileDecl
  named : ∀ f ∈ files, f.name ≠ none
  distinct : (files.map (·.path)).Nodup
  closed : Closed files
  acyclic : Acyclic files
  /-- No file lists an import twice. -/
  once : ∀ f ∈ files, f.imports.Nodup
  links : ∀ (p : Pool) (fresh : List FileDecl), p.Linked → p.decls ⊆ files → fresh ⊆ files →
    ((p.decls ++ fresh).map (·.path)).Nodup → Closed p.decls → Closed (p.decls ++ fresh) →
    ∃ q, p.link fresh = .ok q

namespace Catalog

variable {F : Catalog} {f g : FileDecl} {part : List FileDecl} {name : String}

/-- A service that answers from a catalog, whenever it answers. -/
structure ServedBy (F : Catalog) (c : Connector) : Prop where
  only : ∀ f, c.Sends f → f ∈ F.files
  decodes : ∀ q encoded, c.Answers q (.done (.files encoded)) →
    ∃ files, decodeFiles encoded = .ok files
  symbols : ∀ f ∈ F.files, ∀ name, f.Defines name → ∀ files, c.SendsAll (.symbol name) files →
    f ∈ files
  imports : ∀ f ∈ F.files, ∀ files, c.SendsAll (.file f.path) files → f ∈ files
  /-- Of a file that it has, it does not say that there is none. -/
  known : ∀ f ∈ F.files, ∀ o s, c.Answers (.file f.path) o → o.Refuses s → s.code ≠ .notFound

/-- A file that goes by the name of one in a part of the catalog is in that part. -/
theorem mem_of_path (subset : part ⊆ F.files) (hf : f ∈ F.files)
    (path : f.path ∈ part.map (·.path)) : f ∈ part := by
  obtain ⟨g, hg, same⟩ := List.mem_map.1 path
  rwa [← List.inj_on_of_nodup_map F.distinct (subset hg) hf same]

/-- Any closed part of a catalog can be linked at once. -/
theorem part_links (subset : part ⊆ F.files) (distinct : (part.map (·.path)).Nodup)
    (closed : Closed part) : ∃ pool, Pool.empty.link part = .ok pool :=
  F.links .empty part .empty (List.nil_subset _) subset distinct nofun closed

/-- No name is defined in two files. -/
theorem file_unique (hf : f ∈ F.files) (hg : g ∈ F.files) (hx : f.Defines name)
    (hy : g.Defines name) : f = g := by
  obtain ⟨pool, linked⟩ := part_links (List.Subset.refl _) F.distinct F.closed
  have decls : pool.decls = F.files := Pool.link_decls linked
  obtain ⟨file, hfile, rfl⟩ := List.mem_map.1 (decls ▸ hf)
  obtain ⟨file', hfile', rfl⟩ := List.mem_map.1 (decls ▸ hg)
  have unique : pool.Linked := .link .empty linked
  rw [unique.file_unique (decls ▸ F.distinct) hfile hfile' hx hy]

/-- What a catalog makes of a name that one of its files defines: what linking a closed part with
that file gives; and if no declaration of the catalog has a dot in its own name, what linking all
of it gives. -/
structure Describes (F : Catalog) (f : FileDecl) (name : String) (d : Descriptor) : Prop where
  part : ∃ part pool, Part part F.files ∧ f ∈ part ∧ Pool.empty.link part = .ok pool ∧
    pool.find? name = some d
  whole : (∀ f ∈ F.files, f.Plain) →
    ∃ pool, Pool.empty.link F.files = .ok pool ∧ pool.find? name = some d

/-! Files of a catalog in a cache -/

variable {cache cache' : Cache} {o : LinkOrder} {batch : List FileDecl} {n : Nat}

/-- Files of a catalog can be cached as soon as no import is missing. -/
theorem insert_ok (o : LinkOrder) (built : cache.Built) (cached : cache.decls ⊆ F.files)
    (hb : batch ⊆ F.files) (none : cache.missing batch = []) :
    ∃ n cache', cache.insert o batch = (.ok n, cache') := by
  have fresh : cache.fresh o batch ⊆ F.files := fun f hf => hb (Cache.mem_fresh hf).1
  have closed : cache.missing (cache.fresh o batch) = [] := Cache.missing_fresh none
  have x := Cache.insert_cases cache o batch
  rcases h : cache.insert o batch with ⟨_, cache'⟩
  rw [h] at x
  cases x with
  | unnamed f hf none => exact absurd none (F.named f (hb hf))
  | nothingNew named none => exact ⟨_, _, rfl⟩
  | missingImport named file dependency mem =>
    rw [closed] at mem
    cases mem
  | importCycle named closed file cycle =>
    have acyclic : Acyclic (cache.fresh o batch) := F.acyclic.subset fresh
    have once : ¬ Repeats (cache.fresh o batch) :=
      not_repeats_of_nodup fun f hf => F.once f (fresh hf)
    rw [cycle?_of_acyclic Cache.nodup_fresh once acyclic] at cycle
    cases cycle
  | unlinked named closed acyclic e failed =>
    obtain ⟨pool, linked⟩ := F.links cache.pool (cache.fresh o batch) built.linked cached fresh
      built.sound.distinct_append built.sound.closed (built.sound.closed_append closed)
    rw [linked] at failed
    cases failed
  | linked named closed acyclic pool linked => exact ⟨_, _, rfl⟩

/-- Once a batch is cached, the names that its files define are found. -/
theorem find?_of_insert (built : cache.Built) (cached : cache.decls ⊆ F.files)
    (hb : batch ⊆ F.files) (h : cache.insert o batch = (.ok n, cache')) (hf : f ∈ F.files)
    (mem : f ∈ batch) (defines : f.Defines (withoutDot name)) :
    ∃ d, cache'.find? name = some d := by
  have decls : cache'.decls = cache.decls ++ cache.fresh o batch := Cache.decls_insert h
  have subset : cache'.decls ⊆ F.files := by
    rw [decls]
    exact List.append_subset.2 ⟨cached, fun g hg => hb (Cache.mem_fresh hg).1⟩
  have path : f.path ∈ cache'.decls.map (·.path) := by
    rw [decls, List.map_append, List.mem_append]
    by_cases old : f.path ∈ cache.decls.map (·.path)
    · exact .inl old
    · exact .inr (Cache.path_mem_fresh mem old)
  obtain ⟨file, hfile, rfl⟩ := List.mem_map.1 (mem_of_path subset hf path)
  obtain ⟨d, _, _, found⟩ := (built.insert h).find? hfile defines
  exact ⟨d, found⟩

/-- What a cache with files of a catalog finds is what the catalog makes of the name. -/
theorem describes_of_find? (built : cache.Built) (cached : cache.decls ⊆ F.files)
    (hf : f ∈ F.files) (defines : f.Defines (withoutDot name)) {d : Descriptor}
    (found : cache.find? name = some d) : F.Describes f name d := by
  obtain ⟨g, hg, hx⟩ := built.defines found
  obtain rfl := F.file_unique hf (cached hg) defines hx
  obtain ⟨file, hfile, rfl⟩ := List.mem_map.1 hg
  obtain ⟨d', hd, same, found'⟩ := built.find? hfile defines
  obtain rfl := Option.some.inj (found.symm.trans found')
  obtain ⟨files, known, subset, against⟩ := built.linkedAgainst hfile
  have part : Part files F.files := ⟨List.Subset.trans subset cached, F.distinct, against.closed⟩
  refine ⟨?_, fun plain => ?_⟩
  · obtain ⟨pool, linked⟩ := F.part_links part.subset against.distinct against.closed
    have itself : Part files files := ⟨List.Subset.refl _, against.distinct, against.closed⟩
    exact ⟨files, pool, part, against.mem, linked,
      against.find? itself (encloses_of_subset (List.Subset.refl _)) linked hd same⟩
  · obtain ⟨pool, linked⟩ := F.part_links (List.Subset.refl _) F.distinct F.closed
    have encloses : Encloses files F.files :=
      encloses_of_plain fun f hf => plain f (part.subset hf)
    exact ⟨pool, linked, against.find? part encloses linked hd same⟩

/-! What a resolver keeps -/

/-- A resolver that knows nothing but files of the catalog, and none of them as missing. -/
structure Kept (F : Catalog) (c : Connector) (r : Resolver) : Prop where
  traced : r.Traced c
  built : r.cache.Built
  cached : r.cache.decls ⊆ F.files
  available : ∀ p ∈ r.unavailable, p.1 ∉ F.files.map (·.path)

variable {c : Connector} {r r' : Resolver} {file dependency : String}

theorem kept_ofChoice (choice : Option Dialect) : F.Kept c (.ofChoice choice) where
  traced := ofChoice_traced choice
  built := .empty
  cached := List.nil_subset _
  available := nofun

theorem Kept.step (kept : F.Kept c r) (served : F.ServedBy c) (x : Step c r r') :
    F.Kept c r' := by
  have traced : r'.Traced c := x.traced kept.traced
  cases x with
  | asked q o t h => exact ⟨traced, kept.built, kept.cached, kept.available⟩
  | remembered files hf =>
    refine ⟨traced, ?_, ?_, ?_⟩ <;> rw [foldl_remember]
    · exact kept.built
    · exact kept.cached
    · exact kept.available
  | missed dependency o s h ho code =>
    refine ⟨traced, kept.built, kept.cached, fun p hp => ?_⟩
    rcases List.mem_cons.1 hp with rfl | hp
    · intro mem
      obtain ⟨f, hf, rfl⟩ := List.mem_map.1 mem
      exact served.known f hf o s h ho code
    · exact kept.available p hp
  | inserted order batch cache n hb h =>
    refine ⟨traced, .insert kept.built h, ?_, kept.available⟩
    intro f hf
    have hf : f ∈ cache.decls := hf
    rw [Cache.decls_insert h] at hf
    rcases List.mem_append.1 hf with hf | hf
    · exact kept.cached hf
    · exact served.only f (hb f (Cache.mem_fresh hf).1)
  | givenUp => exact ⟨traced, kept.built, kept.cached, kept.available⟩
  | reset => exact ⟨traced, kept.built, kept.cached, nofun⟩
  | close => exact ⟨traced, kept.built, kept.cached, kept.available⟩

theorem Kept.steps (kept : F.Kept c r) (served : F.ServedBy c) (x : Steps c r r') :
    F.Kept c r' :=
  x.keep (fun _ _ kept x => kept.step served x) kept

/-- All that is remembered belongs to the catalog. -/
theorem Kept.fetched (kept : F.Kept c r) (served : F.ServedBy c)
    (found : r.fetched? dependency = some f) : f ∈ F.files :=
  served.only f (kept.traced.sent f (fetched?_mem found).1)

/-- No import that the catalog has is remembered as missing. -/
theorem Kept.unavailable? (kept : F.Kept c r) (mem : dependency ∈ F.files.map (·.path)) :
    r.unavailable? dependency = none := by
  rw [Resolver.unavailable?, Option.map_eq_none_iff, List.find?_eq_none]
  intro p hp same
  rw [decide_eq_true_eq] at same
  exact kept.available p hp (same ▸ mem)

/-- Whatever operations did before, the resolver knows nothing but the catalog. -/
theorem kept_run (served : F.ServedBy c) (choice : Option Dialect) (ops : List Operation) :
    F.Kept c (run c (.ofChoice choice) ops) :=
  (kept_ofChoice choice).steps served (run_steps (ofChoice_traced choice) ops)

/-- What a batch of the catalog misses is a file of the catalog that the batch does not hold. -/
theorem missed (hb : batch ⊆ F.files) (first : r.Misses batch file dependency) :
    (∃ f ∈ F.files, f.path = dependency) ∧ dependency ∉ batch.map (·.path) := by
  obtain ⟨⟨g, hg, _, hd⟩, _, absent, _⟩ := Cache.mem_missing.1 first.mem
  exact ⟨List.mem_map.1 (F.closed g (hb hg) dependency hd), absent⟩

/-- No query of a lookup failed. One that fails is the last of its lookup, so this can be read off
the last wait; a lookup that the cache answers waits for nothing. -/
structure Undisturbed (r r' : Resolver) (o : Outcome ResolveError Descriptor) : Prop where
  reachable : o ≠ .failed (.transport .closed)
  answered : r'.transport.history = r.transport.history ∨ r'.transport.history.EndsWithFiles

end Catalog

end DynamicRpc.Reflection
