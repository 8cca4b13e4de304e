import DynamicRpc.Proofs.Reflection.Insertion
import DynamicRpc.Proofs.Reflection.Operations

/-!
What holds of the files that are cached, whatever a service sends: they have different names, they
bring all their imports along, and their imports form no cycle. A cycle is only looked for among the
new files of a batch; that is enough because the files before it import nothing but each other.
-/
namespace DynamicRpc.Reflection

open Schema

/-- Files that can be cached together. -/
structure Cache.Sound (c : Cache) : Prop where
  named : ∀ f ∈ c.decls, f.name ≠ none
  distinct : (c.decls.map (·.path)).Nodup
  closed : Closed c.decls
  acyclic : Acyclic c.decls

/-- A cache that insertions led to. -/
inductive Cache.Built : Cache → Prop where
  | empty : Built .empty
  | insert {c c' : Cache} {o : LinkOrder} {batch : List FileDecl} {n : Nat} (built : Built c)
    (h : c.insert o batch = (.ok n, c')) : Built c'

namespace Cache

variable {c c' : Cache} {o : LinkOrder} {batch : List FileDecl} {n : Nat}

theorem sound_empty : Sound .empty where
  named := nofun
  distinct := .nil
  closed := nofun
  acyclic := acyclic_nil

/-- Names tell new files apart from those before them. -/
theorem Sound.distinct_append (sound : c.Sound) :
    ((c.decls ++ c.fresh o batch).map (·.path)).Nodup := by
  rw [List.map_append, List.nodup_append]
  refine ⟨sound.distinct, nodup_fresh, ?_⟩
  rintro a ha b hb rfl
  obtain ⟨f, hf, rfl⟩ := List.mem_map.1 hb
  exact (mem_fresh hf).2 ha

theorem Sound.closed_append (sound : c.Sound) (closed : c.missing (c.fresh o batch) = []) :
    Closed (c.decls ++ c.fresh o batch) := by
  intro f hf d hd
  rcases List.mem_append.1 hf with hf | hf
  · rw [List.map_append]
    exact List.mem_append_left _ (sound.closed f hf d hd)
  · exact missing_eq_nil.1 closed f hf (mem_fresh hf).2 d hd

theorem Sound.append (sound : c.Sound) (h : c'.decls = c.decls ++ c.fresh o batch)
    (named : ∀ f ∈ batch, f.name ≠ none) (closed : c.missing (c.fresh o batch) = [])
    (acyclic : cycle? (c.fresh o batch) = none) : c'.Sound := by
  have apart : ∀ f ∈ c.fresh o batch, f.path ∉ c.decls.map (·.path) := fun f hf => (mem_fresh hf).2
  refine ⟨?_, h ▸ sound.distinct_append, h ▸ sound.closed_append closed, ?_⟩
  · intro f hf
    rcases List.mem_append.1 (h ▸ hf) with hf | hf
    · exact sound.named f hf
    · exact named f (mem_fresh hf).1
  · rw [h]
    exact .append sound.closed apart sound.acyclic (acyclic_of_cycle? nodup_fresh acyclic)

/-- Inserting keeps a cache sound, whatever the batch. -/
theorem Sound.insert (sound : c.Sound) (h : c.insert o batch = (.ok n, c')) : c'.Sound := by
  obtain ⟨named, closed, acyclic, _⟩ := checks_of_insert h
  exact sound.append (decls_insert h) named closed acyclic

theorem Built.sound (built : c.Built) : c.Sound := by
  induction built with
  | empty => exact sound_empty
  | insert _ h ih => exact ih.insert h

theorem Built.indexed (built : c.Built) : c.Indexed := by
  induction built with
  | empty => rfl
  | insert _ h ih => exact ih.insert h

end Cache

/-- However a service behaves, the cache is built by insertions alone. -/
theorem Resolver.cache_built (c : Connector) (choice : Option Dialect) (ops : List Operation) :
    (run c (.ofChoice choice) ops).cache.Built := by
  refine run_keeps (P := fun r => r.cache.Built) choice ops .empty ?_
  intro r r' built x
  cases x with
  | inserted o batch cache n hb h => exact .insert built h
  | remembered files hf =>
    rw [foldl_remember]
    exact built
  | _ => exact built

/-- The cache of a resolver is sound after any operations, whether they ended or were given up, and
whatever the service answered. -/
theorem Resolver.cache_stays_sound (c : Connector) (choice : Option Dialect)
    (ops : List Operation) : (run c (.ofChoice choice) ops).cache.Sound :=
  (cache_built c choice ops).sound

end DynamicRpc.Reflection
