import DynamicRpc.Proofs.Reflection.CatalogLookup

/-!
A name that was found keeps its meaning. Inserting a batch only adds descriptors, and names tell
the descriptors of a cache apart, so no later file can put another in the place of one that is
found; and what is cached is answered without a question.
-/
namespace DynamicRpc.Reflection

open Schema

namespace Cache

variable {c c' : Cache} {o : LinkOrder} {batch : List FileDecl} {n : Nat} {d : Descriptor}
  {name : String}

/-- Inserting a batch loses no descriptor. -/
theorem descriptors_insert (h : c.insert o batch = (.ok n, c')) :
    c.pool.descriptors ⊆ c'.pool.descriptors := by
  have x := insertion_of_insert h
  cases x with
  | nothingNew named none => exact List.Subset.refl _
  | linked named closed acyclic pool linked =>
    obtain ⟨known, files, _, _, rfl⟩ := Pool.link_eq_ok.1 linked
    rw [ofPool_pool, Pool.descriptors, Pool.descriptors, List.flatMap_append]
    exact List.subset_append_left _ _

/-- A batch changes no name that is found already, whatever its files define. -/
theorem Built.find?_insert (built : c.Built) (h : c.insert o batch = (.ok n, c'))
    (found : c.find? name = some d) : c'.find? name = some d := by
  have after : c'.Built := .insert built h
  obtain ⟨mem, same⟩ := Pool.find?_mem found
  exact after.linked.find? after.sound.distinct (descriptors_insert h mem) same

end Cache

namespace Resolver

variable {c : Connector} {r r' : Resolver} {d : Descriptor} {name : String} {patience : Nat}

/-- What a name means to a cache that insertions led to. -/
structure Means (name : String) (d : Descriptor) (r : Resolver) : Prop where
  built : r.cache.Built
  found : r.cache.find? name = some d

/-- No step changes what a name means. -/
theorem Means.step (m : Means name d r) (x : Step c r r') : Means name d r' := by
  cases x with
  | inserted o batch cache n hb h => exact ⟨.insert m.built h, m.built.find?_insert h m.found⟩
  | remembered files hf =>
    rw [foldl_remember]
    exact ⟨m.built, m.found⟩
  | _ => exact ⟨m.built, m.found⟩

/-- A cached name is answered as it is, and nothing else happens. -/
theorem find_of_cached (c : Connector) (patience : Nat) (found : r.cache.find? name = some d) :
    r.find c patience name = (.done d, r) := by
  rw [find, lookup, found]

/-- What a lookup finds is in the cache that it leaves. -/
theorem cached_of_find (h : r.find c patience name = (.done d, r')) :
    r'.cache.find? name = some d := by
  have x := lookup_looking c patience r (·.find? name) (.symbol name) name (.unknownSymbol name)
  rw [← find, h] at x
  cases x with
  | cached _ known => exact known
  | answered encoded batch closed cache n _ r₁ r₂ new x hd y hi found => exact found

/-- Whatever a service answers, a lookup that succeeds puts the name into the cache; and a name that
is cached, by its own lookup or by another, is found with the same descriptor after all further
operations, by a lookup that leaves the resolver and its transport as they are. -/
theorem found_names_stay_found {before : List Operation} {choice : Option Dialect}
    (reached : run c (.ofChoice choice) before = r) :
    (∀ patience name d r', r.find c patience name = (.done d, r') →
      r'.cache.find? name = some d) ∧
    ∀ name d, r.cache.find? name = some d → ∀ after patience,
      (run c r after).find c patience name = (.done d, run c r after) := by
  refine ⟨fun patience name d r' h => cached_of_find h, ?_⟩
  intro name d found after patience
  subst reached
  have traced :=
    (run_steps (ofChoice_traced choice) before).traced (ofChoice_traced (c := c) choice)
  have means : Means name d (run c (.ofChoice choice) before) :=
    ⟨cache_built c choice before, found⟩
  have later := (run_steps traced after).keep (fun _ _ m x => m.step x) means
  exact find_of_cached c patience later.found

open Catalog

/-- A message is found after lookups of other names, one of them in a file that imports it, and
after a reset and a close. -/
theorem base_stays_found : ∃ r d,
    run shop.service (.ofChoice none) [.find 2 "shop.Base"] = r ∧
    (run shop.service r [.find 2 "shop.Item", .find 2 "shop.Gone", .reset, .close]).find
      shop.service 0 "shop.Base" =
      (.done d, run shop.service r [.find 2 "shop.Item", .find 2 "shop.Gone", .reset, .close]) := by
  have mem : decoded baseFile ∈ shop.files := List.mem_cons_of_mem _ List.mem_cons_self
  have defines : (decoded baseFile).Defines "shop.Base" := by decide +kernel
  have kept : shop.Kept shop.service (.ofChoice none) := kept_ofChoice none
  obtain ⟨r, h, cached, _⟩ := Shelf.find_of_closed 2 kept mem defines nofun
    (Option.isNone_iff_eq_none.1 (by decide +kernel)) (by decide +kernel)
  have reached : run shop.service (.ofChoice none) [.find 2 "shop.Base"] = r :=
    congrArg Prod.snd h
  have known : (r.cache.find? "shop.Base").isSome := by
    rw [cached]
    decide +kernel
  obtain ⟨d, found⟩ := Option.isSome_iff_exists.1 known
  exact ⟨r, d, reached, (found_names_stay_found reached).2 "shop.Base" d found _ 0⟩

end Resolver

end DynamicRpc.Reflection
