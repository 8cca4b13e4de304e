import DynamicRpc.Proofs.Reflection.SoundCache
import DynamicRpc.Proofs.Schema.Parts

/-!
What a cache knows of a name. A cached file was linked against the files that were cached with it or
before it, which are closed under imports; and a name is found in the file that declares it.
-/
namespace DynamicRpc.Reflection

open Schema Success

/-- The file was linked against files that are closed under imports, itself among them. -/
structure LinkedAgainst (files : List FileDecl) (known : List Symbol) (file : File) : Prop where
  distinct : (files.map (·.path)).Nodup
  closed : Closed files
  mem : file.decl ∈ files
  table : Table (symbolsOfFiles files) known
  linked : linkFile files known file.decl = .ok file

namespace Cache

variable {c c' : Cache} {o : LinkOrder} {batch : List FileDecl} {n : Nat} {file : File}

theorem Built.linked (built : c.Built) : c.pool.Linked := by
  induction built with
  | empty => exact .empty
  | insert _ h ih =>
    obtain ⟨_, _, _, linked, _⟩ := checks_of_insert h
    exact .link ih linked

/-- Each cached file was linked against a closed part of what is cached. -/
theorem Built.linkedAgainst (built : c.Built) (hf : file ∈ c.pool.files) :
    ∃ files known, files ⊆ c.decls ∧ LinkedAgainst files known file := by
  induction built with
  | empty => cases hf
  | @insert c c' o batch n built h ih =>
    have sound := (built.insert h).sound
    have decls := decls_insert h
    obtain ⟨_, _, _, linked, _⟩ := checks_of_insert h
    obtain ⟨known, files, hs, hl, pool⟩ := Pool.link_eq_ok.1 linked
    rw [pool] at hf
    rcases List.mem_append.1 hf with hf | hf
    · obtain ⟨files, known, subset, against⟩ := ih hf
      exact ⟨files, known, decls ▸ fun f hf => List.mem_append_left _ (subset hf), against⟩
    · obtain ⟨f, hfresh, hfile⟩ := exists_of_forall₂_right hl hf
      obtain rfl := linkFile_decl hfile
      refine ⟨_, known, List.Subset.refl _, sound.distinct, sound.closed, ?_, ?_, ?_⟩
      · rw [decls]
        exact List.mem_append_right _ hfresh
      · rw [decls]
        exact Pool.link_table built.linked.apart hs
      · rw [decls]
        exact hfile

/-- A cached file that defines a name has the descriptor that is found for it. -/
theorem Built.find? (built : c.Built) (hf : file ∈ c.pool.files) {name : String}
    (defines : file.decl.Defines (withoutDot name)) :
    ∃ d ∈ file.descriptors, d.fullName = withoutDot name ∧ c.find? name = some d := by
  obtain ⟨x, hx, same⟩ := defines
  obtain ⟨context, links⟩ := built.linked.resolved hf
  obtain ⟨d, hd, link⟩ := exists_of_forall₂_left links hx
  have name : d.fullName = withoutDot name := link.fullName.trans same
  have mem : d ∈ c.pool.descriptors := List.mem_flatMap.2 ⟨file, hf, hd⟩
  exact ⟨d, hd, name, built.linked.find? built.sound.distinct mem name⟩

/-- What is found for a name is defined in a cached file. -/
theorem Built.defines (built : c.Built) {name : String} {d : Descriptor}
    (h : c.find? name = some d) : ∃ f ∈ c.decls, f.Defines (withoutDot name) := by
  obtain ⟨hd, same⟩ := Pool.find?_mem h
  obtain ⟨file, hf, hd⟩ := List.mem_flatMap.1 hd
  exact ⟨file.decl, List.mem_map_of_mem hf, same ▸ built.linked.declaration hf hd⟩

end Cache

/-- A file has the same descriptors in every pool that is linked at once from files among which the
part that it was linked against is closed. -/
theorem LinkedAgainst.find? {part whole : List FileDecl} {known : List Symbol} {file : File}
    (against : LinkedAgainst part known file) (h : Part part whole)
    (encloses : Encloses part whole) {pool : Pool} (linked : Pool.empty.link whole = .ok pool)
    {d : Descriptor} (hd : d ∈ file.descriptors) {name : String}
    (same : d.fullName = withoutDot name) : pool.find? name = some d := by
  have hpool : pool.Linked := .link .empty linked
  have decls : pool.decls = whole := Pool.link_decls linked
  obtain ⟨known', files, hs, hl, rfl⟩ := Pool.link_eq_ok.1 linked
  have table : Table (symbolsOfFiles whole) known' := Pool.link_table .nil hs
  obtain ⟨file', hf', hfile'⟩ := exists_of_forall₂_left hl (h.subset against.mem)
  rw [h.descriptors encloses against.table table against.mem against.linked hfile'] at hd
  refine hpool.find? (decls ▸ h.distinct) (List.mem_flatMap.2 ⟨file', ?_, hd⟩) same
  exact List.mem_append_right _ hf'

end DynamicRpc.Reflection
