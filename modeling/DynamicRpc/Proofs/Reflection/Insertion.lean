import DynamicRpc.Proofs.Reflection.Sweep
import DynamicRpc.Proofs.Schema.Linking
import Mathlib.Data.List.Find

/-!
How inserting a batch can end. The relation here lists all endings with what each says of the
batch; the new files of a batch are those that a cache adds, and their names are all different. The
order in which they are linked is any; whatever holds of them holds in each.
-/
namespace DynamicRpc.Reflection

open Schema

namespace Cache

variable {c : Cache} {o : LinkOrder} {batch : List FileDecl} {f : FileDecl} {path : String}

/-- The declarations that are cached. -/
def decls (c : Cache) : List FileDecl := c.pool.decls

theorem contains_iff : c.contains path ↔ path ∈ c.decls.map (·.path) :=
  Pool.contains_iff

/-! The first files of new names -/

theorem firsts_concat : c.firsts (batch ++ [f]) =
    if c.contains f.path || (c.firsts batch).any (·.path = f.path) then c.firsts batch
    else c.firsts batch ++ [f] := by
  simp [firsts]

theorem mem_firsts (h : f ∈ c.firsts batch) : f ∈ batch ∧ f.path ∉ c.decls.map (·.path) := by
  induction batch using List.reverseRecOn with
  | nil => simp [firsts] at h
  | append_singleton batch g ih =>
    rw [firsts_concat] at h
    split at h
    next =>
      obtain ⟨mem, absent⟩ := ih h
      exact ⟨List.mem_append_left _ mem, absent⟩
    next new =>
      rcases List.mem_append.1 h with h | h
      · obtain ⟨mem, absent⟩ := ih h
        exact ⟨List.mem_append_left _ mem, absent⟩
      · obtain rfl := List.mem_singleton.1 h
        rw [Bool.or_eq_true, not_or, contains_iff] at new
        exact ⟨by simp, new.1⟩

theorem nodup_firsts : ((c.firsts batch).map (·.path)).Nodup := by
  induction batch using List.reverseRecOn with
  | nil => simp [firsts]
  | append_singleton batch g ih =>
    rw [firsts_concat]
    split
    next => exact ih
    next new =>
      simp only [Bool.or_eq_true, not_or, List.any_eq_true, decide_eq_true_eq] at new
      rw [List.map_append, List.nodup_append]
      refine ⟨ih, by simp, ?_⟩
      intro a ha b hb same
      obtain ⟨f, hf, rfl⟩ := List.mem_map.1 ha
      exact new.2 ⟨f, hf, same.trans (by simpa using hb)⟩

theorem path_mem_firsts (h : f ∈ batch) (absent : f.path ∉ c.decls.map (·.path)) :
    f.path ∈ (c.firsts batch).map (·.path) := by
  induction batch using List.reverseRecOn with
  | nil => simp at h
  | append_singleton batch g ih =>
    rw [firsts_concat]
    rcases List.mem_append.1 h with h | h
    · split
      · exact ih h
      · rw [List.map_append]
        exact List.mem_append_left _ (ih h)
    · obtain rfl := List.mem_singleton.1 h
      split
      next old =>
        rw [Bool.or_eq_true, contains_iff] at old
        obtain ⟨g, hg, same⟩ := List.any_eq_true.1 (old.resolve_left absent)
        exact List.mem_map.2 ⟨g, hg, by simpa using same⟩
      next => simp

theorem find?_firsts (absent : path ∉ c.decls.map (·.path)) :
    (c.firsts batch).find? (·.path = path) = batch.find? (·.path = path) := by
  induction batch using List.reverseRecOn with
  | nil => rfl
  | append_singleton batch g ih =>
    rw [firsts_concat, List.find?_append, ← ih]
    by_cases hg : g.path = path
    · subst hg
      have new : c.contains g.path = false := Bool.eq_false_iff.2 fun h => absent (contains_iff.1 h)
      rw [new, Bool.false_or]
      split
      next old =>
        exact (Option.or_of_isSome (List.find?_isSome.2 (List.any_eq_true.1 old))).symm
      next => rw [List.find?_append]
    · have other : [g].find? (·.path = path) = none := by simp [hg]
      rw [other, Option.or_none]
      split
      next => rfl
      next => rw [List.find?_append, other, Option.or_none]

/-! New files -/

theorem fresh_perm_firsts (c : Cache) (o : LinkOrder) (batch : List FileDecl) :
    (c.fresh o batch).Perm (c.firsts batch) := o.perm _

/-- A new file is one of the batch that was not cached. -/
theorem mem_fresh (h : f ∈ c.fresh o batch) : f ∈ batch ∧ f.path ∉ c.decls.map (·.path) :=
  mem_firsts ((c.fresh_perm_firsts o batch).mem_iff.1 h)

/-- No two new files have the same name. -/
theorem nodup_fresh : ((c.fresh o batch).map (·.path)).Nodup :=
  ((c.fresh_perm_firsts o batch).map _).nodup_iff.2 nodup_firsts

/-- Every name of a batch is cached or that of a new file. -/
theorem path_mem_fresh (h : f ∈ batch) (absent : f.path ∉ c.decls.map (·.path)) :
    f.path ∈ (c.fresh o batch).map (·.path) :=
  ((c.fresh_perm_firsts o batch).map _).mem_iff.2 (path_mem_firsts h absent)

theorem mem_paths_fresh : path ∈ (c.fresh o batch).map (·.path) ↔
    path ∈ batch.map (·.path) ∧ path ∉ c.decls.map (·.path) := by
  constructor
  · intro h
    obtain ⟨f, hf, rfl⟩ := List.mem_map.1 h
    exact ⟨List.mem_map_of_mem (mem_fresh hf).1, (mem_fresh hf).2⟩
  · rintro ⟨h, absent⟩
    obtain ⟨f, hf, rfl⟩ := List.mem_map.1 h
    exact path_mem_fresh hf absent

/-- Of several files with a new name the first one is taken. -/
theorem find?_fresh (absent : path ∉ c.decls.map (·.path)) :
    (c.fresh o batch).find? (·.path = path) = batch.find? (·.path = path) := by
  rw [List.find?_eq_find?_of_perm (c.fresh_perm_firsts o batch), find?_firsts absent]
  rintro f ⟨hf, named⟩ g ⟨hg, named'⟩
  refine List.inj_on_of_nodup_map nodup_fresh hf hg ?_
  exact (of_decide_eq_true named).trans (of_decide_eq_true named').symm

/-! Missing imports -/

/-- A cache that holds a name says so. -/
theorem not_contains_iff : (!c.contains path) = true ↔ path ∉ c.decls.map (·.path) := by
  rw [Bool.not_eq_true', ← Bool.not_eq_true, contains_iff]

theorem mem_missing {d : String} : (path, d) ∈ c.missing batch ↔
    Imports batch path d ∧ path ∉ c.decls.map (·.path) ∧ d ∉ batch.map (·.path) ∧
      d ∉ c.decls.map (·.path) := by
  simp only [missing, List.mem_flatMap, List.mem_map, List.mem_filter, Bool.and_eq_true,
    not_contains_iff, Prod.mk.injEq]
  constructor
  · rintro ⟨f, ⟨hf, new⟩, d, ⟨hd, absent, unknown⟩, rfl, rfl⟩
    exact ⟨⟨f, hf, rfl, hd⟩, new, by simpa using absent, unknown⟩
  · rintro ⟨⟨f, hf, rfl, hd⟩, new, absent, unknown⟩
    exact ⟨f, ⟨hf, new⟩, d, ⟨hd, by simpa using absent, unknown⟩, rfl, rfl⟩

/-- Nothing is missing when each new file finds its imports in the batch or in the cache. -/
theorem missing_eq_nil : c.missing batch = [] ↔ ∀ f ∈ batch, f.path ∉ c.decls.map (·.path) →
    ∀ d ∈ f.imports, d ∈ (c.decls ++ batch).map (·.path) := by
  rw [List.eq_nil_iff_forall_not_mem]
  constructor
  · intro none f hf new d hd
    by_contra absent
    rw [List.map_append, List.mem_append, not_or] at absent
    exact none (f.path, d) (mem_missing.2 ⟨⟨f, hf, rfl, hd⟩, new, absent.2, absent.1⟩)
  · rintro closed ⟨path, d⟩ h
    obtain ⟨⟨f, hf, rfl, hd⟩, new, absent, unknown⟩ := mem_missing.1 h
    have known := closed f hf new d hd
    rw [List.map_append, List.mem_append] at known
    exact known.elim unknown absent

/-- A batch that misses nothing misses nothing once it is reduced to its new files. -/
theorem missing_fresh (none : c.missing batch = []) : c.missing (c.fresh o batch) = [] := by
  rw [missing_eq_nil] at none ⊢
  intro f hf new d hd
  have known := none f (mem_fresh hf).1 new d hd
  rw [List.map_append, List.mem_append] at known ⊢
  by_cases cached : d ∈ c.decls.map (·.path)
  · exact .inl cached
  · obtain ⟨g, hg, rfl⟩ := List.mem_map.1 (known.resolve_left cached)
    exact .inr (path_mem_fresh hg cached)

/-! Endings -/

/-- A cache is its linked files with their extensions by number. -/
def ofPool (p : Pool) : Cache := ⟨p, .ofPool p⟩

@[simp] theorem ofPool_pool (p : Pool) : (ofPool p).pool = p := rfl

/-- The endings of an insertion. -/
inductive Insertion (c : Cache) (o : LinkOrder) (batch : List FileDecl) :
    Except InsertError Nat × Cache → Prop where
  | unnamed (f : FileDecl) (hf : f ∈ batch) (none : f.name = none) :
    Insertion c o batch (.error .unnamedFile, c)
  | nothingNew (named : ∀ f ∈ batch, f.name ≠ none) (none : c.fresh o batch = []) :
    Insertion c o batch (.ok 0, c)
  | missingImport (named : ∀ f ∈ batch, f.name ≠ none) (file dependency : String)
    (mem : (file, dependency) ∈ c.missing (c.fresh o batch)) :
    Insertion c o batch (.error (.missingImport file dependency), c)
  | importCycle (named : ∀ f ∈ batch, f.name ≠ none) (closed : c.missing (c.fresh o batch) = [])
    (file : String) (cycle : cycle? (c.fresh o batch) = some file) :
    Insertion c o batch (.error (.importCycle file), c)
  | unlinked (named : ∀ f ∈ batch, f.name ≠ none) (closed : c.missing (c.fresh o batch) = [])
    (acyclic : cycle? (c.fresh o batch) = none) (e : LinkError)
    (failed : c.pool.link (c.fresh o batch) = .error e) : Insertion c o batch (.error (.link e), c)
  | linked (named : ∀ f ∈ batch, f.name ≠ none) (closed : c.missing (c.fresh o batch) = [])
    (acyclic : cycle? (c.fresh o batch) = none) (pool : Pool)
    (linked : c.pool.link (c.fresh o batch) = .ok pool) :
    Insertion c o batch (.ok (c.fresh o batch).length, ofPool pool)

theorem insert_cases (c : Cache) (o : LinkOrder) (batch : List FileDecl) :
    Insertion c o batch (c.insert o batch) := by
  unfold insert
  split
  next unnamed =>
    obtain ⟨f, hf, none⟩ := List.any_eq_true.1 unnamed
    exact .unnamed f hf (by simpa using none)
  next all =>
    have named : ∀ f ∈ batch, f.name ≠ none := by
      intro f hf none
      exact all (List.any_eq_true.2 ⟨f, hf, by simp [none]⟩)
    dsimp only
    split
    next none => exact .nothingNew named (by simpa using none)
    next =>
      split
      next file dependency rest missing =>
        exact .missingImport named file dependency (missing ▸ List.mem_cons_self)
      next closed =>
        split
        next file cycle => exact .importCycle named closed file cycle
        next acyclic =>
          split
          next e failed => exact .unlinked named closed acyclic e failed
          next pool linked => exact .linked named closed acyclic pool linked

/-- An insertion that ended in some way ended in one of these. -/
theorem insertion_of_insert {x : Except InsertError Nat × Cache} (h : c.insert o batch = x) :
    Insertion c o batch x := h ▸ c.insert_cases o batch

/-- A batch that is refused leaves the cache as it was, its files and its extensions. -/
theorem cache_of_refused {c' : Cache} {e : InsertError} (h : c.insert o batch = (.error e, c')) :
    c' = c := by
  cases insertion_of_insert h <;> rfl

/-- A file without a name refuses a batch whatever else is wrong with it. -/
theorem insert_of_unnamed (hf : f ∈ batch) (none : f.name = none) :
    c.insert o batch = (.error .unnamedFile, c) := by
  unfold insert
  rw [if_pos (List.any_eq_true.2 ⟨f, hf, by simp [none]⟩)]

theorem link_nil (p : Pool) : p.link [] = .ok p := by
  change Except.ok (⟨p.files ++ []⟩ : Pool) = .ok p
  rw [List.append_nil]

section

variable (named : ∀ f ∈ batch, f.name ≠ none)

include named

theorem not_any_unnamed : ¬ batch.any (·.name.isNone) := by
  rw [List.any_eq_true]
  rintro ⟨f, hf, none⟩
  exact named f hf (by simpa using none)

theorem insert_of_nothing_new (none : c.fresh o batch = []) : c.insert o batch = (.ok 0, c) := by
  unfold insert
  rw [if_neg (not_any_unnamed named)]
  exact if_pos (by simpa using none)

/-- The checks of a batch with named files of which some are new. -/
theorem insert_of_new (new : c.fresh o batch ≠ []) : c.insert o batch =
    match c.missing (c.fresh o batch) with
    | (file, dependency) :: _ => (.error (.missingImport file dependency), c)
    | [] =>
      match cycle? (c.fresh o batch) with
      | some file => (.error (.importCycle file), c)
      | none =>
        match c.pool.link (c.fresh o batch) with
        | .error e => (.error (.link e), c)
        | .ok pool => (.ok (c.fresh o batch).length, ofPool pool) := by
  unfold insert
  rw [if_neg (not_any_unnamed named)]
  exact if_neg (by simpa using new)

theorem insert_of_missing (missing : c.missing (c.fresh o batch) ≠ []) :
    ∃ file dependency, c.insert o batch = (.error (.missingImport file dependency), c) := by
  have new : c.fresh o batch ≠ [] := fun none => missing (by rw [none]; rfl)
  obtain ⟨⟨file, dependency⟩, rest, first⟩ := List.exists_cons_of_ne_nil missing
  exact ⟨file, dependency, by rw [insert_of_new named new, first]⟩

variable (closed : c.missing (c.fresh o batch) = [])

include closed

theorem insert_of_cycle {file : String} (cycle : cycle? (c.fresh o batch) = some file) :
    c.insert o batch = (.error (.importCycle file), c) := by
  have new : c.fresh o batch ≠ [] := by
    intro none
    rw [none] at cycle
    cases cycle
  rw [insert_of_new named new, closed, cycle]

theorem insert_of_unlinked (acyclic : cycle? (c.fresh o batch) = none) {e : LinkError}
    (failed : c.pool.link (c.fresh o batch) = .error e) :
    c.insert o batch = (.error (.link e), c) := by
  have new : c.fresh o batch ≠ [] := by
    intro none
    rw [none, link_nil] at failed
    cases failed
  rw [insert_of_new named new, closed, acyclic, failed]

end

/-! Insertions that are taken -/

variable {c' : Cache} {n : Nat}

/-- The extensions of a cache are those of its files. -/
def Indexed (c : Cache) : Prop := c.extensions = .ofPool c.pool

theorem Indexed.eq_ofPool (indexed : c.Indexed) : ofPool c.pool = c := by
  rw [ofPool, ← indexed]

/-- A batch that is taken passes all checks and links. -/
theorem checks_of_insert (h : c.insert o batch = (.ok n, c')) :
    (∀ f ∈ batch, f.name ≠ none) ∧ c.missing (c.fresh o batch) = [] ∧
      cycle? (c.fresh o batch) = none ∧ c.pool.link (c.fresh o batch) = .ok c'.pool ∧
        n = (c.fresh o batch).length := by
  cases insertion_of_insert h with
  | nothingNew named none =>
    rw [none]
    exact ⟨named, rfl, rfl, link_nil _, rfl⟩
  | linked named closed acyclic pool linked => exact ⟨named, closed, acyclic, linked, rfl⟩

theorem Indexed.insert (indexed : c.Indexed) (h : c.insert o batch = (.ok n, c')) : c'.Indexed := by
  cases insertion_of_insert h with
  | nothingNew => exact indexed
  | linked => rfl

/-- A batch that passes all checks and links is taken. -/
theorem Indexed.insert_of_linked (indexed : c.Indexed) (named : ∀ f ∈ batch, f.name ≠ none)
    (closed : c.missing (c.fresh o batch) = []) (acyclic : cycle? (c.fresh o batch) = none)
    {pool : Pool} (linked : c.pool.link (c.fresh o batch) = .ok pool) :
    c.insert o batch = (.ok (c.fresh o batch).length, ofPool pool) := by
  by_cases none : c.fresh o batch = []
  · rw [none, link_nil] at linked
    cases linked
    rw [insert_of_nothing_new named none, none, indexed.eq_ofPool]
    rfl
  · rw [insert_of_new named none, closed, acyclic, linked]

/-- A batch that was inserted adds its new files, which is to say nothing when there are none. -/
theorem decls_insert (h : c.insert o batch = (.ok n, c')) :
    c'.decls = c.decls ++ c.fresh o batch := by
  obtain ⟨_, _, _, linked, _⟩ := checks_of_insert h
  exact Pool.link_decls linked

end Cache

end DynamicRpc.Reflection
