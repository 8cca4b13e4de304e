import DynamicRpc.Proofs.Reflection.Insertion

/-!
When a batch is refused for a cycle. The sweep over the new files ends with none ready and lowers no
count below zero. What it leaves over are the files that wait for a cycle or for a file that lists
another twice: the count of such a file is lowered once for both places, so it never gets ready, and
the batch is refused as if there were a cycle.
-/
namespace DynamicRpc.Reflection

open Schema Relation

namespace Sweep

variable {files : List FileDecl} {s : Sweep} {n count : Nat}

/-- The states of a sweep, with how many files are finished. -/
inductive Reached (files : List FileDecl) : Nat → Sweep → Prop where
  | start : Reached files 0 (start files)
  | finish (n : Nat) (s : Sweep) (finished : String) (ready : List String) (h : Reached files n s)
    (next : s.ready = finished :: ready) :
    Reached files (n + 1) (finish files finished (s.without finished ready))

theorem Reached.fits (distinct : (files.map (·.path)).Nodup) (h : Reached files n s) :
    Fits files s := by
  induction h with
  | start => exact .start distinct
  | finish n s finished ready h next ih => exact ih.finish distinct next

/-- Every finished file leaves one less to finish. -/
theorem Reached.length_le (distinct : (files.map (·.path)).Nodup) (h : Reached files n s) :
    n + s.names.length ≤ files.length := by
  induction h with
  | start => rw [names_start, List.length_map, Nat.zero_add]
  | finish n s finished ready h next ih =>
    have fewer := (h.fits distinct).length_without_lt next
    rw [names_finish distinct]
    omega

theorem exists_reached_run (files : List FileDecl) (fuel : Nat) :
    ∃ n, Reached files n (run files fuel (.start files)) := by
  refine run_keeps (P := fun s => ∃ n, Reached files n s) (fun s finished ready hs next => ?_) fuel
    ⟨0, .start⟩
  obtain ⟨n, h⟩ := hs
  exact ⟨n + 1, .finish n s finished ready h next⟩

/-- The count of a file at the moment when it is lowered: a file is finished, the importers before
this one have been relieved of it, and now it is this one's turn. -/
inductive Lowers (files : List FileDecl) (s : Sweep) : Nat → Prop where
  | mk (finished : String) (ready : List String) (before : List FileDecl) (f : FileDecl)
    (after : List FileDecl) (count : Nat) (next : s.ready = finished :: ready)
    (split : files = before ++ f :: after) (imports : finished ∈ f.imports)
    (holds : (f.path, count) ∈ (finish before finished (s.without finished ready)).pending) :
    Lowers files s count

/-- A count that is lowered is above zero: the finished file is one of those it stands for. -/
theorem Fits.pos_of_lowers (distinct : (files.map (·.path)).Nodup) (fits : Fits files s)
    (x : Lowers files s count) : 0 < count := by
  obtain ⟨finished, ready, before, f, after, count, next, rfl, imports, holds⟩ := x
  rw [List.map_append, List.nodup_append] at distinct
  obtain ⟨distinct, _, apart⟩ := distinct
  have hf : f ∈ before ++ f :: after := List.mem_append_right _ List.mem_cons_self
  have waits : finished ∈ s.names := fits.waits (next ▸ List.mem_cons_self)
  -- The file itself is not among those before it, so its count is what it was.
  have none : ¬ Imports before f.path finished :=
    fun x => apart _ x.importer f.path (by simp) rfl
  obtain ⟨_, m, hm, rfl⟩ := (mem_pending_finish distinct).1 holds
  rw [if_neg none]
  have some : 0 < (blockers s.names f).card :=
    Finset.card_pos.2 ⟨finished, mem_blockers.2 ⟨imports, waits⟩⟩
  exact some.trans_le (fits.bound f hf m hm)

end Sweep

open Sweep

namespace Cache

variable {c : Cache} {o : LinkOrder} {batch : List FileDecl}

/-- A batch is refused for a cycle exactly where the sweep leaves files over. -/
theorem importCycle_iff (named : ∀ f ∈ batch, f.name ≠ none)
    (closed : c.missing (c.fresh o batch) = []) :
    (∃ file, c.insert o batch = (.error (.importCycle file), c)) ↔
      cycle? (c.fresh o batch) ≠ none := by
  constructor
  · rintro ⟨file, h⟩
    have x := insertion_of_insert h
    cases x with
    | importCycle _ _ _ cycle => simp [cycle]
  · intro left
    obtain ⟨file, cycle⟩ := Option.ne_none_iff_exists'.1 left
    exact ⟨file, insert_of_cycle named closed cycle⟩

/-- A batch of named files that finds its imports in the cache or in itself is refused for a cycle
if and only if the imports among its new files form one, or one of them lists another twice. The
sweep that decides this ends with no file ready, after finishing each file at most once, and on its
way lowers no count that is zero. -/
theorem cycle_or_repetition_is_refused (named : ∀ f ∈ batch, f.name ≠ none)
    (provided : ∀ f ∈ batch, ∀ d ∈ f.imports, c.contains d ∨ d ∈ batch.map (·.path)) :
    ((∃ file, c.insert o batch = (.error (.importCycle file), c)) ↔
      (∃ a, TransGen (Imports (c.fresh o batch)) a a) ∨ Repeats (c.fresh o batch)) ∧
    (∃ n, Reached (c.fresh o batch) n
      (run (c.fresh o batch) (c.fresh o batch).length (.start (c.fresh o batch)))) ∧
    (run (c.fresh o batch) (c.fresh o batch).length (.start (c.fresh o batch))).ready = [] ∧
    ∀ n s, Reached (c.fresh o batch) n s → n ≤ (c.fresh o batch).length ∧
      ∀ count, Lowers (c.fresh o batch) s count → 0 < count := by
  have closed : c.missing (c.fresh o batch) = [] := by
    refine missing_fresh (missing_eq_nil.2 fun f hf _ d hd => ?_)
    rw [List.map_append, List.mem_append, ← contains_iff]
    exact provided f hf d hd
  have distinct : ((c.fresh o batch).map (·.path)).Nodup := nodup_fresh
  refine ⟨?_, exists_reached_run _ _, ?_, fun n s h => ⟨?_, fun count => ?_⟩⟩
  · rw [importCycle_iff named closed, Ne, cycle?_eq_none_iff distinct, not_and_not_right]
    constructor
    · intro h
      by_cases acyclic : ∃ a, TransGen (Imports (c.fresh o batch)) a a
      · exact .inl acyclic
      · exact .inr (h fun a x => acyclic ⟨a, x⟩)
    · intro h acyclic
      exact h.resolve_left fun ⟨a, x⟩ => acyclic a x
  · refine (Fits.start distinct).run_ready distinct ?_
    rw [names_start, List.length_map]
  · have := h.length_le distinct
    omega
  · exact (h.fits distinct).pos_of_lowers distinct

/-! Small batches -/

/-- A file without definitions. -/
def bareFile (path : String) (imports : List String) : FileDecl :=
  ⟨some path, "", imports, [], [], [], [], [], "proto3"⟩

/-- A file that imports itself is refused behind one that does not. -/
theorem own_import_is_refused : ∃ file, Cache.empty.insert .asGiven
    [bareFile "a.proto" [], bareFile "b.proto" ["a.proto", "b.proto"]] =
      (.error (.importCycle file), .empty) := by
  refine (cycle_or_repetition_is_refused (by decide) (by decide)).1.2 (.inl ⟨"b.proto", ?_⟩)
  exact .single (by decide)

/-- A batch is refused for a cycle if and only if there is one. -/
def RefusesCycles (c : Cache) (o : LinkOrder) (batch : List FileDecl) : Prop :=
  (∃ file, c.insert o batch = (.error (.importCycle file), c)) ↔
    ∃ a, TransGen (Imports (c.fresh o batch)) a a

/-- A file that lists another twice, and that other. -/
def repeating : List FileDecl := [bareFile "a.proto" ["b.proto", "b.proto"], bareFile "b.proto" []]

/-- A file with two imports of one name is refused for a cycle, though nothing that it imports
imports anything. -/
theorem repetition_passes_for_a_cycle : ¬ Cache.empty.RefusesCycles .asGiven repeating := by
  intro h
  have refused : ∃ file, Cache.empty.insert .asGiven repeating =
      (.error (.importCycle file), .empty) :=
    (importCycle_iff (by decide) (by decide)).2 (by decide)
  obtain ⟨a, x⟩ := h.1 refused
  have only : ∀ {a b}, Imports (Cache.empty.fresh .asGiven repeating) a b →
      a = "a.proto" ∧ b = "b.proto" := by
    rintro _ b ⟨f, hf, rfl, hb⟩
    rcases List.mem_cons.1 (mem_fresh hf).1 with rfl | hf
    · exact ⟨rfl, by simpa [bareFile] using hb⟩
    · obtain rfl := List.mem_singleton.1 hf
      cases hb
  obtain ⟨_, first, _⟩ := TransGen.head'_iff.1 x
  obtain ⟨_, _, last⟩ := TransGen.tail'_iff.1 x
  exact absurd ((only first).1.symm.trans (only last).2) (by decide)

end Cache

end DynamicRpc.Reflection
