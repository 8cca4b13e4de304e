import DynamicRpc.Schema.Declaration
import Mathlib.Data.List.Nodup
import Mathlib.Data.Set.Finite.Basic
import Mathlib.Logic.Relation

/-!
The import graph of a list of files. Imports are names; a file that is not in the list imports
nothing. A cycle cannot cross from files that import only each other to files with other names.
-/
namespace DynamicRpc.Schema

open Relation

variable {files old new : List FileDecl} {a b : String}

/-- A file of the list with the first name imports the second. -/
def Imports (files : List FileDecl) (a b : String) : Prop :=
  ∃ f ∈ files, f.path = a ∧ b ∈ f.imports

instance : Decidable (Imports files a b) :=
  inferInstanceAs (Decidable (∃ f ∈ files, f.path = a ∧ b ∈ f.imports))

/-- Files that bring all their imports along. -/
def Closed (files : List FileDecl) : Prop :=
  ∀ f ∈ files, ∀ d ∈ f.imports, d ∈ files.map (·.path)

instance : Decidable (Closed files) :=
  inferInstanceAs (Decidable (∀ f ∈ files, ∀ d ∈ f.imports, d ∈ files.map (·.path)))

/-- No file imports itself, also not through others. -/
def Acyclic (files : List FileDecl) : Prop := ∀ a, ¬ TransGen (Imports files) a a

theorem Imports.mono (h : old ⊆ new) (x : Imports old a b) : Imports new a b := by
  obtain ⟨f, hf, rfl, hb⟩ := x
  exact ⟨f, h hf, rfl, hb⟩

theorem imports_append : Imports (old ++ new) a b ↔ Imports old a b ∨ Imports new a b := by
  simp only [Imports, List.mem_append, or_and_right, exists_or]

@[simp] theorem not_imports_nil : ¬ Imports [] a b := by
  simp [Imports]

theorem imports_cons {f : FileDecl} :
    Imports (f :: files) a b ↔ f.path = a ∧ b ∈ f.imports ∨ Imports files a b := by
  simp [Imports]

/-- Where names tell files apart, a file is the only one that imports under its name. -/
theorem imports_of_mem (distinct : (files.map (·.path)).Nodup) {f : FileDecl} (hf : f ∈ files) :
    Imports files f.path b ↔ b ∈ f.imports := by
  constructor
  · rintro ⟨g, hg, same, hb⟩
    rwa [List.inj_on_of_nodup_map distinct hg hf same] at hb
  · intro hb
    exact ⟨f, hf, rfl, hb⟩

theorem Imports.importer (x : Imports files a b) : a ∈ files.map (·.path) := by
  obtain ⟨f, hf, rfl, _⟩ := x
  exact List.mem_map_of_mem hf

/-- A chain of imports starts at a file. -/
theorem importer_of_transGen (x : TransGen (Imports files) a b) : a ∈ files.map (·.path) := by
  obtain ⟨m, first, _⟩ := TransGen.head'_iff.1 x
  exact first.importer

theorem Acyclic.subset (h : Acyclic new) (sub : old ⊆ new) : Acyclic old := by
  intro a x
  exact h a (TransGen.mono (fun _ _ => Imports.mono sub) a a x)

theorem acyclic_nil : Acyclic [] := by
  intro a x
  simpa using importer_of_transGen x

/-- Names that each import one of their own number hold a cycle. -/
theorem exists_cycle_of_closed {names : List String} (some : names ≠ [])
    (closed : ∀ a ∈ names, ∃ b ∈ names, Imports files a b) :
    ∃ a ∈ names, TransGen (Imports files) a a := by
  by_contra none
  let after (a b : {n // n ∈ names}) : Prop := TransGen (Imports files) b.1 a.1
  have : Finite {n // n ∈ names} := (List.finite_toSet names).to_subtype
  have : IsTrans _ after := ⟨fun _ _ _ x y => TransGen.trans y x⟩
  have : Std.Irrefl after := ⟨fun a x => none ⟨a.1, a.2, x⟩⟩
  obtain ⟨first, rest, rfl⟩ := List.exists_cons_of_ne_nil some
  -- Below each name there is another, which the induction along a finite order has ruled out.
  refine (Finite.wellFounded_of_trans_of_irrefl after).induction (C := fun _ => False)
    ⟨first, List.mem_cons_self⟩ ?_
  intro a ih
  obtain ⟨b, hb, step⟩ := closed a.1 a.2
  exact ih ⟨b, hb⟩ (.single step)

/-- A chain of imports that starts in a closed list stays in it. -/
theorem transGen_of_closed (closed : Closed old)
    (apart : ∀ f ∈ new, f.path ∉ old.map (·.path)) (ha : a ∈ old.map (·.path))
    (x : TransGen (Imports (old ++ new)) a b) :
    TransGen (Imports old) a b ∧ b ∈ old.map (·.path) := by
  have stay : ∀ {a b}, a ∈ old.map (·.path) → Imports (old ++ new) a b →
      Imports old a b ∧ b ∈ old.map (·.path) := by
    intro a b ha x
    rcases imports_append.1 x with x | ⟨f, hf, rfl, _⟩
    · obtain ⟨f, hf, rfl, hb⟩ := x
      exact ⟨⟨f, hf, rfl, hb⟩, closed f hf b hb⟩
    · exact absurd ha (apart f hf)
  induction x with
  | single x =>
    obtain ⟨x, hb⟩ := stay ha x
    exact ⟨.single x, hb⟩
  | tail _ x ih =>
    obtain ⟨before, hm⟩ := ih
    obtain ⟨x, hb⟩ := stay hm x
    exact ⟨before.tail x, hb⟩

/-- A chain of imports that ends outside a closed list never was in it. -/
theorem transGen_of_apart (closed : Closed old)
    (apart : ∀ f ∈ new, f.path ∉ old.map (·.path)) (hb : b ∉ old.map (·.path))
    (x : TransGen (Imports (old ++ new)) a b) : TransGen (Imports new) a b := by
  have outside : ∀ {a}, TransGen (Imports (old ++ new)) a b → a ∉ old.map (·.path) :=
    fun x ha => hb (transGen_of_closed closed apart ha x).2
  have leave : ∀ {a m}, a ∉ old.map (·.path) → Imports (old ++ new) a m → Imports new a m := by
    intro a m ha x
    exact (imports_append.1 x).resolve_left fun x => ha x.importer
  induction x using TransGen.head_induction_on with
  | single x => exact .single (leave (outside (.single x)) x)
  | head x rest ih => exact .head (leave (outside (rest.head x)) x) ih

/-- No cycle crosses the border between a closed list and files with other names. -/
theorem Acyclic.append (closed : Closed old)
    (apart : ∀ f ∈ new, f.path ∉ old.map (·.path)) (hold : Acyclic old) (hnew : Acyclic new) :
    Acyclic (old ++ new) := by
  intro a x
  by_cases ha : a ∈ old.map (·.path)
  · exact hold a (transGen_of_closed closed apart ha x).1
  · exact hnew a (transGen_of_apart closed apart ha x)

/-! Imports that are listed twice -/

/-- Some file lists one of the files twice. -/
def Repeats (files : List FileDecl) : Prop :=
  ∃ f ∈ files, ∃ d ∈ files.map (·.path), 2 ≤ f.imports.count d

variable {files : List FileDecl}

instance : Decidable (Repeats files) :=
  inferInstanceAs (Decidable (∃ f ∈ files, ∃ d ∈ files.map (·.path), 2 ≤ f.imports.count d))

theorem not_repeats_of_nodup (once : ∀ f ∈ files, f.imports.Nodup) : ¬ Repeats files := by
  rintro ⟨f, hf, d, _, twice⟩
  have := List.nodup_iff_count_le_one.1 (once f hf) d
  omega

/-- The files that cannot be finished after all their imports: those on a cycle and those that list
another file twice, and all that import one of them. -/
inductive Stuck (files : List FileDecl) : String → Prop where
  | cycle (path : String) (x : TransGen (Imports files) path path) : Stuck files path
  | twice (f : FileDecl) (hf : f ∈ files) (d : String) (hd : d ∈ files.map (·.path))
    (twice : 2 ≤ f.imports.count d) : Stuck files f.path
  | imports (path next : String) (x : Imports files path next) (rest : Stuck files next) :
    Stuck files path

variable {files : List FileDecl} {f : FileDecl} {path : String}

theorem Stuck.importer (h : Stuck files path) : path ∈ files.map (·.path) := by
  cases h with
  | cycle path x => exact importer_of_transGen x
  | twice f hf _ _ _ => exact List.mem_map_of_mem hf
  | imports path next x _ => exact x.importer

theorem exists_stuck_iff : (∃ path, Stuck files path) ↔ ¬ Acyclic files ∨ Repeats files := by
  constructor
  · rintro ⟨path, h⟩
    induction h with
    | cycle path x => exact .inl fun acyclic => acyclic path x
    | twice f hf d hd twice => exact .inr ⟨f, hf, d, hd, twice⟩
    | imports path next x rest ih => exact ih
  · rintro (cyclic | ⟨f, hf, d, hd, twice⟩)
    · simp only [Acyclic, not_forall, not_not] at cyclic
      obtain ⟨a, x⟩ := cyclic
      exact ⟨a, .cycle a x⟩
    · exact ⟨f.path, .twice f hf d hd twice⟩

/-- A file that is not stuck lists each file of the list once at most. -/
theorem nodup_of_not_stuck (free : ¬ Stuck files f.path) (hf : f ∈ files) :
    (f.imports.filter (files.map (·.path)).contains).Nodup := by
  refine List.nodup_iff_count_le_one.2 fun d => ?_
  by_contra twice
  have two : 2 ≤ (f.imports.filter (files.map (·.path)).contains).count d := by omega
  have mem : d ∈ f.imports.filter (files.map (·.path)).contains := List.count_pos_iff.1 (by omega)
  refine free (.twice f hf d (by simpa using (List.mem_filter.1 mem).2) ?_)
  exact two.trans (List.filter_sublist.count_le d)

/-- More files free none. -/
theorem Stuck.mono {files' : List FileDecl} (sub : files ⊆ files') (h : Stuck files path) :
    Stuck files' path := by
  induction h with
  | cycle path x => exact .cycle path (TransGen.mono (fun _ _ => Imports.mono sub) _ _ x)
  | twice f hf d hd twice => exact .twice f (sub hf) d (List.map_subset _ sub hd) twice
  | imports path next x _ ih => exact .imports path next (x.mono sub) ih

end DynamicRpc.Schema
