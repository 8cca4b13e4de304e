import DynamicRpc.Proofs.Reflection.ImportCycles
import Mathlib.Data.String.Basic
import Mathlib.Order.Bounds.Basic

/-!
Which file a refusal for a cycle names. It is the first in the order of names of all files that the
sweep leaves over. Those on a cycle are among them, but so are those that only lead to one, so the
file that is named need not be on a cycle itself.
-/
namespace DynamicRpc.Reflection

open Schema Relation Sweep

variable {files : List FileDecl} {path : String}

/-! The least of some names -/

theorem isLeast_foldl (n : String) (rest : List String) :
    IsLeast {a | a ∈ n :: rest} (rest.foldl (fun a b => if b < a then b else a) n) := by
  induction rest generalizing n with
  | nil => simp
  | cons m rest ih =>
    obtain ⟨mem, least⟩ := ih (if m < n then m else n)
    refine ⟨?_, ?_⟩
    · rcases List.mem_cons.1 mem with same | mem
      · rw [List.foldl_cons, same]
        split <;> simp
      · exact List.mem_cons_of_mem _ (List.mem_cons_of_mem _ mem)
    · intro a ha
      rcases List.mem_cons.1 ha with rfl | ha
      · refine (least List.mem_cons_self).trans ?_
        split
        next less => exact less.le
        next => exact le_rfl
      · rcases List.mem_cons.1 ha with rfl | ha
        · refine (least List.mem_cons_self).trans ?_
          split
          next => exact le_rfl
          next le => exact not_lt.1 le
        · exact least (List.mem_cons_of_mem _ ha)

theorem leastName?_eq_some {names : List String} :
    leastName? names = some path ↔ IsLeast {a | a ∈ names} path := by
  cases names with
  | nil => simp [leastName?, IsLeast]
  | cons n rest =>
    rw [leastName?, Option.some.injEq]
    constructor
    · rintro rfl
      exact isLeast_foldl n rest
    · exact (isLeast_foldl n rest).unique

/-- The sweep answers with the least of the files that are stuck. -/
theorem cycle?_eq_some (distinct : (files.map (·.path)).Nodup) :
    cycle? files = some path ↔ IsLeast {a | Stuck files a} path := by
  have left : {a | a ∈ (run files files.length (start files)).names} = {a | Stuck files a} :=
    Set.ext fun a => mem_names_run distinct
  rw [cycle?, leastName?_eq_some, ← left]
  rfl

/-- The order of the files does not matter to the sweep. -/
theorem cycle?_perm {files' : List FileDecl} (distinct : (files.map (·.path)).Nodup)
    (order : files.Perm files') : cycle? files = cycle? files' := by
  have same : {a | Stuck files a} = {a | Stuck files' a} :=
    Set.ext fun a => ⟨Stuck.mono order.subset, Stuck.mono order.symm.subset⟩
  refine Option.ext fun path => ?_
  rw [cycle?_eq_some distinct, cycle?_eq_some ((order.map _).nodup_iff.1 distinct), same]

namespace Cache

variable {c : Cache} {o : LinkOrder} {batch : List FileDecl}

/-- An insertion that is refused for a cycle names what the sweep answers with. -/
theorem insert_eq_importCycle {file : String} :
    c.insert o batch = (.error (.importCycle file), c) ↔
      (∀ f ∈ batch, f.name ≠ none) ∧ c.missing (c.fresh o batch) = [] ∧
        cycle? (c.fresh o batch) = some file := by
  constructor
  · intro h
    have x := insertion_of_insert h
    cases x with
    | importCycle named closed _ cycle => exact ⟨named, closed, cycle⟩
  · rintro ⟨named, closed, cycle⟩
    exact insert_of_cycle named closed cycle

/-- A batch is refused for a cycle if and only if all its files are named, none of its new files
misses an import, and one of them cannot be finished after all its imports; then the first of those
in the order of names is given. All of them are new files of the batch. -/
theorem cycle_is_reported_for_the_least_stuck_file (c : Cache) (o : LinkOrder)
    (batch : List FileDecl) (file : String) :
    (c.insert o batch = (.error (.importCycle file), c) ↔
      (∀ f ∈ batch, f.name ≠ none) ∧ c.missing (c.fresh o batch) = [] ∧
        IsLeast {path | Stuck (c.fresh o batch) path} file) ∧
    ∀ path, Stuck (c.fresh o batch) path → path ∈ batch.map (·.path) ∧ ¬ c.contains path := by
  refine ⟨?_, fun path stuck => ?_⟩
  · rw [insert_eq_importCycle, cycle?_eq_some nodup_fresh]
  · rw [contains_iff]
    exact mem_paths_fresh.1 stuck.importer

/-! A file beside a cycle -/

/-- The file that a refusal names is on a cycle of the new files. -/
def BlamesCycles (c : Cache) (o : LinkOrder) (batch : List FileDecl) : Prop :=
  ∀ file, c.insert o batch = (.error (.importCycle file), c) →
    file ∈ batch.map (·.path) ∧ TransGen (Imports (c.fresh o batch)) file file

/-- A file that imports itself, and another that imports it. -/
def leading : List FileDecl := [bareFile "a.proto" ["b.proto"], bareFile "b.proto" ["b.proto"]]

/-- The file that is named imports one on a cycle, and nothing imports it. -/
theorem leading_file_takes_the_blame : ¬ Cache.empty.BlamesCycles .asGiven leading := by
  intro h
  have refused : Cache.empty.insert .asGiven leading = (.error (.importCycle "a.proto"), .empty) :=
    insert_eq_importCycle.2 ⟨by decide, by decide, by decide⟩
  obtain ⟨_, _, last⟩ := TransGen.tail'_iff.1 (h _ refused).2
  obtain ⟨f, hf, _, ha⟩ := last
  have none : ∀ f ∈ leading, "a.proto" ∉ f.imports := by decide
  exact none f (mem_fresh hf).1 ha

end Cache

end DynamicRpc.Reflection
