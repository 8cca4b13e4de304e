import DynamicRpc.Proofs.Schema.Imports
import DynamicRpc.Reflection.Cache
import Mathlib.Data.Finset.Card

/-!
The sweep finds cycles. While it runs, a file waits for at least as many files as it has different
imports that still wait, and exactly the files that wait for none are ready. So a file on a cycle
never gets ready, neither does one that lists another twice, and neither do the importers of such
files; all others get ready. The least of those that are left over is what the sweep answers with.
-/
namespace DynamicRpc.Reflection

open Schema Relation

namespace Sweep

variable {files : List FileDecl} {finished path : String} {s : Sweep}

/-- The files that still wait. -/
def names (s : Sweep) : List String := s.pending.map (·.1)

/-- The different imports of a file among some names. -/
def blockers (names : List String) (f : FileDecl) : Finset String :=
  f.imports.toFinset.filter (· ∈ names)

theorem mem_blockers {names : List String} {f : FileDecl} {d : String} :
    d ∈ blockers names f ↔ d ∈ f.imports ∧ d ∈ names := by
  simp [blockers]

/-! One file is finished -/

/-- What a file waits for once another is finished. -/
def relieved (files : List FileDecl) (finished : String) (p : String × Nat) : String × Nat :=
  (p.1, if Imports files p.1 finished then p.2 - 1 else p.2)

theorem mem_map_relieved {pending : List (String × Nat)} {p : String} {n : Nat} :
    (p, n) ∈ pending.map (relieved files finished) ↔
      ∃ m, (p, m) ∈ pending ∧ n = if Imports files p finished then m - 1 else m := by
  constructor
  · intro h
    obtain ⟨⟨q, m⟩, hm, same⟩ := List.mem_map.1 h
    obtain ⟨rfl, rfl⟩ := Prod.mk.inj same
    exact ⟨m, hm, rfl⟩
  · rintro ⟨m, hm, rfl⟩
    exact List.mem_map.2 ⟨_, hm, rfl⟩

theorem relieved_nil : relieved [] finished = id := by
  funext p
  simp [relieved]

theorem relieved_cons {f : FileDecl} (fresh : f.path ∉ files.map (·.path)) (p : String × Nat) :
    relieved (f :: files) finished p = relieved files finished (relieved [f] finished p) := by
  by_cases h : f.path = p.1
  · have none : ¬ Imports files p.1 finished := fun x => fresh (h ▸ x.importer)
    simp [relieved, imports_cons, none]
  · simp [relieved, imports_cons, h]

theorem lower_of_not_mem {pending : List (String × Nat)} (h : path ∉ pending.map (·.1)) :
    lower path pending = pending := by
  refine (List.map_congr_left fun p hp => ?_).trans (List.map_id pending)
  have ne : p.1 ≠ path := by
    rintro rfl
    exact h (List.mem_map_of_mem hp)
  rw [if_neg ne, id]

theorem release_pending (s : Sweep) (f : FileDecl) :
    (release finished s f).pending = s.pending.map (relieved [f] finished) := by
  by_cases h : finished ∈ f.imports
  · have lowered : lower f.path s.pending = s.pending.map (relieved [f] finished) := by
      refine List.map_congr_left fun p _ => ?_
      by_cases same : p.1 = f.path <;> simp [relieved, imports_cons, h, same, eq_comm]
    unfold release
    rw [if_pos (by simpa using h)]
    split
    next absent =>
      rw [← lowered, lower_of_not_mem]
      intro found
      obtain ⟨p, hp, same⟩ := List.mem_map.1 found
      simpa [same] using List.find?_eq_none.1 absent p hp
    next => exact lowered
  · have same : relieved [f] finished = id := by
      funext p
      simp [relieved, imports_cons, h]
    simp [release, h, same]

theorem names_release (s : Sweep) (f : FileDecl) : (release finished s f).names = s.names := by
  simp [names, release_pending, relieved, Function.comp_def]

/-- What a name waits for is told by the first entry, and there is no other. -/
theorem find?_pending (distinct : s.names.Nodup) {n : Nat} :
    s.pending.find? (·.1 = path) = some (path, n) ↔ (path, n) ∈ s.pending := by
  constructor
  · exact List.mem_of_find?_eq_some
  · intro h
    cases found : s.pending.find? (·.1 = path) with
    | none => simpa using List.find?_eq_none.1 found _ h
    | some p =>
      have same : p.1 = path := by simpa using List.find?_some found
      rw [List.inj_on_of_nodup_map distinct (List.mem_of_find?_eq_some found) h same]

/-- A file gets ready when it is relieved of the last file that it waits for. -/
theorem mem_ready_release (distinct : s.names.Nodup) {f : FileDecl} {p : String} :
    p ∈ (release finished s f).ready ↔
      p ∈ s.ready ∨ Imports [f] p finished ∧ ∃ n ≤ 1, (p, n) ∈ s.pending := by
  by_cases h : finished ∈ f.imports
  · have x : Imports [f] p finished ↔ p = f.path := by simp [imports_cons, h, eq_comm]
    rw [x]
    unfold release
    rw [if_pos (by simpa using h)]
    split
    next absent =>
      have none : ∀ n, (f.path, n) ∉ s.pending := by
        intro n hn
        simpa using List.find?_eq_none.1 absent _ hn
      constructor
      · exact Or.inl
      · rintro (h | ⟨rfl, n, _, hn⟩)
        · exact h
        · exact absurd hn (none n)
    next name count found =>
      have same : name = f.path := by simpa using List.find?_some found
      subst same
      have only : ∀ n, (f.path, n) ∈ s.pending ↔ n = count := by
        intro n
        rw [← find?_pending distinct, found, Option.some.injEq, Prod.mk.injEq]
        exact ⟨fun h => h.2.symm, fun h => ⟨rfl, h.symm⟩⟩
      by_cases last : count ≤ 1
      · rw [if_pos last, List.mem_cons, or_comm]
        refine or_congr_right ⟨?_, And.left⟩
        rintro rfl
        exact ⟨rfl, count, last, (only count).2 rfl⟩
      · rw [if_neg last]
        constructor
        · exact Or.inl
        · rintro (h | ⟨rfl, n, small, hn⟩)
          · exact h
          · exact absurd ((only n).1 hn ▸ small) last
  · simp [release, imports_cons, h]

/-! All files that import the finished one -/

/-- A file is finished, and its importers wait for one file less. -/
def finish (files : List FileDecl) (finished : String) (s : Sweep) : Sweep :=
  files.foldl (release finished) s

theorem finish_cons (f : FileDecl) (rest : List FileDecl) (s : Sweep) :
    finish (f :: rest) finished s = finish rest finished (release finished s f) := rfl

theorem finish_pending (distinct : (files.map (·.path)).Nodup) (s : Sweep) :
    (finish files finished s).pending = s.pending.map (relieved files finished) := by
  induction files generalizing s with
  | nil => simp [finish, relieved_nil]
  | cons f rest ih =>
    rw [List.map_cons, List.nodup_cons] at distinct
    rw [finish_cons, ih distinct.2, release_pending, List.map_map]
    exact List.map_congr_left fun p _ => (relieved_cons distinct.1 p).symm

theorem names_finish (distinct : (files.map (·.path)).Nodup) (s : Sweep) :
    (finish files finished s).names = s.names := by
  simp [names, finish_pending distinct, relieved, Function.comp_def]

theorem mem_ready_finish (distinct : (files.map (·.path)).Nodup) (hs : s.names.Nodup) {p : String} :
    p ∈ (finish files finished s).ready ↔
      p ∈ s.ready ∨ Imports files p finished ∧ ∃ n ≤ 1, (p, n) ∈ s.pending := by
  induction files generalizing s with
  | nil => simp [finish]
  | cons f rest ih =>
    rw [List.map_cons, List.nodup_cons] at distinct
    obtain ⟨fresh, distinct⟩ := distinct
    rw [finish_cons, ih distinct (names_release s f ▸ hs), mem_ready_release hs, or_assoc]
    refine or_congr_right ?_
    by_cases h : f.path = p
    · -- The file itself comes only once, so it is relieved only once.
      subst h
      have none : ¬ Imports rest f.path finished := fun x => fresh x.importer
      simp [imports_cons, none]
    · simp [imports_cons, release_pending, mem_map_relieved, h]

theorem nodup_ready_finish (distinct : (files.map (·.path)).Nodup) (hs : s.names.Nodup)
    (once : s.ready.Nodup) (apart : ∀ p, Imports files p finished → p ∉ s.ready) :
    (finish files finished s).ready.Nodup := by
  induction files generalizing s with
  | nil => exact once
  | cons f rest ih =>
    rw [List.map_cons, List.nodup_cons] at distinct
    obtain ⟨fresh, distinct⟩ := distinct
    rw [finish_cons]
    refine ih distinct (names_release s f ▸ hs) ?_ ?_
    · by_cases h : finished ∈ f.imports
      · have new : f.path ∉ s.ready := apart f.path (imports_cons.2 (.inl ⟨rfl, h⟩))
        unfold release
        split
        · split
          · exact once
          · split
            · exact List.nodup_cons.2 ⟨new, once⟩
            · exact once
        · exact once
      · simpa [release, h] using once
    · intro p x ready
      rcases (mem_ready_release hs).1 ready with ready | ⟨y, _⟩
      · exact apart p (imports_cons.2 (.inr x)) ready
      · obtain ⟨rfl, _⟩ : f.path = p ∧ finished ∈ f.imports := by simpa [imports_cons] using y
        exact fresh x.importer

/-! The invariant of the sweep -/

/-- What holds while a sweep runs: no file waits for less than it should. -/
structure Fits (files : List FileDecl) (s : Sweep) : Prop where
  distinct : s.names.Nodup
  known : s.names ⊆ files.map (·.path)
  bound : ∀ f ∈ files, ∀ n, (f.path, n) ∈ s.pending → (blockers s.names f).card ≤ n
  once : s.ready.Nodup
  free : ∀ p, p ∈ s.ready ↔ (p, 0) ∈ s.pending

/-- Some of the files also wait for no more than they should. -/
def Exact (plain : List FileDecl) (s : Sweep) : Prop :=
  ∀ f ∈ plain, ∀ n, (f.path, n) ∈ s.pending → n ≤ (blockers s.names f).card

/-- Takes a ready file from those that wait. -/
def without (finished : String) (ready : List String) (s : Sweep) : Sweep :=
  ⟨s.pending.filter (·.1 ≠ finished), ready⟩

theorem mem_names {p : String} : p ∈ s.names ↔ ∃ n, (p, n) ∈ s.pending := by
  simp [names]

theorem mem_names_finish (distinct : (files.map (·.path)).Nodup) {ready : List String}
    {p : String} :
    p ∈ (finish files finished (s.without finished ready)).names ↔
      p ∈ s.names ∧ p ≠ finished := by
  rw [names_finish distinct]
  simp [names, without]

theorem mem_pending_finish (distinct : (files.map (·.path)).Nodup) {ready : List String}
    {p : String} {n : Nat} :
    (p, n) ∈ (finish files finished (s.without finished ready)).pending ↔
      p ≠ finished ∧ ∃ m, (p, m) ∈ s.pending ∧
        n = if Imports files p finished then m - 1 else m := by
  rw [finish_pending distinct, mem_map_relieved]
  constructor
  · rintro ⟨m, hm, same⟩
    obtain ⟨hm, other⟩ := List.mem_filter.1 hm
    exact ⟨by simpa using other, m, hm, same⟩
  · rintro ⟨other, m, hm, same⟩
    exact ⟨m, List.mem_filter.2 ⟨hm, by simpa using other⟩, same⟩

/-- The imports that a file waits for, once one file is finished. -/
theorem blockers_finish (distinct : (files.map (·.path)).Nodup) {ready : List String}
    (f : FileDecl) :
    blockers (finish files finished (s.without finished ready)).names f =
      (blockers s.names f).erase finished := by
  ext d
  simp only [mem_blockers, mem_names_finish distinct, Finset.mem_erase]
  exact ⟨fun ⟨h, h', ne⟩ => ⟨ne, h, h'⟩, fun ⟨ne, h, h'⟩ => ⟨h, h', ne⟩⟩

/-- The number of those imports goes down exactly where the sweep counts down. -/
theorem card_blockers_finish (distinct : (files.map (·.path)).Nodup) {ready : List String}
    (waits : finished ∈ s.names) {f : FileDecl} (hf : f ∈ files) :
    (blockers (finish files finished (s.without finished ready)).names f).card =
      if Imports files f.path finished then (blockers s.names f).card - 1
      else (blockers s.names f).card := by
  rw [blockers_finish distinct]
  by_cases h : finished ∈ f.imports
  · rw [if_pos ((imports_of_mem distinct hf).2 h), Finset.card_erase_of_mem]
    exact mem_blockers.2 ⟨h, waits⟩
  · rw [if_neg fun x => h ((imports_of_mem distinct hf).1 x), Finset.erase_eq_of_notMem]
    exact fun x => h (mem_blockers.1 x).1

/-- A ready file imports no file that still waits. -/
theorem Fits.not_imports (fits : Fits files s) {p d : String} (ready : p ∈ s.ready)
    (waits : d ∈ s.names) : ¬ Imports files p d := by
  rintro ⟨f, hf, rfl, hd⟩
  have none := fits.bound f hf 0 ((fits.free _).1 ready)
  have some : 0 < (blockers s.names f).card := Finset.card_pos.2 ⟨d, mem_blockers.2 ⟨hd, waits⟩⟩
  omega

theorem Fits.waits (fits : Fits files s) {p : String} (ready : p ∈ s.ready) : p ∈ s.names :=
  mem_names.2 ⟨0, (fits.free p).1 ready⟩

theorem Fits.finish (distinct : (files.map (·.path)).Nodup) {ready : List String}
    (fits : Fits files s) (next : s.ready = finished :: ready) :
    Fits files (finish files finished (s.without finished ready)) := by
  have first : finished ∈ s.ready := next ▸ List.mem_cons_self
  have rest : ∀ {p}, p ∈ ready → p ∈ s.ready := fun h => next ▸ List.mem_cons_of_mem _ h
  obtain ⟨gone, once⟩ := List.nodup_cons.1 (next ▸ fits.once)
  have names : (s.without finished ready).names.Nodup :=
    fits.distinct.sublist (List.filter_sublist.map _)
  refine ⟨?_, ?_, ?_, ?_, ?_⟩
  · rw [names_finish distinct]
    exact names
  · intro p hp
    exact fits.known ((mem_names_finish distinct).1 hp).1
  · intro f hf n hn
    obtain ⟨_, m, hm, rfl⟩ := (mem_pending_finish distinct).1 hn
    have before := fits.bound f hf m hm
    rw [card_blockers_finish distinct (fits.waits first) hf]
    split <;> omega
  · refine nodup_ready_finish distinct names once fun p x hp => ?_
    exact fits.not_imports (rest hp) (fits.waits first) x
  · intro p
    rw [mem_ready_finish distinct names, mem_pending_finish distinct]
    constructor
    · rintro (hp | ⟨x, n, small, hn⟩)
      · refine ⟨fun same => gone (same ▸ hp), 0, (fits.free p).1 (rest hp), ?_⟩
        rw [if_neg (fits.not_imports (rest hp) (fits.waits first))]
      · obtain ⟨hn, other⟩ := List.mem_filter.1 hn
        refine ⟨by simpa using other, n, hn, ?_⟩
        rw [if_pos x]
        omega
    · rintro ⟨other, n, hn, zero⟩
      by_cases x : Imports files p finished
      · rw [if_pos x] at zero
        exact .inr ⟨x, n, by omega, List.mem_filter.2 ⟨hn, by simpa using other⟩⟩
      · rw [if_neg x] at zero
        subst zero
        have := (fits.free p).2 hn
        rw [next] at this
        exact .inl ((List.mem_cons.1 this).resolve_left other)

theorem Exact.finish (distinct : (files.map (·.path)).Nodup) {plain : List FileDecl}
    (sub : plain ⊆ files) {ready : List String} (exact : Exact plain s)
    (waits : finished ∈ s.names) :
    Exact plain (finish files finished (s.without finished ready)) := by
  intro f hf n hn
  obtain ⟨_, m, hm, rfl⟩ := (mem_pending_finish distinct).1 hn
  have before := exact f hf m hm
  rw [card_blockers_finish distinct waits (sub hf)]
  split <;> omega

/-! From the start to the end -/

theorem names_start : (start files).names = files.map (·.path) := by
  simp [names, start, Function.comp_def]

theorem mem_pending_start (distinct : (files.map (·.path)).Nodup) {f : FileDecl} (hf : f ∈ files)
    {n : Nat} : (f.path, n) ∈ (start files).pending ↔
      n = (f.imports.filter (files.map (·.path)).contains).length := by
  simp only [start, List.mem_map, Prod.mk.injEq]
  constructor
  · rintro ⟨g, hg, same, rfl⟩
    rw [List.inj_on_of_nodup_map distinct hg hf same]
  · rintro rfl
    exact ⟨f, hf, rfl, rfl⟩

theorem blockers_start (f : FileDecl) : blockers (start files).names f =
    (f.imports.filter (files.map (·.path)).contains).toFinset := by
  ext d
  simp [names_start, mem_blockers]

theorem Fits.start (distinct : (files.map (·.path)).Nodup) : Fits files (start files) := by
  refine ⟨?_, ?_, ?_, ?_, ?_⟩
  · rwa [names_start]
  · rw [names_start]
    exact List.Subset.refl _
  · intro f hf n hn
    rw [(mem_pending_start distinct hf).1 hn, blockers_start]
    exact List.toFinset_card_le _
  · refine List.Nodup.sublist (List.filter_sublist.map _) ?_
    simpa [Function.comp_def] using distinct
  · intro p
    constructor
    · intro hp
      obtain ⟨⟨q, n⟩, hq, rfl⟩ := List.mem_map.1 hp
      obtain ⟨hq, zero⟩ := List.mem_filter.1 hq
      obtain rfl : n = 0 := by simpa using zero
      exact hq
    · intro hp
      exact List.mem_map.2 ⟨(p, 0), List.mem_filter.2 ⟨hp, by simp⟩, rfl⟩

theorem Exact.start (distinct : (files.map (·.path)).Nodup) {plain : List FileDecl}
    (sub : plain ⊆ files) (free : ∀ f ∈ plain, ¬ Stuck files f.path) :
    Exact plain (start files) := by
  intro f hf n hn
  rw [(mem_pending_start distinct (sub hf)).1 hn, blockers_start,
    List.toFinset_card_of_nodup (nodup_of_not_stuck (free f hf) (sub hf))]

/-- A finished file is on no cycle: it would import another file of the cycle, which still waits. -/
theorem Fits.cycle_finish (distinct : (files.map (·.path)).Nodup) {ready : List String}
    (fits : Fits files s) (next : s.ready = finished :: ready)
    (cycles : ∀ a, TransGen (Imports files) a a → a ∈ s.names) {a : String}
    (x : TransGen (Imports files) a a) :
    a ∈ (Sweep.finish files finished (s.without finished ready)).names := by
  refine (mem_names_finish distinct).2 ⟨cycles a x, ?_⟩
  rintro rfl
  obtain ⟨b, first, rest⟩ := TransGen.head'_iff.1 x
  exact fits.not_imports (next ▸ List.mem_cons_self) (cycles b (.tail' rest first)) first

/-- The importers of a file that still waits are not finished before it. -/
theorem Fits.importers_finish (distinct : (files.map (·.path)).Nodup) {ready : List String}
    (fits : Fits files s) (next : s.ready = finished :: ready)
    (importers : ∀ a b, Imports files a b → b ∈ s.names → a ∈ s.names) {a b : String}
    (x : Imports files a b)
    (hb : b ∈ (Sweep.finish files finished (s.without finished ready)).names) :
    a ∈ (Sweep.finish files finished (s.without finished ready)).names := by
  have waits : b ∈ s.names := ((mem_names_finish distinct).1 hb).1
  refine (mem_names_finish distinct).2 ⟨importers a b x waits, ?_⟩
  rintro rfl
  exact fits.not_imports (next ▸ List.mem_cons_self) waits x

/-- What each finish keeps, a run keeps. -/
theorem run_keeps {P : Sweep → Prop}
    (step : ∀ s finished ready, P s → s.ready = finished :: ready →
      P (finish files finished (s.without finished ready)))
    (fuel : Nat) (hs : P s) : P (run files fuel s) := by
  induction fuel generalizing s with
  | zero => exact hs
  | succ fuel ih =>
    unfold run
    split
    · exact hs
    next finished ready next => exact ih (step s finished ready hs next)

/-- A file that lists one of the files twice waits for more than its imports, and does so until the
end: each import that is finished counts once. -/
theorem waits_of_repeats (distinct : (files.map (·.path)).Nodup) {f : FileDecl} (hf : f ∈ files)
    {d : String} (hd : d ∈ files.map (·.path)) (twice : 2 ≤ f.imports.count d) (fuel : Nat) :
    f.path ∈ (run files fuel (start files)).names := by
  have kept : Fits files (run files fuel (start files)) ∧
      ∃ n, (f.path, n) ∈ (run files fuel (start files)).pending ∧
        (blockers (run files fuel (start files)).names f).card < n := by
    refine run_keeps (P := fun s => Fits files s ∧ ∃ n, (f.path, n) ∈ s.pending ∧
      (blockers s.names f).card < n) (fun s finished ready hs next => ?_) fuel ⟨.start distinct, ?_⟩
    · obtain ⟨fits, n, hn, more⟩ := hs
      have first : finished ∈ s.ready := next ▸ List.mem_cons_self
      have other : f.path ≠ finished := by
        intro same
        have zero : (f.path, 0) ∈ s.pending := (fits.free _).1 (same ▸ first)
        have only := (find?_pending fits.distinct).2 hn
        rw [(find?_pending fits.distinct).2 zero] at only
        cases only
        omega
      refine ⟨fits.finish distinct next, _,
        (mem_pending_finish distinct).2 ⟨other, n, hn, rfl⟩, ?_⟩
      rw [card_blockers_finish distinct (fits.waits first) hf]
      split
      next x =>
        have mem : finished ∈ blockers s.names f :=
          mem_blockers.2 ⟨(imports_of_mem distinct hf).1 x, fits.waits first⟩
        have some : 0 < (blockers s.names f).card := Finset.card_pos.2 ⟨finished, mem⟩
        omega
      next => exact more
    · refine ⟨_, (mem_pending_start distinct hf).2 rfl, ?_⟩
      rw [blockers_start]
      refine lt_of_le_of_ne (List.toFinset_card_le _) fun same => ?_
      rw [List.card_toFinset] at same
      have nodup := List.dedup_eq_self.1 ((List.dedup_sublist _).eq_of_length same)
      have once := List.nodup_iff_count_le_one.1 nodup d
      rw [List.count_filter (by simpa using hd)] at once
      omega
  obtain ⟨_, n, hn, _⟩ := kept
  exact mem_names.2 ⟨n, hn⟩

/-- Each finish takes one name. -/
theorem Fits.length_without_lt (fits : Fits files s) {ready : List String}
    (next : s.ready = finished :: ready) :
    (s.without finished ready).names.length < s.names.length := by
  simp only [names, without, List.length_map]
  refine List.length_filter_lt_length_iff_exists.2 ?_
  exact ⟨(finished, 0), (fits.free finished).1 (next ▸ List.mem_cons_self), by simp⟩

/-- A run with as much fuel as names ends with none ready. -/
theorem Fits.run_ready (distinct : (files.map (·.path)).Nodup) (fits : Fits files s) {fuel : Nat}
    (enough : s.names.length ≤ fuel) : (run files fuel s).ready = [] := by
  induction fuel generalizing s with
  | zero =>
    refine List.eq_nil_iff_forall_not_mem.2 fun p ready => ?_
    have none : s.names = [] := List.eq_nil_of_length_eq_zero (by omega)
    simpa [none] using fits.waits ready
  | succ fuel ih =>
    unfold run
    split
    next none => exact none
    next finished ready next =>
      refine ih (fits.finish distinct next) ?_
      have fewer := fits.length_without_lt next
      change (Sweep.finish files finished (s.without finished ready)).names.length ≤ fuel
      rw [names_finish distinct]
      omega

/-! What is left over -/

theorem waits_of_cycle (distinct : (files.map (·.path)).Nodup) (fuel : Nat)
    (x : TransGen (Imports files) path path) : path ∈ (run files fuel (start files)).names := by
  have kept : Fits files (run files fuel (start files)) ∧
      ∀ a, TransGen (Imports files) a a → a ∈ (run files fuel (start files)).names := by
    refine run_keeps (P := fun s => Fits files s ∧ ∀ a, TransGen (Imports files) a a → a ∈ s.names)
      (fun s finished ready hs next => ?_) fuel ⟨.start distinct, ?_⟩
    · exact ⟨hs.1.finish distinct next, fun a => hs.1.cycle_finish distinct next hs.2⟩
    · intro a x
      rw [names_start]
      exact importer_of_transGen x
  exact kept.2 path x

theorem waits_of_imports (distinct : (files.map (·.path)).Nodup) (fuel : Nat) {next : String}
    (x : Imports files path next) (waits : next ∈ (run files fuel (start files)).names) :
    path ∈ (run files fuel (start files)).names := by
  have kept : Fits files (run files fuel (start files)) ∧ ∀ a b, Imports files a b →
      b ∈ (run files fuel (start files)).names → a ∈ (run files fuel (start files)).names := by
    refine run_keeps (P := fun s => Fits files s ∧
      ∀ a b, Imports files a b → b ∈ s.names → a ∈ s.names)
      (fun s finished ready hs next => ?_) fuel ⟨.start distinct, ?_⟩
    · exact ⟨hs.1.finish distinct next, fun a b => hs.1.importers_finish distinct next hs.2⟩
    · intro a b x _
      rw [names_start]
      exact x.importer
  exact kept.2 path next x waits

theorem waits_of_stuck (distinct : (files.map (·.path)).Nodup) (fuel : Nat)
    (h : Stuck files path) : path ∈ (run files fuel (start files)).names := by
  induction h with
  | cycle path x => exact waits_of_cycle distinct fuel x
  | twice f hf d hd twice => exact waits_of_repeats distinct hf hd twice fuel
  | imports path next x _ ih => exact waits_of_imports distinct fuel x ih

/-- A file that is left over without being stuck imports another of the kind. -/
theorem exists_import_of_waits (distinct : (files.map (·.path)).Nodup)
    (waits : path ∈ (run files files.length (start files)).names) (free : ¬ Stuck files path) :
    ∃ next ∈ (run files files.length (start files)).names, ¬ Stuck files next ∧
      Imports files path next := by
  have fits : Fits files (run files files.length (start files)) :=
    run_keeps (fun s finished ready hs next => hs.finish distinct next) _ (.start distinct)
  obtain ⟨f, hf, rfl⟩ := List.mem_map.1 (fits.known waits)
  have sub : [f] ⊆ files := by simpa using hf
  have kept : Fits files (run files files.length (start files)) ∧
      Exact [f] (run files files.length (start files)) := by
    refine run_keeps (P := fun s => Fits files s ∧ Exact [f] s)
      (fun s finished ready hs next => ?_) files.length
      ⟨.start distinct, .start distinct sub (by simpa using free)⟩
    exact ⟨hs.1.finish distinct next,
      hs.2.finish distinct sub (hs.1.waits (next ▸ List.mem_cons_self))⟩
  obtain ⟨n, hn⟩ := mem_names.1 waits
  -- The file is not ready, so it still waits for an import.
  have none : (run files files.length (start files)).ready = [] := by
    refine (Fits.start distinct).run_ready distinct ?_
    rw [names_start, List.length_map]
  have waiting : n ≠ 0 := by
    rintro rfl
    simpa [none] using (fits.free f.path).2 hn
  have some : 0 < (blockers (run files files.length (start files)).names f).card := by
    have := kept.2 f List.mem_cons_self n hn
    omega
  obtain ⟨b, hb⟩ := Finset.card_pos.1 some
  obtain ⟨hd, hb⟩ := mem_blockers.1 hb
  have x : Imports files f.path b := ⟨f, hf, rfl, hd⟩
  exact ⟨b, hb, fun stuck => free (.imports f.path b x stuck), x⟩

/-- A run leaves over the files that are stuck. -/
theorem mem_names_run (distinct : (files.map (·.path)).Nodup) :
    path ∈ (run files files.length (start files)).names ↔ Stuck files path := by
  classical
  constructor
  · intro waits
    by_contra free
    let others := (run files files.length (start files)).names.filter fun p => ¬ Stuck files p
    have mem : ∀ {p}, p ∈ others ↔
        p ∈ (run files files.length (start files)).names ∧ ¬ Stuck files p := by
      simp [others]
    -- The others that are left over import each other, so some are on a cycle after all.
    obtain ⟨a, ha, x⟩ : ∃ a ∈ others, TransGen (Imports files) a a := by
      refine exists_cycle_of_closed (List.ne_nil_of_mem (mem.2 ⟨waits, free⟩)) fun a ha => ?_
      obtain ⟨b, hb, free, x⟩ := exists_import_of_waits distinct (mem.1 ha).1 (mem.1 ha).2
      exact ⟨b, mem.2 ⟨hb, free⟩, x⟩
    exact (mem.1 ha).2 (.cycle a x)
  · exact waits_of_stuck distinct files.length

end Sweep

open Sweep

variable {files : List FileDecl}

theorem leastName?_eq_none {names : List String} : leastName? names = none ↔ names = [] := by
  cases names <;> simp [leastName?]

/-- The sweep finds nothing exactly where no file is stuck. -/
theorem cycle?_eq_none (distinct : (files.map (·.path)).Nodup) :
    cycle? files = none ↔ ∀ path, ¬ Stuck files path := by
  rw [cycle?, leastName?_eq_none, List.eq_nil_iff_forall_not_mem]
  exact forall_congr' fun path => not_congr (mem_names_run distinct)

/-- The sweep finds nothing exactly where there is no cycle and no file lists another twice. -/
theorem cycle?_eq_none_iff (distinct : (files.map (·.path)).Nodup) :
    cycle? files = none ↔ Acyclic files ∧ ¬ Repeats files := by
  rw [cycle?_eq_none distinct, ← not_exists, exists_stuck_iff, not_or, not_not]

/-- Where the sweep finds no cycle, there is none. -/
theorem acyclic_of_cycle? (distinct : (files.map (·.path)).Nodup) (h : cycle? files = none) :
    Acyclic files :=
  ((cycle?_eq_none_iff distinct).1 h).1

/-- Without a cycle the sweep finds none, as long as no file lists another twice. -/
theorem cycle?_of_acyclic (distinct : (files.map (·.path)).Nodup) (once : ¬ Repeats files)
    (h : Acyclic files) : cycle? files = none :=
  (cycle?_eq_none_iff distinct).2 ⟨h, once⟩

end DynamicRpc.Reflection
