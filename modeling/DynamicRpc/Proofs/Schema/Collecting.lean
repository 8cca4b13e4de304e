import DynamicRpc.Proofs.Schema.Names

/-!
When the names of files can be collected. Each file is checked by itself, and besides no two of
their symbols and those before them may share a name, unless both are packages. Neither depends on
the order of the files.
-/
namespace DynamicRpc.Schema

open Success Schema.Symbol

variable {defined known : List Symbol} {s : Symbol} {f : FileDecl} {files files' : List FileDecl}

/-- What is checked of a symbol apart from its name: fields of a message that agree but for case. -/
def FileDecl.checkSymbol (f : FileDecl) (s : Symbol) : Except LinkError Unit :=
  match s.definition with
  | .message m => if f.isFirstGeneration then .ok () else checkCamelCase [] m.fields
  | _ => .ok ()

/-- The checks that collecting names makes of a file by itself. -/
structure FileDecl.WellSpelt (f : FileDecl) : Prop where
  generation : f.isFirstGeneration ∨ f.syntaxName = "proto3"
  symbols : ∀ s ∈ f.symbols, f.checkSymbol s = .ok ()

/-- A symbol can be added to a table if and only if it is apart from all that is defined there. -/
theorem Table.define_iff (table : Table defined known) :
    (∃ known', Schema.define known s = .ok known') ↔ (defined ++ [s]).Pairwise Apart := by
  constructor
  · rintro ⟨known', h⟩
    exact (table.define h).apart
  · intro apart
    unfold Schema.define
    split
    next => exact ⟨_, rfl⟩
    next old found =>
      obtain ⟨mem, name⟩ := named_of_find? found
      have packages : old.definition = .package ∧ s.definition = .package :=
        (List.pairwise_append.1 apart).2.2 old (table.listed mem) s List.mem_cons_self name
      rw [packages.1, packages.2]
      exact ⟨_, rfl⟩

/-- Adding a symbol of a file is adding its name and checking it. -/
theorem FileDecl.define_eq (known : List Symbol) (f : FileDecl) :
    f.define known =
      if !f.isFirstGeneration && f.syntaxName ≠ "proto3" then .error (.unknownSyntax f.syntaxName)
      else f.symbols.foldlM (fun known s => do
        let known ← Schema.define known s
        f.checkSymbol s
        return known) known := by
  unfold define
  split
  next => rfl
  next =>
    congr 1
    funext known s
    congr 1
    funext known
    unfold checkSymbol
    cases s.definition with
    | message m => cases f.isFirstGeneration <;> rfl
    | _ => rfl

theorem Table.defineSymbols_iff {symbols : List Symbol} (table : Table defined known) :
    (∃ known', symbols.foldlM (fun known s => do
        let known ← Schema.define known s
        f.checkSymbol s
        return known) known = .ok known') ↔
      (∀ s ∈ symbols, f.checkSymbol s = .ok ()) ∧ (defined ++ symbols).Pairwise Apart := by
  induction symbols generalizing defined known with
  | nil =>
    simp only [List.foldlM_nil, pure_eq_ok, exists_eq', List.append_nil, true_iff]
    exact ⟨List.forall_mem_nil _, table.apart⟩
  | cons s rest ih =>
    simp only [foldlM_cons_eq_ok, bind_eq_ok, pure_eq_ok, List.forall_mem_cons]
    rw [List.append_cons]
    constructor
    · rintro ⟨known', _, ⟨next, step, _, checked, rfl⟩, h⟩
      obtain ⟨others, apart⟩ := (ih (table.define step)).1 ⟨known', h⟩
      exact ⟨⟨checked, others⟩, apart⟩
    · rintro ⟨⟨checked, others⟩, apart⟩
      obtain ⟨next, step⟩ := table.define_iff.2 (List.pairwise_append.1 apart).1
      obtain ⟨known', h⟩ := (ih (table.define step)).2 ⟨others, apart⟩
      exact ⟨known', next, ⟨next, step, (), checked, rfl⟩, h⟩

theorem Table.defineFile_iff (table : Table defined known) :
    (∃ known', f.define known = .ok known') ↔
      f.WellSpelt ∧ (defined ++ f.symbols).Pairwise Apart := by
  have generation : ¬ (!f.isFirstGeneration && f.syntaxName ≠ "proto3") ↔
      f.isFirstGeneration ∨ f.syntaxName = "proto3" := by
    cases f.isFirstGeneration <;> simp
  rw [FileDecl.define_eq]
  split
  next stops =>
    constructor
    · rintro ⟨_, h⟩
      cases h
    · exact fun ⟨spelt, _⟩ => absurd stops (generation.2 spelt.generation)
  next passes =>
    rw [table.defineSymbols_iff]
    exact ⟨fun ⟨checked, apart⟩ => ⟨⟨generation.1 passes, checked⟩, apart⟩,
      fun ⟨spelt, apart⟩ => ⟨spelt.symbols, apart⟩⟩

/-- The names of files can be collected if and only if each file passes its checks and no two of all
symbols share a name, unless both are packages. -/
theorem Table.defineFiles_iff (table : Table defined known) :
    (∃ known', files.foldlM FileDecl.define known = .ok known') ↔
      (∀ f ∈ files, f.WellSpelt) ∧ (defined ++ symbolsOfFiles files).Pairwise Apart := by
  induction files generalizing defined known with
  | nil =>
    simp only [List.foldlM_nil, pure_eq_ok, exists_eq', true_iff]
    refine ⟨List.forall_mem_nil _, ?_⟩
    simpa [symbolsOfFiles] using table.apart
  | cons f rest ih =>
    have parts : defined ++ symbolsOfFiles (f :: rest) =
        (defined ++ f.symbols) ++ symbolsOfFiles rest := by
      simp [symbolsOfFiles]
    simp only [foldlM_cons_eq_ok, List.forall_mem_cons, parts]
    constructor
    · rintro ⟨known', next, step, h⟩
      obtain ⟨others, apart⟩ := (ih (table.defineAll step)).1 ⟨known', h⟩
      exact ⟨⟨(table.defineFile_iff.1 ⟨next, step⟩).1, others⟩, apart⟩
    · rintro ⟨⟨spelt, others⟩, apart⟩
      obtain ⟨next, step⟩ := table.defineFile_iff.2 ⟨spelt, (List.pairwise_append.1 apart).1⟩
      obtain ⟨known', h⟩ := (ih (table.defineAll step)).2 ⟨others, apart⟩
      exact ⟨known', next, step, h⟩

/-- The order of files does not matter to whether their names can be collected. -/
theorem Pool.collects_of_perm {p : Pool} {symbols : List Symbol} (hp : p.symbols.Pairwise Apart)
    (hs : files.foldlM FileDecl.define p.symbols = .ok symbols) (order : files.Perm files') :
    ∃ symbols', files'.foldlM FileDecl.define p.symbols = .ok symbols' := by
  obtain ⟨spelt, apart⟩ := (Table.refl hp).defineFiles_iff.1 ⟨symbols, hs⟩
  refine (Table.refl hp).defineFiles_iff.2 ⟨fun f hf => spelt f (order.mem_iff.2 hf), ?_⟩
  have same : (p.symbols ++ symbolsOfFiles files).Perm (p.symbols ++ symbolsOfFiles files') :=
    (order.flatMap_right _).append_left _
  exact same.pairwise apart fun h name => (h name.symm).symm

end DynamicRpc.Schema
