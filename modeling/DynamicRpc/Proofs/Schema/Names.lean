import DynamicRpc.Proofs.Schema.Definitions
import Mathlib.Data.List.Nodup
import Mathlib.Data.List.Pairwise

/-!
The names of linked files. While names are collected, a table of those known stands for all of them:
only packages share a name, and of several packages with a name the table needs one. So in a linked
pool every full name but a package's is defined once.
-/
namespace DynamicRpc.Schema

open Success

namespace Symbol

/-- Only packages may share a name. -/
def Apart (a b : Symbol) : Prop :=
  a.name = b.name → a.definition = .package ∧ b.definition = .package

/-- Symbols that stand for each other: packages do if they have the same name. -/
def Same (a b : Symbol) : Prop :=
  a = b ∨ a.name = b.name ∧ a.definition = .package ∧ b.definition = .package

variable {a b c : Symbol}

instance : Std.Symm Apart := ⟨fun _ _ h same => (h same.symm).symm⟩

theorem Same.symm (h : a.Same b) : b.Same a := by
  rcases h with rfl | ⟨name, ha, hb⟩
  · exact .inl rfl
  · exact .inr ⟨name.symm, hb, ha⟩

theorem Same.name (h : a.Same b) : a.name = b.name := by
  rcases h with rfl | ⟨name, _, _⟩
  · rfl
  · exact name

theorem Same.trans (h : a.Same b) (h' : b.Same c) : a.Same c := by
  rcases h with rfl | ⟨name, ha, hb⟩
  · exact h'
  · rcases h' with rfl | ⟨name', _, hc⟩
    · exact .inr ⟨name, ha, hb⟩
    · exact .inr ⟨name.trans name', ha, hc⟩

/-- What stands for a symbol that is no package is the symbol itself. -/
theorem Same.eq (h : a.Same b) (ha : a.definition ≠ .package) : a = b :=
  h.resolve_right fun packages => ha packages.2.1

/-- Of symbols that are pairwise apart, two with one name stand for each other. -/
theorem same_of_pairwise {symbols : List Symbol} (h : symbols.Pairwise Apart) (ha : a ∈ symbols)
    (hb : b ∈ symbols) (name : a.name = b.name) : a.Same b := by
  by_cases eq : a = b
  · exact .inl eq
  · exact .inr ⟨name, h.forall ha hb eq name⟩

end Symbol

open Schema.Symbol

/-- A table of known symbols stands for all that were defined. -/
structure Table (defined known : List Symbol) : Prop where
  apart : defined.Pairwise Apart
  distinct : known.Pairwise Apart
  listed : known ⊆ defined
  covers : ∀ x ∈ defined, ∃ y ∈ known, x.Same y

namespace Table

variable {defined known known' : List Symbol} {s : Symbol}

theorem refl (h : defined.Pairwise Apart) : Table defined defined :=
  ⟨h, h, List.Subset.refl _, fun x hx => ⟨x, hx, .inl rfl⟩⟩

theorem of_define (h : define known s = .ok known') :
    known' = s :: known ∧ (∀ y ∈ known, y.name ≠ s.name) ∨
      known' = known ∧ s.definition = .package ∧
        ∃ old ∈ known, old.name = s.name ∧ old.definition = .package := by
  unfold define at h
  split at h
  next none =>
    cases h
    exact .inl ⟨rfl, fun y hy name => List.find?_eq_none.1 none y hy (decide_eq_true name)⟩
  next old found =>
    obtain ⟨mem, name⟩ := named_of_find? found
    split at h
    next hold hs =>
      cases h
      exact .inr ⟨rfl, hs, old, mem, name, hold⟩
    next => split at h <;> cases h

/-- A symbol that can be defined keeps the table one. -/
theorem define (table : Table defined known) (h : define known s = .ok known') :
    Table (defined ++ [s]) known' := by
  rcases of_define h with ⟨rfl, new⟩ | ⟨rfl, package, old, mem, name, hold⟩
  · refine ⟨?_, ?_, ?_, ?_⟩
    · rw [List.pairwise_append]
      refine ⟨table.apart, List.pairwise_singleton _ _, ?_⟩
      rintro x hx _ hs same
      obtain rfl := List.mem_singleton.1 hs
      obtain ⟨y, hy, stands⟩ := table.covers x hx
      exact absurd (stands.name.symm.trans same) (new y hy)
    · exact List.pairwise_cons.2 ⟨fun y hy same => absurd same.symm (new y hy), table.distinct⟩
    · intro x hx
      rcases List.mem_cons.1 hx with rfl | hx
      · simp
      · exact List.mem_append_left _ (table.listed hx)
    · intro x hx
      rcases List.mem_append.1 hx with hx | hx
      · obtain ⟨y, hy, stands⟩ := table.covers x hx
        exact ⟨y, List.mem_cons_of_mem _ hy, stands⟩
      · obtain rfl := List.mem_singleton.1 hx
        exact ⟨x, List.mem_cons_self, .inl rfl⟩
  · refine ⟨?_, table.distinct, ?_, ?_⟩
    · rw [List.pairwise_append]
      refine ⟨table.apart, List.pairwise_singleton _ _, ?_⟩
      rintro x hx _ hs same
      obtain rfl := List.mem_singleton.1 hs
      obtain ⟨y, hy, stands⟩ := table.covers x hx
      -- The table has the package already, so what stands for the other symbol is one too.
      have package' : x.definition = .package := by
        by_contra other
        obtain rfl := stands.eq other
        have := same_of_pairwise table.distinct hy mem (same.trans name.symm)
        exact other (this.eq other ▸ hold)
      exact ⟨package', package⟩
    · exact fun x hx => List.mem_append_left _ (table.listed hx)
    · intro x hx
      rcases List.mem_append.1 hx with hx | hx
      · exact table.covers x hx
      · obtain rfl := List.mem_singleton.1 hx
        exact ⟨old, mem, .inr ⟨name.symm, package, hold⟩⟩

/-- A search in the table finds what stands for a defined symbol. -/
theorem find? (table : Table defined known) {x : Symbol} (hx : x ∈ defined) :
    ∃ y, known.find? (·.name = x.name) = some y ∧ x.Same y := by
  obtain ⟨z, hz, stands⟩ := table.covers x hx
  cases found : known.find? (·.name = x.name) with
  | none => exact absurd (decide_eq_true stands.name.symm) (List.find?_eq_none.1 found z hz)
  | some y =>
    obtain ⟨mem, name⟩ := named_of_find? found
    exact ⟨y, rfl, stands.trans
      (same_of_pairwise table.distinct hz mem (stands.name.symm.trans name.symm))⟩

theorem defineAll {f : FileDecl} (table : Table defined known)
    (h : f.define known = .ok known') : Table (defined ++ f.symbols) known' := by
  unfold FileDecl.define at h
  split at h
  next => cases h
  next =>
    generalize f.symbols = symbols at h ⊢
    induction symbols generalizing defined known with
    | nil =>
      cases h
      simpa using table
    | cons s rest ih =>
      obtain ⟨next, step, h⟩ := foldlM_cons_eq_ok.1 h
      obtain ⟨added, hadd, step⟩ := bind_eq_ok.1 step
      have same : added = next := by
        split at step
        next =>
          split at step
          next =>
            obtain ⟨_, _, step⟩ := bind_eq_ok.1 step
            exact pure_eq_ok.1 step
          next => exact pure_eq_ok.1 step
        next => exact pure_eq_ok.1 step
      subst same
      simpa using ih (table.define hadd) h

theorem defineFiles {fresh : List FileDecl} (table : Table defined known)
    (h : fresh.foldlM FileDecl.define known = .ok known') :
    Table (defined ++ fresh.flatMap (·.symbols)) known' := by
  induction fresh generalizing defined known with
  | nil =>
    cases h
    simpa using table
  | cons f rest ih =>
    obtain ⟨next, step, h⟩ := foldlM_cons_eq_ok.1 h
    simpa using ih (table.defineAll step) h

end Table

/-! Linked pools -/

/-- The symbols of some declarations. -/
def symbolsOfFiles (files : List FileDecl) : List Symbol := files.flatMap (·.symbols)

theorem Pool.symbols_eq (p : Pool) : p.symbols = symbolsOfFiles p.decls := by
  simp [symbols, symbolsOfFiles, decls, List.flatMap_map]

/-- A pool that linking led to. -/
inductive Pool.Linked : Pool → Prop where
  | empty : Linked .empty
  | link {p q : Pool} {fresh : List FileDecl} (hp : Linked p) (h : p.link fresh = .ok q) : Linked q

/-- The table that files are linked against stands for the symbols of all files then known. -/
theorem Pool.link_table {p : Pool} {fresh : List FileDecl} {symbols : List Symbol}
    (hp : p.symbols.Pairwise Apart) (hs : fresh.foldlM FileDecl.define p.symbols = .ok symbols) :
    Table (symbolsOfFiles (p.decls ++ fresh)) symbols := by
  have table := (Table.refl hp).defineFiles hs
  rwa [symbols_eq, symbolsOfFiles, ← List.flatMap_append] at table

/-- In a linked pool every full name but a package's is defined once. -/
theorem Pool.Linked.apart {p : Pool} (h : p.Linked) : p.symbols.Pairwise Apart := by
  induction h with
  | empty => exact .nil
  | @link p q fresh hp h ih =>
    obtain ⟨symbols, _, hs, _, rfl⟩ := link_eq_ok.1 h
    rw [symbols_eq, link_decls h]
    exact (link_table ih hs).apart

/-! Names of declarations -/

/-- Heads of lists, one after the other, are found in order in the lists put together. -/
theorem map_head_sublist {α β : Type} {head : α → β} {all : α → List β} (xs : List α)
    (starts : ∀ x, ∃ rest, all x = head x :: rest) : (xs.map head).Sublist (xs.flatMap all) := by
  induction xs with
  | nil => exact .slnil
  | cons x rest ih =>
    obtain ⟨more, h⟩ := starts x
    rw [List.map_cons, List.flatMap_cons, h, List.cons_append]
    exact (ih.trans (List.sublist_append_right more _)).cons_cons _

theorem enum_sublist (file scope : String) (enums : List EnumDecl) :
    ((enums.map (Declared.enum scope)).map (Declared.symbol file)).Sublist
      (enums.flatMap (·.symbols file scope)) := by
  rw [List.map_map]
  exact map_head_sublist enums fun e => ⟨_, rfl⟩

theorem service_sublist (file scope : String) (services : List ServiceDecl) :
    ((services.map (Declared.service scope)).map (Declared.symbol file)).Sublist
      (services.flatMap (·.symbols file scope)) := by
  rw [List.map_map]
  exact map_head_sublist services fun s => ⟨_, rfl⟩

theorem extension_symbols (file scope : String) (extensions : List FieldDecl) :
    (extensions.map (Declared.extension scope)).map (Declared.symbol file) =
      extensionSymbols file scope extensions := by
  rw [List.map_map]
  rfl

mutual

theorem declared_sublist (file scope : String) (m : MessageDecl) :
    ((m.declared scope).map (Declared.symbol file)).Sublist (m.symbols file scope) := by
  cases m with
  | mk name fields oneofs nested enums extensions ranges reserved mapEntry =>
    have inner := declaredOf_sublist file (qualify scope name) nested
    simp only [MessageDecl.declared, MessageDecl.symbols, List.map_cons, List.map_append,
      extension_symbols, List.cons_append]
    refine .cons_cons _ (.append (.append ?_ (enum_sublist file _ enums)) (List.Sublist.refl _))
    exact inner.trans (List.sublist_append_right _ _)

theorem declaredOf_sublist (file scope : String) (ms : List MessageDecl) :
    ((declaredOf scope ms).map (Declared.symbol file)).Sublist (symbolsOf file scope ms) := by
  cases ms with
  | nil => exact .slnil
  | cons m rest =>
    rw [declaredOf, symbolsOf, List.map_append]
    exact (declared_sublist file scope m).append (declaredOf_sublist file scope rest)

end

/-- The declarations of a file are among its symbols, in order. -/
theorem FileDecl.declared_sublist (f : FileDecl) :
    (f.declared.map (Declared.symbol f.path)).Sublist f.symbols := by
  simp only [declared, symbols, List.map_append, extension_symbols]
  refine .append (.append (.append ?_ (enum_sublist _ _ _)) (service_sublist _ _ _))
    (List.Sublist.refl _)
  exact (declaredOf_sublist _ _ _).trans (List.sublist_append_right _ _)

theorem Declared.definition_ne_package (x : Declared) : x.definition ≠ .package := by
  cases x <;> nofun

/-! Descriptors of linked pools -/

namespace Pool

variable {p : Pool} {file file' : File}

theorem pairwise_of_mem (apart : p.symbols.Pairwise Apart) (hf : file ∈ p.files) :
    file.decl.symbols.Pairwise Apart := by
  rw [symbols, List.pairwise_flatMap] at apart
  exact apart.1 file hf

/-- No two declarations of a linked file have the same full name. -/
theorem declared_nodup (apart : p.symbols.Pairwise Apart) (hf : file ∈ p.files) :
    (file.decl.declared.map Declared.fullName).Nodup := by
  have names := (pairwise_of_mem apart hf).sublist file.decl.declared_sublist
  rw [List.pairwise_map] at names
  rw [List.Nodup, List.pairwise_map]
  refine names.imp ?_
  intro x y apart same
  exact x.definition_ne_package (apart same).1

theorem symbol_mem {x : Declared} (hf : file ∈ p.files) (hx : x ∈ file.decl.declared) :
    x.symbol file.path ∈ p.symbols := by
  refine List.mem_flatMap.2 ⟨file, hf, file.decl.declared_sublist.subset ?_⟩
  exact List.mem_map_of_mem hx

/-- Each file of a linked pool was linked against names of the pool. -/
theorem Linked.resolved_known (h : p.Linked) (hf : file ∈ p.files) : ∃ c : Context,
    c.symbols ⊆ p.symbols ∧ List.Forall₂ c.Links file.decl.declared file.descriptors := by
  induction h with
  | empty => cases hf
  | @link p q fresh hp h ih =>
    have decls := link_decls h
    obtain ⟨symbols, linked, hs, hl, rfl⟩ := link_eq_ok.1 h
    rcases List.mem_append.1 hf with hf | hf
    · obtain ⟨c, known, links⟩ := ih hf
      refine ⟨c, fun y hy => ?_, links⟩
      obtain ⟨g, hg, hy⟩ := List.mem_flatMap.1 (known hy)
      exact List.mem_flatMap.2 ⟨g, List.mem_append_left _ hg, hy⟩
    · obtain ⟨f, _, hfile⟩ := exists_of_forall₂_right hl hf
      have links := linkFile_links hfile
      rw [← linkFile_decl hfile] at links
      refine ⟨_, ?_, links⟩
      rw [symbols_eq, decls]
      exact (link_table hp.apart hs).listed

/-- Each file of a linked pool was linked against some context. -/
theorem Linked.resolved (h : p.Linked) (hf : file ∈ p.files) :
    ∃ c : Context, List.Forall₂ c.Links file.decl.declared file.descriptors := by
  obtain ⟨c, _, links⟩ := h.resolved_known hf
  exact ⟨c, links⟩

/-- A descriptor has its full name from a declaration of its file. -/
theorem Linked.declaration (h : p.Linked) (hf : file ∈ p.files) {d : Descriptor}
    (hd : d ∈ file.descriptors) : file.decl.Defines d.fullName := by
  obtain ⟨c, links⟩ := h.resolved hf
  obtain ⟨x, hx, link⟩ := exists_of_forall₂_right links hd
  exact ⟨x, hx, link.fullName.symm⟩

/-- A linked pool defines a name in one file only, if names tell its files apart. -/
theorem Linked.file_unique (h : p.Linked) (distinct : (p.decls.map (·.path)).Nodup)
    (hf : file ∈ p.files) (hf' : file' ∈ p.files) {name : String}
    (hx : file.decl.Defines name) (hx' : file'.decl.Defines name) : file = file' := by
  obtain ⟨x, hx, name⟩ := hx
  obtain ⟨x', hx', name'⟩ := hx'
  have symbol : x.symbol file.path = x'.symbol file'.path :=
    (same_of_pairwise h.apart (symbol_mem hf hx) (symbol_mem hf' hx') (name.trans name'.symm)).eq
      x.definition_ne_package
  rw [decls, List.map_map] at distinct
  exact List.inj_on_of_nodup_map distinct hf hf' (congrArg Symbol.file symbol)

/-- Names tell the descriptors of a linked pool apart, if they tell its files apart. -/
theorem Linked.descriptors_unique (h : p.Linked) (distinct : (p.decls.map (·.path)).Nodup)
    {d d' : Descriptor} (hd : d ∈ p.descriptors) (hd' : d' ∈ p.descriptors)
    (same : d.fullName = d'.fullName) : d = d' := by
  obtain ⟨file, hf, hd⟩ := List.mem_flatMap.1 hd
  obtain ⟨file', hf', hd'⟩ := List.mem_flatMap.1 hd'
  obtain rfl := h.file_unique distinct hf hf' (h.declaration hf hd)
    (same ▸ h.declaration hf' hd')
  obtain ⟨c, links⟩ := h.resolved hf
  obtain ⟨x, hx, link⟩ := exists_of_forall₂_right links hd
  obtain ⟨x', hx', link'⟩ := exists_of_forall₂_right links hd'
  have name : x.fullName = x'.fullName := by rw [← link.fullName, same, link'.fullName]
  obtain rfl := List.inj_on_of_nodup_map (declared_nodup h.apart hf) hx hx' name
  exact link.unique link'

/-- In a linked pool each descriptor is found by its name. -/
theorem Linked.find? (h : p.Linked) (distinct : (p.decls.map (·.path)).Nodup) {d : Descriptor}
    (hd : d ∈ p.descriptors) {name : String} (same : d.fullName = withoutDot name) :
    p.find? name = some d :=
  find?_of_unique hd same fun _ hd' name => h.descriptors_unique distinct hd' hd name

end Pool

end DynamicRpc.Schema
