import DynamicRpc.Proofs.Schema.Imports
import DynamicRpc.Proofs.Schema.Resolution

/-!
Parts of a schema that are closed under imports. A file may use only names of its part, so linking
it against the part or against all files makes the same of it. This needs that the part also holds
the namespaces that lead to its types; otherwise a file outside the part can define a namespace that
a reference is led into.
-/
namespace DynamicRpc.Schema

open Success Schema.Symbol

/-! Symbols and their files -/

theorem enum_symbols_file {file scope : String} {e : EnumDecl} {y : Symbol}
    (h : y ∈ e.symbols file scope) : y.file = file := by
  simp only [EnumDecl.symbols, List.mem_cons, List.mem_map] at h
  rcases h with rfl | ⟨_, _, rfl⟩ <;> rfl

theorem extension_symbols_file {file scope : String} {extensions : List FieldDecl} {y : Symbol}
    (h : y ∈ extensionSymbols file scope extensions) : y.file = file := by
  obtain ⟨_, _, rfl⟩ := List.mem_map.1 h
  rfl

mutual

theorem message_symbols_file (file scope : String) (m : MessageDecl) (y : Symbol)
    (h : y ∈ m.symbols file scope) : y.file = file := by
  cases m with
  | mk name fields oneofs nested enums extensions ranges reserved mapEntry =>
    simp only [MessageDecl.symbols, List.mem_append, List.mem_cons, List.mem_map,
      List.mem_flatMap] at h
    rcases h with ((((rfl | ⟨_, _, rfl⟩) | ⟨_, _, rfl⟩) | h) | ⟨_, _, h⟩) | h
    · rfl
    · rfl
    · rfl
    · exact symbolsOf_file file _ nested y h
    · exact enum_symbols_file h
    · exact extension_symbols_file h

theorem symbolsOf_file (file scope : String) (ms : List MessageDecl) (y : Symbol)
    (h : y ∈ symbolsOf file scope ms) : y.file = file := by
  cases ms with
  | nil => cases h
  | cons m rest =>
    rcases List.mem_append.1 h with h | h
    · exact message_symbols_file file scope m y h
    · exact symbolsOf_file file scope rest y h

end

theorem FileDecl.symbols_file {f : FileDecl} {y : Symbol} (h : y ∈ f.symbols) :
    y.file = f.path := by
  simp only [symbols, List.mem_append, List.mem_map, List.mem_flatMap] at h
  rcases h with (((⟨_, _, rfl⟩ | h) | ⟨_, _, h⟩) | ⟨s, _, h⟩) | h
  · rfl
  · exact symbolsOf_file _ _ _ y h
  · exact enum_symbols_file h
  · simp only [ServiceDecl.symbols, List.mem_cons, List.mem_map] at h
    rcases h with rfl | ⟨_, _, rfl⟩ <;> rfl
  · exact extension_symbols_file h

/-! What a file may use -/

theorem FileDecl.passedOn_subset_imports (f : FileDecl) : f.passedOn ⊆ f.imports := by
  intro d hd
  obtain ⟨i, _, h⟩ := List.mem_filterMap.1 hd
  split at h
  next => cases h
  next => exact List.mem_of_getElem? h

/-- What the files of some names pass on beside these names. -/
def newlyPassedOn (files : List FileDecl) (seen : List String) : List String :=
  ((files.filter fun f => seen.contains f.path).flatMap (·.passedOn)).filter
    fun n => !seen.contains n

theorem mem_newlyPassedOn {files : List FileDecl} {seen : List String} {d : String} :
    d ∈ newlyPassedOn files seen ↔
      (∃ f ∈ files, f.path ∈ seen ∧ d ∈ f.passedOn) ∧ d ∉ seen := by
  simp [newlyPassedOn, and_assoc]

theorem passOn_succ (files : List FileDecl) (seen : List String) (fuel : Nat) :
    passOn files seen (fuel + 1) = if (newlyPassedOn files seen).isEmpty then seen
      else passOn files (seen ++ (newlyPassedOn files seen).eraseDups) fuel := rfl

/-- What is passed on stays among names that hold all that their files pass on. -/
theorem passOn_subset {files : List FileDecl} {seen names : List String} (hs : seen ⊆ names)
    (closed : ∀ f ∈ files, f.path ∈ names → f.passedOn ⊆ names) (fuel : Nat) :
    passOn files seen fuel ⊆ names := by
  induction fuel generalizing seen with
  | zero => exact hs
  | succ fuel ih =>
    rw [passOn_succ]
    split
    next => exact hs
    next =>
      refine ih (List.append_subset.2 ⟨hs, fun d hd => ?_⟩)
      obtain ⟨⟨f, hf, path, hd⟩, _⟩ := mem_newlyPassedOn.1 (List.mem_eraseDups.1 hd)
      exact closed f hf (hs path) hd

/-- Files of a schema that import only each other. -/
structure Part (part whole : List FileDecl) : Prop where
  subset : part ⊆ whole
  distinct : (whole.map (·.path)).Nodup
  closed : Closed part

namespace Part

variable {part whole : List FileDecl} {f g : FileDecl}

/-- A file that goes by a name of the part belongs to it. -/
theorem mem_of_path (h : Part part whole) (hg : g ∈ whole) (path : g.path ∈ part.map (·.path)) :
    g ∈ part := by
  obtain ⟨f, hf, same⟩ := List.mem_map.1 path
  rwa [← List.inj_on_of_nodup_map h.distinct (h.subset hf) hg same]

/-- A file of the part passes on only files of the part. -/
theorem passedOn_subset (h : Part part whole) (hg : g ∈ whole) (path : g.path ∈ part.map (·.path)) :
    g.passedOn ⊆ part.map (·.path) :=
  fun d hd => h.closed g (h.mem_of_path hg path) d (g.passedOn_subset_imports hd)

/-- A file of the part may use only files of the part. -/
theorem visible_subset (h : Part part whole) (hf : f ∈ part) :
    f.visible whole ⊆ part.map (·.path) := by
  intro d hd
  rcases List.mem_cons.1 hd with rfl | hd
  · exact List.mem_map_of_mem hf
  · refine passOn_subset (fun d hd => ?_) (fun g => h.passedOn_subset) _ hd
    rw [List.mem_eraseDups] at hd
    exact h.closed f hf d hd

/-- What a file of the part may use is defined in the part. -/
theorem usable_mem (h : Part part whole) (hf : f ∈ part) {y : Symbol}
    (hy : y ∈ symbolsOfFiles whole) (visible : y.file ∈ f.visible whole) :
    y ∈ symbolsOfFiles part := by
  obtain ⟨g, hg, hy⟩ := List.mem_flatMap.1 hy
  rw [FileDecl.symbols_file hy] at visible
  exact List.mem_flatMap.2 ⟨g, h.mem_of_path hg (h.visible_subset hf visible), hy⟩

end Part

/-! Linking against a part and against the whole -/

/-- A symbol that can have others inside its name. -/
def Namespace (files : List FileDecl) (name : String) : Prop :=
  ∃ z ∈ symbolsOfFiles files, z.name = name ∧ z.definition.isNamespace

/-- A part has the namespaces that lead to its types, as far as the whole has them. -/
def Encloses (part whole : List FileDecl) : Prop :=
  ∀ y ∈ symbolsOfFiles part, Wanted.type.accepts y.definition → ∀ outer tail,
    y.name = outer ++ "." ++ tail → Namespace whole outer → Namespace part outer

namespace Table

variable {files : List FileDecl} {known : List Symbol} {n : String} {y : Symbol}

theorem mem_of_find? {defined : List Symbol} (table : Table defined known)
    (h : known.find? (·.name = n) = some y) : y ∈ defined ∧ y.name = n := by
  obtain ⟨mem, name⟩ := named_of_find? h
  exact ⟨table.listed mem, name⟩

theorem isNamespace_iff (table : Table (symbolsOfFiles files) known) :
    (known.find? (·.name = n)).any (·.definition.isNamespace) ↔ Namespace files n := by
  rw [Option.any_eq_true]
  constructor
  · rintro ⟨y, found, ns⟩
    obtain ⟨mem, name⟩ := table.mem_of_find? found
    exact ⟨y, mem, name, ns⟩
  · rintro ⟨z, hz, rfl, ns⟩
    obtain ⟨y, found, same⟩ := table.find? hz
    exact ⟨y, found, same.definition ▸ ns⟩

end Table

variable {part whole : List FileDecl} {f : FileDecl}

theorem symbolsOfFiles_subset (h : part ⊆ whole) : symbolsOfFiles part ⊆ symbolsOfFiles whole :=
  fun y hy => by
    obtain ⟨g, hg, hy⟩ := List.mem_flatMap.1 hy
    exact List.mem_flatMap.2 ⟨g, h hg, hy⟩

/-- A file of a part is resolved against less, but nothing that it may use is gone. -/
theorem Part.within (h : Part part whole) (encloses : Encloses part whole)
    {known known' : List Symbol} (table : Table (symbolsOfFiles part) known)
    (table' : Table (symbolsOfFiles whole) known') (hf : f ∈ part) :
    (f.context part known).Within (f.context whole known') where
  generation := rfl
  known n y found := by
    obtain ⟨mem, rfl⟩ := table.mem_of_find? found
    exact table'.find? (symbolsOfFiles_subset h.subset mem)
  usable n y' found usable := by
    obtain ⟨mem, rfl⟩ := table'.mem_of_find? found
    obtain ⟨y, found, same⟩ := table.find? (h.usable_mem hf mem usable.visible)
    exact ⟨y, found, same.symm⟩
  enclosing outer tail y' found usable ns := by
    obtain ⟨mem, name⟩ := table'.mem_of_find? found
    refine table.isNamespace_iff.2 ?_
    exact encloses y' (h.usable_mem hf mem usable.visible) usable.type outer tail name
      (table'.isNamespace_iff.1 ns)

/-- A file of a part has the same descriptors when it is linked against the whole. -/
theorem Part.descriptors (h : Part part whole) (encloses : Encloses part whole)
    {known known' : List Symbol} (table : Table (symbolsOfFiles part) known)
    (table' : Table (symbolsOfFiles whole) known') (hf : f ∈ part) {file file' : File}
    (hfile : linkFile part known f = .ok file) (hfile' : linkFile whole known' f = .ok file') :
    file.descriptors = file'.descriptors := by
  have agree : ∀ x d d', (f.context part known).Links x d → (f.context whole known').Links x d' →
      d = d' := fun _ _ _ hd hd' => (h.within encloses table table' hf).links hd hd'
  exact eq_of_forall₂ agree (linkFile_links hfile) (linkFile_links hfile')

theorem encloses_of_subset (h : whole ⊆ part) : Encloses part whole := by
  rintro y _ _ outer _ _ ⟨z, hz, name, ns⟩
  exact ⟨z, symbolsOfFiles_subset h hz, name, ns⟩

end DynamicRpc.Schema
