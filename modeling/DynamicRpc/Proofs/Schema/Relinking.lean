import DynamicRpc.Proofs.Schema.Collecting
import DynamicRpc.Proofs.Schema.Parts
import Mathlib.Data.List.Perm.Subperm

/-!
A file that links against some files links to the same against others. It does if these are the same
files in another order, and also if they are more files, as long as it refers to everything by full
name: then nothing that is added can come between a reference and what it stands for.
-/
namespace DynamicRpc.Schema

open Success Schema.Symbol

/-! References of declarations -/

/-- The references to types of a field. -/
def FieldDecl.references (x : FieldDecl) : List String := x.typeName.toList

/-- The references of an extension; beside its type there is the message that it extends. -/
def FieldDecl.extensionReferences (x : FieldDecl) : List String := x.extendee :: x.references

def MethodDecl.references (m : MethodDecl) : List String := [m.input, m.output]

def ServiceDecl.references (s : ServiceDecl) : List String := s.methods.flatMap (·.references)

mutual

/-- The references of a message, those of the messages inside it included. -/
def MessageDecl.references : MessageDecl → List String
  | ⟨_, fields, _, nested, _, extensions, _, _, _⟩ =>
    fields.flatMap (·.references) ++ referencesOf nested ++
      extensions.flatMap (·.extensionReferences)

def referencesOf : List MessageDecl → List String
  | [] => []
  | m :: rest => m.references ++ referencesOf rest

end

/-- All references to types in a file. -/
def FileDecl.references (f : FileDecl) : List String :=
  referencesOf f.messages ++ f.services.flatMap (·.references) ++
    f.extensions.flatMap (·.extensionReferences)

/-- A full name: it has a leading dot. -/
def IsAbsolute (name : String) : Prop := name.toList.head? = some '.'

instance (name : String) : Decidable (IsAbsolute name) :=
  inferInstanceAs (Decidable (name.toList.head? = some '.'))

theorem IsAbsolute.reference {name : String} (h : IsAbsolute name) :
    ∃ full, Reference.of name = .absolute full := by
  obtain ⟨full, dot⟩ : ∃ full, name.toList = '.' :: full := by
    cases chars : name.toList with
    | nil => simp [IsAbsolute, chars] at h
    | cons c full =>
      rw [IsAbsolute, chars, List.head?_cons] at h
      cases h
      exact ⟨full, rfl⟩
  exact ⟨String.ofList full, by simp only [Reference.of, dot]⟩

/-! More files let a file use more -/

theorem subset_passOn (files : List FileDecl) (seen : List String) (fuel : Nat) :
    seen ⊆ passOn files seen fuel := by
  induction fuel generalizing seen with
  | zero => exact List.Subset.refl _
  | succ fuel ih =>
    rw [passOn_succ]
    split
    next => exact List.Subset.refl _
    next => exact List.Subset.trans (List.subset_append_left _ _) (ih _)

theorem passOn_mono {files files' : List FileDecl} {seen seen' : List String} {fuel fuel' : Nat}
    (sub : files ⊆ files') (hs : seen ⊆ seen') (le : fuel ≤ fuel') :
    passOn files seen fuel ⊆ passOn files' seen' fuel' := by
  induction fuel generalizing seen seen' fuel' with
  | zero => exact List.Subset.trans hs (subset_passOn files' seen' fuel')
  | succ fuel ih =>
    obtain ⟨fuel', rfl⟩ : ∃ n, fuel' = n + 1 := ⟨fuel' - 1, by omega⟩
    by_cases none : (newlyPassedOn files' seen').isEmpty
    · -- The wider list has come to its end, so the other cannot leave it any more.
      rw [passOn_succ files', if_pos none]
      refine passOn_subset hs (fun f hf path d hd => ?_) _
      by_contra new
      have mem := mem_newlyPassedOn.2 ⟨⟨f, sub hf, path, hd⟩, new⟩
      rw [List.isEmpty_iff.1 none] at mem
      cases mem
    · by_cases done : (newlyPassedOn files seen).isEmpty
      · rw [passOn_succ files, if_pos done]
        exact List.Subset.trans hs (subset_passOn files' seen' (fuel' + 1))
      · rw [passOn_succ files, passOn_succ files', if_neg none, if_neg done]
        refine ih (List.append_subset.2 ⟨List.subset_append_of_subset_left _ hs, fun d hd => ?_⟩)
          (by omega)
        obtain ⟨⟨f, hf, path, hd⟩, _⟩ := mem_newlyPassedOn.1 (List.mem_eraseDups.1 hd)
        by_cases old : d ∈ seen'
        · exact List.mem_append_left _ old
        · have mem := mem_newlyPassedOn.2 ⟨⟨f, sub hf, hs path, hd⟩, old⟩
          exact List.mem_append_right _ (List.mem_eraseDups.2 mem)

theorem FileDecl.visible_mono {files files' : List FileDecl} (sub : files.Subperm files')
    (f : FileDecl) : f.visible files ⊆ f.visible files' :=
  List.cons_subset_cons _ (passOn_mono sub.subset (List.Subset.refl _) sub.length_le)

namespace Context

variable {c c' : Context} {w : Wanted} {scope name : String} {s : Symbol}

/-- What one context knows, another knows as well. -/
structure Covers (c c' : Context) : Prop where
  generation : c.firstGeneration = c'.firstGeneration
  visible : c.visible ⊆ c'.visible
  known : ∀ n y, c.symbol? n = some y → ∃ y', c'.symbol? n = some y' ∧ y.Same y'

namespace Covers

/-- What two contexts both lack, or both know. -/
theorem symbol?_eq_none (back : c'.Covers c) {n : String} (h : c.symbol? n = none) :
    c'.symbol? n = none := by
  cases found : c'.symbol? n with
  | none => rfl
  | some y =>
    obtain ⟨y', found', _⟩ := back.known n y found
    cases h.symm.trans found'

theorem resolveSimple (there : c.Covers c') (back : c'.Covers c) {other other' : Option String}
    (outward : List String) (h : c.resolveSimple w name other outward = .ok s) :
    c'.resolveSimple w name other' outward = .ok s := by
  induction outward generalizing other other' with
  | nil =>
    unfold Context.resolveSimple at h
    split at h <;> cases h
  | cons inner rest ih =>
    unfold Context.resolveSimple at h ⊢
    cases found : c.symbol? (qualify inner name) with
    | none =>
      simp only [found] at h
      simp only [back.symbol?_eq_none found]
      exact ih h
    | some y =>
      obtain ⟨y', found', same⟩ := there.known _ y found
      simp only [found] at h
      simp only [found', ← same.definition]
      split at h
      next accepted =>
        cases h
        rw [if_pos accepted, same.eq (Wanted.ne_package accepted)]
      next refused =>
        rw [if_neg refused]
        exact ih h

theorem resolveDotted (there : c.Covers c') (back : c'.Covers c) {first tail : String}
    (outward : List String) (h : c.resolveDotted name first tail outward = .ok s) :
    ∃ s', c'.resolveDotted name first tail outward = .ok s' ∧ s.Same s' := by
  induction outward with
  | nil => cases h
  | cons inner rest ih =>
    unfold Context.resolveDotted at h ⊢
    dsimp only at h ⊢
    have namespaces : (c'.symbol? (qualify inner first)).any (·.definition.isNamespace) =
        (c.symbol? (qualify inner first)).any (·.definition.isNamespace) := by
      cases found : c.symbol? (qualify inner first) with
      | none => rw [back.symbol?_eq_none found]
      | some y =>
        obtain ⟨y', found', same⟩ := there.known _ y found
        rw [found', Option.any_some, Option.any_some, same.definition]
    rw [namespaces]
    split at h
    next ns =>
      rw [if_pos ns]
      split at h
      next y found =>
        cases h
        obtain ⟨y', found', same⟩ := there.known _ s found
        exact ⟨y', by rw [found'], same⟩
      next => cases h
    next ns =>
      rw [if_neg ns]
      exact ih h

/-- A search for a full name finds it among more. -/
theorem search_absolute (there : c.Covers c') {full : String}
    (h : c.search w scope name (.absolute full) = .ok s) :
    ∃ s', c'.search w scope name (.absolute full) = .ok s' ∧ s.Same s' := by
  unfold search at h ⊢
  dsimp only at h ⊢
  split at h
  next y found =>
    cases h
    obtain ⟨y', found', same⟩ := there.known _ s found
    exact ⟨y', by rw [found'], same⟩
  next => cases h

theorem search (there : c.Covers c') (back : c'.Covers c) {r : Reference}
    (h : c.search w scope name r = .ok s) :
    ∃ s', c'.search w scope name r = .ok s' ∧ s.Same s' := by
  cases r with
  | absolute full => exact there.search_absolute h
  | simple => exact ⟨s, there.resolveSimple back _ h, .inl rfl⟩
  | dotted first tail => exact there.resolveDotted back _ h

/-- What a search finds in both is resolved to in both. -/
theorem resolve (there : c.Covers c')
    (found : ∀ s, c.search w scope name (.of name) = .ok s →
      ∃ s', c'.search w scope name (.of name) = .ok s' ∧ s.Same s')
    (h : c.resolve w scope name = .ok s) : c'.resolve w scope name = .ok s := by
  obtain ⟨hs, accepted, usable⟩ := resolve_eq_ok.1 h
  obtain ⟨s', hs', same⟩ := found s hs
  obtain rfl := same.eq (Wanted.ne_package accepted)
  exact resolve_eq_ok.2 ⟨hs', accepted, there.visible usable.visible, usable.type⟩

end Covers

/-- References of some form resolve in one context to what they resolve to in another. -/
structure Carries (allowed : String → Prop) (c c' : Context) : Prop where
  covers : c.Covers c'
  resolve : ∀ {w scope name s}, allowed name → c.resolve w scope name = .ok s →
    c'.resolve w scope name = .ok s

/-- Full names resolve to the same where more is known. -/
theorem Covers.carries_absolute (there : c.Covers c') : Carries IsAbsolute c c' where
  covers := there
  resolve := by
    intro w scope name s absolute h
    obtain ⟨full, kind⟩ := absolute.reference
    refine there.resolve (fun s hs => ?_) h
    rw [kind] at hs ⊢
    exact there.search_absolute hs

/-- All references resolve to the same where the same is known. -/
theorem Covers.carries (there : c.Covers c') (back : c'.Covers c) :
    Carries (fun _ => True) c c' where
  covers := there
  resolve _ h := there.resolve (fun _ => there.search back) h

namespace Carries

variable {allowed : String → Prop}

theorem field (h : Carries allowed c c') (number : Nat) (type : FieldType) (x : FieldDecl) :
    c.field scope number type x = c'.field scope number type x := by
  simp only [Context.field, h.covers.generation]

theorem fieldType (h : Carries allowed c c') {x : FieldDecl} {t : FieldType}
    (ok : ∀ name ∈ x.references, allowed name) (ht : c.fieldType scope x = .ok t) :
    c'.fieldType scope x = .ok t := by
  unfold Context.fieldType at ht ⊢
  cases some : x.typeName with
  | none =>
    rw [some] at ht
    exact ht
  | some name =>
    rw [some] at ht
    obtain ⟨s, hs, ht⟩ := bind_eq_ok.1 ht
    have full : allowed name := ok name (by simp [FieldDecl.references, some])
    exact bind_eq_ok.2 ⟨s, h.resolve full hs, ht⟩

theorem checkDefault (h : Carries allowed c c') {x : FieldDecl} {t : FieldType}
    (hd : c.checkDefault t x = .ok ()) : c'.checkDefault t x = .ok () := by
  unfold Context.checkDefault at hd ⊢
  cases some : x.default with
  | none => rfl
  | some text =>
    rw [some] at hd
    cases t with
    | enum name =>
      dsimp only at hd ⊢
      cases found : c.symbol? name with
      | none =>
        rw [found] at hd
        cases hd
      | some y =>
        obtain ⟨y', found', same⟩ := h.covers.known _ y found
        obtain ⟨n, file, kind⟩ := y
        rw [found] at hd
        cases kind with
        | enum e =>
          obtain rfl := same.eq nofun
          rw [found']
          exact hd
        | _ => cases hd
    | _ => exact hd

theorem linkFields (h : Carries allowed c c') {m : MessageDecl} {full : String}
    {fields : List FieldDecl} {done fs : List Field}
    (ok : ∀ name ∈ fields.flatMap (·.references), allowed name)
    (hf : c.linkFields m full done fields = .ok fs) :
    c'.linkFields m full done fields = .ok fs := by
  induction fields generalizing done with
  | nil => exact hf
  | cons x rest ih =>
    rw [List.flatMap_cons, List.forall_mem_append] at ok
    obtain ⟨number, type, hn, ht, hd, admits, hf⟩ := linkFields_cons_eq_ok.1 hf
    rw [h.field] at admits hf
    exact linkFields_cons_eq_ok.2
      ⟨number, type, hn, h.fieldType ok.1 ht, h.checkDefault hd, admits, ih ok.2 hf⟩

theorem linkExtension (h : Carries allowed c c') {x : FieldDecl} {t : Extension}
    (ok : ∀ name ∈ x.extensionReferences, allowed name) (ht : c.linkExtension scope x = .ok t) :
    c'.linkExtension scope x = .ok t := by
  rw [FieldDecl.extensionReferences, List.forall_mem_cons] at ok
  obtain ⟨number, s, type, hn, hs, inside, htype, hd, rfl⟩ := linkExtension_eq_ok.1 ht
  rw [h.field]
  exact linkExtension_eq_ok.2 ⟨number, s, type, hn, h.resolve ok.1 hs, inside,
    h.fieldType ok.2 htype, h.checkDefault hd, rfl⟩

theorem linkEnum (h : Carries allowed c c') (scope : String) (e : EnumDecl) :
    c.linkEnum scope e = c'.linkEnum scope e := by
  simp only [Context.linkEnum, h.covers.generation]

theorem linkMethod (h : Carries allowed c c') {m : MethodDecl} {t : Method}
    (ok : ∀ name ∈ m.references, allowed name) (ht : c.linkMethod scope m = .ok t) :
    c'.linkMethod scope m = .ok t := by
  simp only [MethodDecl.references, List.forall_mem_cons] at ok
  obtain ⟨input, hi, ht⟩ := bind_eq_ok.1 ht
  obtain ⟨output, ho, ht⟩ := bind_eq_ok.1 ht
  exact bind_eq_ok.2 ⟨input, h.resolve ok.1 hi, bind_eq_ok.2 ⟨output, h.resolve ok.2.1 ho, ht⟩⟩

theorem linkService (h : Carries allowed c c') {s : ServiceDecl} {t : Service}
    (ok : ∀ name ∈ s.references, allowed name) (ht : c.linkService scope s = .ok t) :
    c'.linkService scope s = .ok t := by
  obtain ⟨methods, hm, ht⟩ := bind_eq_ok.1 ht
  refine bind_eq_ok.2 ⟨methods, mapM_ok_of_mem (fun m mem t => ?_) hm, ht⟩
  refine h.linkMethod fun name hn => ?_
  exact ok name (List.mem_flatMap.2 ⟨m, mem, hn⟩)

/-- The extensions of a scope. -/
theorem linkExtensions (h : Carries allowed c c') {xs : List FieldDecl} {ts : List Extension}
    (ok : ∀ name ∈ xs.flatMap (·.extensionReferences), allowed name)
    (ht : xs.mapM (c.linkExtension scope) = .ok ts) :
    xs.mapM (c'.linkExtension scope) = .ok ts :=
  mapM_ok_of_mem (fun x hx _ => h.linkExtension fun name hn =>
    ok name (List.mem_flatMap.2 ⟨x, hx, hn⟩)) ht

theorem linkEnums (h : Carries allowed c c') {es : List EnumDecl} {ts : List EnumType}
    (ht : es.mapM (c.linkEnum scope) = .ok ts) : es.mapM (c'.linkEnum scope) = .ok ts :=
  mapM_ok_of_mem (fun e _ _ => (h.linkEnum scope e ▸ ·)) ht

mutual

theorem linkMessage (h : Carries allowed c c') (scope : String) (m : MessageDecl) (t : MessageType)
    (ok : ∀ name ∈ m.references, allowed name) (ht : c.linkMessage scope m = .ok t) :
    c'.linkMessage scope m = .ok t := by
  cases m with
  | mk name fields oneofs nested enums extensions ranges reserved mapEntry =>
    rw [MessageDecl.references, List.forall_mem_append, List.forall_mem_append] at ok
    simp only [Context.linkMessage, bind_eq_ok, pure_eq_ok] at ht ⊢
    obtain ⟨fs, hf, ms, hm, es, he, xs, hx, rfl⟩ := ht
    exact ⟨fs, h.linkFields ok.1.1 hf, ms, linkMessages h _ nested ms ok.1.2 hm, es,
      h.linkEnums he, xs, h.linkExtensions ok.2 hx, rfl⟩

theorem linkMessages (h : Carries allowed c c') (scope : String) (ms : List MessageDecl)
    (ts : List MessageType) (ok : ∀ name ∈ referencesOf ms, allowed name)
    (ht : c.linkMessages scope ms = .ok ts) : c'.linkMessages scope ms = .ok ts := by
  cases ms with
  | nil => exact ht
  | cons m rest =>
    rw [referencesOf, List.forall_mem_append] at ok
    simp only [Context.linkMessages, bind_eq_ok, pure_eq_ok] at ht ⊢
    obtain ⟨t, hm, ts, hr, rfl⟩ := ht
    exact ⟨t, linkMessage h scope m t ok.1 hm, ts, linkMessages h scope rest ts ok.2 hr, rfl⟩

end

end Carries

end Context

/-! Files -/

variable {files files' first second : List FileDecl} {known known' : List Symbol} {f : FileDecl}
  {file : File}

theorem linkFile_of_carries {allowed : String → Prop}
    (h : Context.Carries allowed (f.context files known) (f.context files' known'))
    (ok : ∀ name ∈ f.references, allowed name) (hf : linkFile files known f = .ok file) :
    linkFile files' known' f = .ok file := by
  rw [FileDecl.references, List.forall_mem_append, List.forall_mem_append] at ok
  unfold linkFile at hf ⊢
  split at hf
  next => cases hf
  next indices =>
    rw [if_neg indices]
    simp only [bind_eq_ok, pure_eq_ok] at hf ⊢
    obtain ⟨messages, hm, enums, he, services, hs, extensions, hx, rfl⟩ := hf
    refine ⟨messages, h.linkMessages _ _ _ ok.1.1 hm, enums, h.linkEnums he, services, ?_,
      extensions, h.linkExtensions ok.2 hx, rfl⟩
    exact mapM_ok_of_mem (fun s hs _ => h.linkService fun name hn =>
      ok.1.2 name (List.mem_flatMap.2 ⟨s, hs, hn⟩)) hs

/-- More files cover what fewer do. -/
theorem FileDecl.context_covers (sub : files.Subperm files')
    (table : Table (symbolsOfFiles files) known) (table' : Table (symbolsOfFiles files') known')
    (f : FileDecl) : (f.context files known).Covers (f.context files' known') where
  generation := rfl
  visible := f.visible_mono sub
  known n y found := by
    obtain ⟨mem, rfl⟩ := table.mem_of_find? found
    exact table'.find? (symbolsOfFiles_subset sub.subset mem)

/-- The order of the files that a file is linked against does not matter. -/
theorem linkFile_of_perm (order : files.Perm files')
    (table : Table (symbolsOfFiles files) known) (table' : Table (symbolsOfFiles files') known')
    (hf : linkFile files known f = .ok file) : linkFile files' known' f = .ok file :=
  linkFile_of_carries ((f.context_covers order.subperm table table').carries
    (f.context_covers order.symm.subperm table' table)) (fun _ _ => trivial) hf

/-- A file that refers to everything by full name is linked to the same against more files. -/
theorem linkFile_of_subperm (sub : files.Subperm files')
    (table : Table (symbolsOfFiles files) known) (table' : Table (symbolsOfFiles files') known')
    (absolute : ∀ name ∈ f.references, IsAbsolute name) (hf : linkFile files known f = .ok file) :
    linkFile files' known' f = .ok file :=
  linkFile_of_carries (f.context_covers sub table table').carries_absolute absolute hf

/-! Pools -/

namespace Pool

variable {p q r : Pool}

/-- New files in another order are linked to the same files in that order. -/
theorem link_perm (hp : p.symbols.Pairwise Apart) (order : files.Perm files')
    (h : p.link files = .ok q) :
    ∃ new new', q = ⟨p.files ++ new⟩ ∧ p.link files' = .ok ⟨p.files ++ new'⟩ ∧
      new.Perm new' := by
  obtain ⟨known, new, hs, hl, rfl⟩ := link_eq_ok.1 h
  obtain ⟨known', hs'⟩ := collects_of_perm hp hs order
  have relinked : List.Forall₂
      (fun f file => linkFile (p.decls ++ files') known' f = .ok file) files new :=
    hl.imp fun _ _ => linkFile_of_perm (order.append_left _) (link_table hp hs) (link_table hp hs')
  obtain ⟨new', hl', same⟩ := List.perm_comp_forall₂ order.symm relinked
  exact ⟨new, new', rfl, link_eq_ok.2 ⟨known', new', hs', hl', rfl⟩, same.symm⟩

/-- Files whose names can be collected one after the other can have them collected at once. -/
theorem collects_append (hp : p.symbols.Pairwise Apart)
    (hs : first.foldlM FileDecl.define p.symbols = .ok known) (hq : q.decls = p.decls ++ first)
    (apart : q.symbols.Pairwise Apart)
    (hs' : second.foldlM FileDecl.define q.symbols = .ok known') :
    ∃ all, (first ++ second).foldlM FileDecl.define p.symbols = .ok all := by
  obtain ⟨spelt, _⟩ := (Table.refl hp).defineFiles_iff.1 ⟨known, hs⟩
  obtain ⟨spelt', whole⟩ := (Table.refl apart).defineFiles_iff.1 ⟨known', hs'⟩
  refine (Table.refl hp).defineFiles_iff.2 ⟨List.forall_mem_append.2 ⟨spelt, spelt'⟩, ?_⟩
  rw [symbols_eq, hq] at whole
  rw [symbols_eq]
  simpa [symbolsOfFiles] using whole

/-- Files that link one after the other link at once, to the same pool. -/
theorem link_append (hp : p.symbols.Pairwise Apart)
    (absolute : ∀ f ∈ first, ∀ name ∈ f.references, IsAbsolute name)
    (h : p.link first = .ok q) (h' : q.link second = .ok r) : p.link (first ++ second) = .ok r := by
  have decls : q.decls = p.decls ++ first := link_decls h
  obtain ⟨known, new, hs, hl, rfl⟩ := link_eq_ok.1 h
  have table := link_table hp hs
  have apart : (symbols ⟨p.files ++ new⟩).Pairwise Apart := by
    rw [symbols_eq, decls]
    exact table.apart
  obtain ⟨known', new', hs', hl', rfl⟩ := link_eq_ok.1 h'
  have table' := link_table apart hs'
  rw [decls, List.append_assoc] at hl' table'
  obtain ⟨all, joined⟩ := collects_append hp hs decls apart hs'
  have whole := link_table hp joined
  have sub : (p.decls ++ first).Subperm (p.decls ++ (first ++ second)) := by
    rw [← List.append_assoc]
    exact (List.sublist_append_left _ _).subperm
  refine link_eq_ok.2 ⟨all, new ++ new', joined, List.rel_append ?_ ?_, by rw [List.append_assoc]⟩
  · exact forall₂_of_mem (fun f hf _ => linkFile_of_subperm sub table whole (absolute f hf)) hl
  · exact hl'.imp fun _ _ => linkFile_of_perm (.refl _) table' whole

end Pool

end DynamicRpc.Schema
