import DynamicRpc.Proofs.Reflection.Shelves
import DynamicRpc.Proofs.Reflection.StableNames

/-!
Extensions by number. What a cache answers for a message and a number is an extension that some
cached file declares, and it is the same that its name finds. Nothing keeps two files from using one
number, so the answer is settled only until a file is cached that uses it again.
-/
namespace DynamicRpc.Schema

open Success

/-- A linked file has an extension of a message with a number. -/
structure File.Extends (file : File) (message : String) (number : Nat) (e : Extension) : Prop where
  mem : .extension e ∈ file.descriptors
  extendee : e.extendee = message
  number : e.field.number = number

/-- An extension and the declaration that it was linked from. -/
structure FileDecl.Declares (f : FileDecl) (e : Extension) (scope : String) (x : FieldDecl) :
    Prop where
  mem : .extension scope x ∈ f.declared
  fullName : e.field.fullName = qualify scope x.name
  number : (e.field.number : Int) = x.number

variable {c : Context} {scope : String} {x : FieldDecl} {e : Extension}

theorem checkFieldNumber_eq_ok {n : Int} {number : Nat} (h : checkFieldNumber n = .ok number) :
    (number : Int) = n := by
  unfold checkFieldNumber at h
  split at h
  next => cases h
  next valid =>
    cases h
    simp only [Bool.or_eq_true, decide_eq_true_eq, not_or] at valid
    exact Int.toNat_of_nonneg (by omega)

/-- An extension keeps the name and the number of its declaration. -/
theorem Context.Links.declares {f : FileDecl} (mem : .extension scope x ∈ f.declared)
    (h : c.Links (.extension scope x) (.extension e)) : f.Declares e scope x := by
  obtain ⟨number, s, type, checked, _, _, _, _, rfl⟩ := Context.linkExtension_eq_ok.1 h
  exact ⟨mem, rfl, checkFieldNumber_eq_ok checked⟩

end DynamicRpc.Schema

namespace DynamicRpc.Reflection

open Schema Success

namespace ExtensionIndex

variable {x : ExtensionIndex} {e : Extension} {message : String} {number : Nat}

theorem lookup?_put : (x.put e).lookup? message number =
    if e.extendee = message && e.field.number = number then some e
    else x.lookup? message number := by
  simp only [put, lookup?, List.find?_cons, Bool.and_eq_true, decide_eq_true_eq]
  by_cases same : (e.extendee, e.field.number) = (message, number)
  · rw [if_pos (Prod.mk.inj same), decide_eq_true same]
    rfl
  · rw [if_neg fun h => same (Prod.ext h.1 h.2), decide_eq_false same]
    dsimp only
    rw [List.find?_filter]
    congr 2
    -- What was taken out has the other key, so it is not looked for.
    funext y
    by_cases wanted : y.1 = (message, number)
    · simp [wanted, Ne.symm same]
    · simp [wanted]

/-- Of several extensions with one key the index has the last one. -/
theorem lookup?_ofPool (p : Pool) (message : String) (number : Nat) :
    (ofPool p).lookup? message number = p.extensionOf? message number := by
  rw [ofPool, Pool.extensionOf?]
  induction p.extensions using List.reverseRecOn with
  | nil => rfl
  | append_singleton rest e ih =>
    rw [List.foldl_concat, lookup?_put, ih, List.filter_append, List.getLast?_append]
    split
    next wanted => rw [List.filter_singleton, wanted]; rfl
    next other => rw [List.filter_singleton, Bool.eq_false_iff.2 other]; rfl

end ExtensionIndex

namespace Cache

variable {c c' : Cache} {o : LinkOrder} {batch : List FileDecl} {n : Nat} {message : String}
  {number : Nat} {e : Extension} {file : File}

theorem Indexed.extension?_eq (indexed : c.Indexed) (message : String) (number : Nat) :
    c.extension? message number = c.pool.extensionOf? message number := by
  rw [extension?, indexed, ExtensionIndex.lookup?_ofPool]

/-- A cached file has an extension of a message with a number. -/
def Extends (c : Cache) (message : String) (number : Nat) (e : Extension) : Prop :=
  ∃ file ∈ c.pool.files, file.Extends message number e

/-! Declarations and the extensions that they give -/

/-- Every extension that a cached file declares is one of the cache. -/
theorem Built.extends_of_declared (built : c.Built) {f : FileDecl} (hf : f ∈ c.decls)
    {scope : String} {x : FieldDecl} (hx : .extension scope x ∈ f.declared) :
    ∃ e, c.Extends e.extendee e.field.number e ∧ f.Declares e scope x := by
  obtain ⟨file, hfile, rfl⟩ := List.mem_map.1 hf
  obtain ⟨context, links⟩ := built.linked.resolved hfile
  obtain ⟨d, hd, link⟩ := exists_of_forall₂_left links hx
  cases d with
  | extension e => exact ⟨e, ⟨file, hfile, hd, rfl, rfl⟩, link.declares hx⟩
  | message => exact link.elim
  | service => exact link.elim
  | enum => exact link.elim

/-- Every extension of a cache is declared in a cached file. -/
theorem Built.declared_of_extends (built : c.Built) (h : c.Extends message number e) :
    ∃ f ∈ c.decls, ∃ scope x, f.Declares e scope x := by
  obtain ⟨file, hfile, mem, _, _⟩ := h
  obtain ⟨context, links⟩ := built.linked.resolved hfile
  obtain ⟨x, hx, link⟩ := exists_of_forall₂_right links mem
  cases x with
  | extension scope x => exact ⟨_, List.mem_map_of_mem hfile, scope, x, link.declares hx⟩
  | message => exact link.elim
  | service => exact link.elim
  | enum => exact link.elim

/-! Answers by number -/

theorem extends_iff : c.Extends message number e ↔
    e ∈ c.pool.extensions.filter fun e => e.extendee = message && e.field.number = number := by
  have held : e ∈ c.pool.extensions ↔ .extension e ∈ c.pool.descriptors :=
    (Pool.mem_descriptors (d := .extension e)).symm
  rw [List.mem_filter, held, Pool.descriptors, List.mem_flatMap, Bool.and_eq_true,
    decide_eq_true_eq, decide_eq_true_eq]
  constructor
  · rintro ⟨file, hfile, mem, extendee, number⟩
    exact ⟨⟨file, hfile, mem⟩, extendee, number⟩
  · rintro ⟨⟨file, hfile, mem⟩, extendee, number⟩
    exact ⟨file, hfile, mem, extendee, number⟩

theorem extensionOf?_eq_none :
    c.pool.extensionOf? message number = none ↔ ∀ e, ¬ c.Extends message number e := by
  simp only [Pool.extensionOf?, List.getLast?_eq_none_iff, extends_iff,
    List.eq_nil_iff_forall_not_mem]

/-- What is answered is an extension of the message with the number. -/
theorem Indexed.extends_of_extension? (indexed : c.Indexed)
    (h : c.extension? message number = some e) : c.Extends message number e := by
  rw [indexed.extension?_eq] at h
  exact extends_iff.2 (List.mem_of_getLast? h)

theorem Indexed.extension?_eq_none (indexed : c.Indexed) :
    c.extension? message number = none ↔ ∀ e, ¬ c.Extends message number e := by
  rw [indexed.extension?_eq, extensionOf?_eq_none]

/-- A name finds the same extension as its number. -/
theorem Built.find?_of_extends (built : c.Built) (h : c.Extends message number e) {name : String}
    (same : withoutDot name = e.field.fullName) : c.find? name = some (.extension e) := by
  obtain ⟨file, hfile, mem, _, _⟩ := h
  exact built.linked.find? built.sound.distinct (List.mem_flatMap.2 ⟨file, hfile, mem⟩) same.symm

/-- How the answer for a message and a number fits what is cached. -/
structure Indexes (c : Cache) (message : String) (number : Nat) : Prop where
  absent : c.extension? message number = none ↔ ∀ e, ¬ c.Extends message number e
  present : ∀ e, c.extension? message number = some e → c.Extends message number e
  /-- The only extension with the number is the answer. -/
  only : ∀ e, (∀ e', c.Extends message number e' → e' = e) →
    (c.extension? message number = some e ↔ c.Extends message number e)
  named : ∀ e, c.extension? message number = some e →
    ∀ name, withoutDot name = e.field.fullName → c.find? name = some (.extension e)

theorem Built.indexes (built : c.Built) (message : String) (number : Nat) :
    c.Indexes message number where
  absent := built.indexed.extension?_eq_none
  present _ := built.indexed.extends_of_extension?
  only e unique := by
    refine ⟨built.indexed.extends_of_extension?, fun h => ?_⟩
    cases found : c.extension? message number with
    | none => exact absurd h (built.indexed.extension?_eq_none.1 found e)
    | some e' => rw [unique e' (built.indexed.extends_of_extension? found)]
  named _ h _ := built.find?_of_extends (built.indexed.extends_of_extension? h)

/-! Insertions -/

/-- Inserts batches one after the other, each linked in an order of its own. -/
def insertAll (c : Cache) (batches : List (LinkOrder × List FileDecl)) : Cache :=
  batches.foldl (fun c b => c.adding b.1 b.2) c

/-- A cache holds the files of another in their order, and behind them files that the other does
not know. -/
def Grows (c c' : Cache) : Prop :=
  ∃ files, c'.pool.files = c.pool.files ++ files ∧ ∀ file ∈ files, ¬ c.contains file.path

theorem Grows.refl (c : Cache) : c.Grows c := ⟨[], by simp⟩

theorem contains_of_files {files : List File} (h : c'.pool.files = c.pool.files ++ files)
    {path : String} (known : c.contains path) : c'.contains path := by
  rw [contains_iff, decls, Pool.decls] at *
  rw [h, List.map_append, List.map_append]
  exact List.mem_append_left _ known

theorem Grows.trans {c'' : Cache} (h : c.Grows c') (h' : c'.Grows c'') : c.Grows c'' := by
  obtain ⟨files, first, new⟩ := h
  obtain ⟨files', second, new'⟩ := h'
  refine ⟨files ++ files', by rw [second, first, List.append_assoc], ?_⟩
  intro file hfile known
  rcases List.mem_append.1 hfile with old | later
  · exact new file old known
  · exact new' file later (contains_of_files first known)

/-- Inserting a batch adds files of new names. -/
theorem grows_insert (h : c.insert o batch = (.ok n, c')) : c.Grows c' := by
  obtain ⟨_, _, _, linked, _⟩ := checks_of_insert h
  obtain ⟨known, files, _, hl, pool⟩ := Pool.link_eq_ok.1 linked
  refine ⟨files, by rw [pool], fun file hfile => ?_⟩
  obtain ⟨f, hf, link⟩ := exists_of_forall₂_right hl hfile
  have same : file.path = f.path := by rw [File.path, linkFile_decl link]
  rw [contains_iff, same]
  exact (mem_fresh hf).2

/-- A batch that is refused leaves the cache as it was. -/
theorem adding_cases (c : Cache) (o : LinkOrder) (batch : List FileDecl) :
    c.adding o batch = c ∨ ∃ n, c.insert o batch = (.ok n, c.adding o batch) := by
  rcases h : c.insert o batch with ⟨_ | n, c'⟩
  · exact .inl ((adding_eq h).trans (cache_of_refused h))
  · exact .inr ⟨n, by rw [adding_eq h]⟩

theorem grows_insertAll (c : Cache) (batches : List (LinkOrder × List FileDecl)) :
    c.Grows (c.insertAll batches) := by
  induction batches generalizing c with
  | nil => exact .refl c
  | cons b rest ih =>
    refine Grows.trans ?_ (ih (c.adding b.1 b.2))
    rcases adding_cases c b.1 b.2 with same | ⟨n, h⟩
    · rw [same]
      exact .refl c
    · exact grows_insert h

theorem Built.insertAll (built : c.Built) (batches : List (LinkOrder × List FileDecl)) :
    (c.insertAll batches).Built := by
  induction batches generalizing c with
  | nil => exact built
  | cons b rest ih =>
    refine ih (c := c.adding b.1 b.2) ?_
    rcases adding_cases c b.1 b.2 with same | ⟨n, h⟩
    · rwa [same]
    · exact built.insert h

/-- No extension is lost. -/
theorem Grows.extends (grown : c.Grows c') (h : c.Extends message number e) :
    c'.Extends message number e := by
  obtain ⟨files, split, _⟩ := grown
  obtain ⟨file, hfile, extension⟩ := h
  exact ⟨file, split ▸ List.mem_append_left _ hfile, extension⟩

/-- An answer by number stays as it is until a file brings another extension with the number. -/
theorem Grows.extension? (grown : c.Grows c') (indexed : c.Indexed) (indexed' : c'.Indexed)
    (unused : ∀ file ∈ c'.pool.files, ¬ c.contains file.path →
      ∀ e, ¬ file.Extends message number e) :
    c'.extension? message number = c.extension? message number := by
  obtain ⟨files, split, new⟩ := grown
  have brought : ∀ e, ¬ Extends (ofPool ⟨files⟩) message number e := by
    rintro e ⟨file, hfile, extension⟩
    refine unused file ?_ (new file hfile) e extension
    rw [split]
    exact List.mem_append_right _ hfile
  -- The answer is the last extension with the number, and the new files hold none.
  have none := extensionOf?_eq_none.2 brought
  rw [ofPool_pool, Pool.extensionOf?, List.getLast?_eq_none_iff] at none
  have parts : c'.pool.extensions = c.pool.extensions ++ Pool.extensions ⟨files⟩ := by
    rw [Pool.extensions, split, List.flatMap_append]
    rfl
  rw [indexed'.extension?_eq, indexed.extension?_eq, Pool.extensionOf?, Pool.extensionOf?, parts,
    List.filter_append, none, List.append_nil]

/-- Whatever batches were inserted, and in whatever orders they were linked: an extension is
answered for a message and a number if and only if a cached file declares one, it is one of these,
and its name finds it; and further batches leave the answer as it is unless a file among them, new
to the cache, has an extension with the number. -/
theorem extensions_are_indexed {before after : List (LinkOrder × List FileDecl)}
    (inserted : empty.insertAll before = c) (later : c.insertAll after = c') (message : String)
    (number : Nat) :
    c.Indexes message number ∧
    (∀ f ∈ c.decls, ∀ scope x, .extension scope x ∈ f.declared →
      ∃ e, c.Extends e.extendee e.field.number e ∧ f.Declares e scope x) ∧
    (∀ e, c.Extends message number e → ∃ f ∈ c.decls, ∃ scope x, f.Declares e scope x) ∧
    ((∀ file ∈ c'.pool.files, ¬ c.contains file.path → ∀ e, ¬ file.Extends message number e) →
      c'.extension? message number = c.extension? message number) := by
  have built : c.Built := inserted ▸ Built.empty.insertAll before
  have built' : c'.Built := later ▸ built.insertAll after
  have grown : c.Grows c' := later ▸ grows_insertAll c after
  exact ⟨built.indexes message number, fun f hf scope x => built.extends_of_declared hf,
    fun e => built.declared_of_extends, grown.extension? built.indexed built'.indexed⟩

/-! Extensions of one message -/

/-- The file `m.proto` with a message `M` that has room for extensions. -/
def openFile : Bytes :=
  [10, 7, 109, 46, 112, 114, 111, 116, 111, 34, 10, 10, 1, 77, 42, 5, 8, 100, 16, 200, 1]

/-- The file `a.proto` with an extension `a` of `M` that has the number 100. -/
def extendingFile : Bytes :=
  [10, 7, 97, 46, 112, 114, 111, 116, 111, 26, 7, 109, 46, 112, 114, 111, 116, 111, 58, 13, 10, 1,
  97, 18, 2, 46, 77, 24, 100, 32, 1, 40, 5]

/-- The file `b.proto` with an extension `b` of `M` that has the number 100 too. -/
def collidingFile : Bytes :=
  [10, 7, 98, 46, 112, 114, 111, 116, 111, 26, 7, 109, 46, 112, 114, 111, 116, 111, 58, 13, 10, 1,
  98, 18, 2, 46, 77, 24, 100, 32, 1, 40, 5]

/-- The file `hidden.proto` with an extension `x` of `M` in the package `.p` that has the number
101. -/
def hiddenFile : Bytes :=
  [10, 12, 104, 105, 100, 100, 101, 110, 46, 112, 114, 111, 116, 111, 18, 2, 46, 112, 26, 7, 109,
  46, 112, 114, 111, 116, 111, 58, 13, 10, 1, 120, 18, 2, 46, 77, 24, 101, 32, 1, 40, 5]

/-- A cache with one extension of `M`. -/
def extended : Cache := empty.insertAll [(.asGiven, [decoded openFile, decoded extendingFile])]

theorem built_extended : extended.Built := Built.empty.insertAll _

/-- The full name of the extension that is answered for `M`. -/
def nameOfExtension? (c : Cache) (number : Nat) : Option String :=
  (c.extension? "M" number).map (·.field.fullName)

theorem not_extends_of_alone (h : Pool.extensionOf? ⟨[file]⟩ message number = none)
    (e : Extension) : ¬ file.Extends message number e :=
  fun extension => extensionOf?_eq_none (c := ofPool ⟨[file]⟩).1 h e
    ⟨file, List.mem_singleton_self _, extension⟩

/-- An extension of a message is found by its name, and a file with an extension of another number
leaves the answer as it is. -/
theorem extension_stays_indexed : ∃ e, extended.find? "a" = some (.extension e) ∧
    (extended.insertAll [(.asGiven, [decoded hiddenFile])]).contains "hidden.proto" ∧
    (extended.insertAll [(.asGiven, [decoded hiddenFile])]).extension? "M" 100 = some e := by
  have inserted : empty.insertAll [(.asGiven, [decoded openFile, decoded extendingFile])] =
    extended := rfl
  have later : extended.insertAll [(.asGiven, [decoded hiddenFile])] =
    extended.insertAll [(.asGiven, [decoded hiddenFile])] := rfl
  obtain ⟨indexes, _, _, stays⟩ := extensions_are_indexed inserted later "M" 100
  have answered : nameOfExtension? extended 100 = some "a" := by decide +kernel
  have unused : ∀ file ∈ (extended.insertAll [(.asGiven, [decoded hiddenFile])]).pool.files,
      ¬ extended.contains file.path → Pool.extensionOf? ⟨[file]⟩ "M" 100 = none := by decide +kernel
  obtain ⟨e, found, name⟩ := Option.map_eq_some_iff.1 answered
  refine ⟨e, indexes.named e found "a" name.symm, by decide +kernel, ?_⟩
  rw [stays fun file hfile new => not_extends_of_alone (unused file hfile new), found]

/-- An index that names one extension for each message and number, once and for all. -/
structure Settles (c : Cache) (message : String) (number : Nat) : Prop where
  answers : ∀ e, c.extension? message number = some e ↔ c.Extends message number e
  unique : ∀ e e', c.Extends message number e → c.Extends message number e' → e = e'
  named : ∀ e, c.extension? message number = some e →
    c.find? e.field.fullName = some (.extension e)
  kept : ∀ e, c.extension? message number = some e → ∀ after,
    (c.insertAll after).extension? message number = some e

/-- One file takes the number of another's extension over, and then both have it; and an extension
with a name that starts with a dot is not found under its name. -/
theorem extensions_are_not_settled :
    ¬ extended.Settles "M" 100 ∧
    ¬ (extended.insertAll [(.asGiven, [decoded collidingFile])]).Settles "M" 100 ∧
    ¬ (extended.insertAll [(.asGiven, [decoded hiddenFile])]).Settles "M" 101 := by
  have first : nameOfExtension? extended 100 = some "a" := by decide +kernel
  have second : nameOfExtension? (extended.insertAll [(.asGiven, [decoded collidingFile])]) 100 =
      some "b" := by
    decide +kernel
  obtain ⟨a, found, name⟩ := Option.map_eq_some_iff.1 first
  obtain ⟨b, found', name'⟩ := Option.map_eq_some_iff.1 second
  -- The number was the first one's and is the second one's now, but both are there.
  have differ : a ≠ b := by
    rintro rfl
    exact absurd (name.symm.trans name') (by decide)
  refine ⟨fun settles => ?_, fun settles => ?_, fun settles => ?_⟩
  · have still := settles.kept a found [(.asGiven, [decoded collidingFile])]
    rw [found'] at still
    exact differ (Option.some.inj still).symm
  · have kept := (grows_insertAll extended [(.asGiven, [decoded collidingFile])]).extends
      (built_extended.indexed.extends_of_extension? found)
    have taken := (built_extended.insertAll [(.asGiven, [decoded collidingFile])]).indexed
    exact differ (settles.unique a b kept (taken.extends_of_extension? found'))
  · have dotted : nameOfExtension? (extended.insertAll [(.asGiven, [decoded hiddenFile])]) 101 =
      some ".p.x" := by decide +kernel
    obtain ⟨x, found, name⟩ := Option.map_eq_some_iff.1 dotted
    have absent :
        ((extended.insertAll [(.asGiven, [decoded hiddenFile])]).find? ".p.x").isNone := by
      decide +kernel
    rw [← name, settles.named x found] at absent
    cases absent

end Cache

end DynamicRpc.Reflection
