import DynamicRpc.Proofs.Reflection.ExtensionIndex
import DynamicRpc.Proofs.Reflection.StuckFiles
import DynamicRpc.Proofs.Schema.Relinking

/-!
The order of a batch, and the order in which its new files are linked. Neither decides whether the
batch is taken, nor over what it is refused, and both leave the same files and names in the cache.
The one thing that is decided is which of several new files is asked for an extension that they all
have.
-/
namespace DynamicRpc.Schema

open Success

/-- Where at most one element of a list contributes, the order does not matter. -/
theorem flatMap_eq_of_perm {α β : Type} {g : α → List β} {xs ys : List α} (order : xs.Perm ys)
    (single : ∀ x ∈ xs, ∀ y ∈ xs, g x ≠ [] → g y ≠ [] → x = y) : xs.flatMap g = ys.flatMap g := by
  induction order with
  | nil => rfl
  | cons x _ ih =>
    rw [List.flatMap_cons, List.flatMap_cons, ih]
    intro y hy z hz
    exact single y (List.mem_cons_of_mem _ hy) z (List.mem_cons_of_mem _ hz)
  | swap x y rest =>
    simp only [List.flatMap_cons, ← List.append_assoc]
    congr 1
    by_cases hx : g x = []
    · rw [hx, List.append_nil, List.nil_append]
    · by_cases hy : g y = []
      · rw [hy, List.append_nil, List.nil_append]
      · rw [single x (by simp) y (by simp) hx hy]
  | trans first _ ih ih' =>
    rw [ih single, ih' fun x hx y hy => single x (first.mem_iff.2 hx) y (first.mem_iff.2 hy)]

namespace Pool

variable {p q : Pool}

/-- Names find the same in pools with the same files. -/
theorem Linked.find?_of_perm (hp : p.Linked) (hq : q.Linked)
    (distinct : (p.decls.map (·.path)).Nodup) (order : p.files.Perm q.files) (name : String) :
    p.find? name = q.find? name := by
  have distinct' : (q.decls.map (·.path)).Nodup := ((order.map _).map _).nodup_iff.1 distinct
  have same : ∀ d, d ∈ p.descriptors ↔ d ∈ q.descriptors := fun d =>
    (order.flatMap_right _).mem_iff
  cases found : p.find? name with
  | some d =>
    obtain ⟨mem, full⟩ := find?_mem found
    exact (hq.find? distinct' ((same d).1 mem) full).symm
  | none =>
    cases found' : q.find? name with
    | none => rfl
    | some d =>
      obtain ⟨mem, full⟩ := find?_mem found'
      cases found.symm.trans (hp.find? distinct ((same d).2 mem) full)

end Pool

end DynamicRpc.Schema

namespace DynamicRpc.Reflection.Cache

open Schema Success

variable {c a b : Cache} {o o' : LinkOrder} {batch batch' : List FileDecl} {n : Nat}
  {message : String} {number : Nat}

/-! New files in another order -/

theorem firsts_eq_filter (distinct : (batch.map (·.path)).Nodup) :
    c.firsts batch = batch.filter fun f => !c.contains f.path := by
  induction batch using List.reverseRecOn with
  | nil => rfl
  | append_singleton batch f ih =>
    rw [List.map_append, List.nodup_append] at distinct
    obtain ⟨distinct, _, apart⟩ := distinct
    have other : (c.firsts batch).any (·.path = f.path) = false := by
      rw [List.any_eq_false]
      intro g hg
      simpa using apart g.path (List.mem_map_of_mem (mem_firsts hg).1) f.path (by simp)
    rw [firsts_concat, other, Bool.or_false, ih distinct, List.filter_append]
    cases known : c.contains f.path <;> simp [known]

theorem firsts_perm (distinct : (batch.map (·.path)).Nodup) (order : batch.Perm batch') :
    (c.firsts batch).Perm (c.firsts batch') := by
  rw [firsts_eq_filter distinct, firsts_eq_filter ((order.map _).nodup_iff.1 distinct)]
  exact order.filter _

/-- The new files are the same in every order of linking. -/
theorem fresh_perm (o o' : LinkOrder) (same : (c.firsts batch).Perm (c.firsts batch')) :
    (c.fresh o batch).Perm (c.fresh o' batch') :=
  (c.fresh_perm_firsts o batch).trans (same.trans (c.fresh_perm_firsts o' batch').symm)

theorem missing_eq_nil_perm (order : batch.Perm batch') :
    c.missing batch = [] ↔ c.missing batch' = [] := by
  simp only [missing_eq_nil, List.map_append, List.mem_append, order.mem_iff,
    (order.map (·.path)).mem_iff]

/-! The same cache but for the order of new files -/

/-- Two files that were added to a cache have an extension of one message with one number. -/
def Contested (c a : Cache) (message : String) (number : Nat) : Prop :=
  ∃ file ∈ a.pool.files, ∃ file' ∈ a.pool.files, file ≠ file' ∧ ¬ c.contains file.path ∧
    ¬ c.contains file'.path ∧ (∃ e, file.Extends message number e) ∧
    ∃ e, file'.Extends message number e

/-- Two caches that grew from one answer alike, but for contested numbers. -/
structure Agrees (c a b : Cache) : Prop where
  files : a.pool.files.Perm b.pool.files
  contains : ∀ path, a.contains path = b.contains path
  find? : ∀ name, a.find? name = b.find? name
  extension? : ∀ message number, ¬ Contested c a message number →
    a.extension? message number = b.extension? message number

/-- The extensions of some files of a message with a number. -/
theorem extensions_filter (files : List File) (message : String) (number : Nat) :
    (Pool.extensions ⟨files⟩).filter (fun e => e.extendee = message && e.field.number = number) =
      files.flatMap fun file => (Pool.extensions ⟨[file]⟩).filter
        fun e => e.extendee = message && e.field.number = number := by
  simp [Pool.extensions, List.filter_flatMap]

theorem exists_extends {file : File} (h : (Pool.extensions ⟨[file]⟩).filter
      (fun e => e.extendee = message && e.field.number = number) ≠ []) :
    ∃ e, file.Extends message number e := by
  obtain ⟨e, he⟩ := List.exists_mem_of_ne_nil _ h
  obtain ⟨file', hf, extension⟩ := extends_iff (c := ofPool ⟨[file]⟩).2 he
  obtain rfl := List.mem_singleton.1 hf
  exact ⟨e, extension⟩

/-- An extension that is not contested is answered the same whatever the order of the new files. -/
theorem extension?_of_perm {files files' : List File} (indexed : a.Indexed) (indexed' : b.Indexed)
    (ha : a.pool.files = c.pool.files ++ files)
    (hb : b.pool.files = c.pool.files ++ files') (order : files.Perm files')
    (new : ∀ file ∈ files, ¬ c.contains file.path) (settled : ¬ Contested c a message number) :
    a.extension? message number = b.extension? message number := by
  have mem : ∀ file ∈ files, file ∈ a.pool.files := by
    intro file hf
    rw [ha]
    exact List.mem_append_right _ hf
  have pa : a.pool = ⟨c.pool.files ++ files⟩ := congrArg Pool.mk ha
  have pb : b.pool = ⟨c.pool.files ++ files'⟩ := congrArg Pool.mk hb
  rw [indexed.extension?_eq, indexed'.extension?_eq, Pool.extensionOf?, Pool.extensionOf?, pa, pb,
    extensions_filter, extensions_filter, List.flatMap_append, List.flatMap_append,
    flatMap_eq_of_perm order]
  intro file hf file' hf' some some'
  by_contra other
  exact settled ⟨file, mem file hf, file', mem file' hf', other, new file hf, new file' hf',
    exists_extends some, exists_extends some'⟩

/-- A batch that can be taken: its new files in an order in which they link, with the cache that
this leads to. -/
structure Adds (c : Cache) (batch new : List FileDecl) (a : Cache) : Prop where
  named : ∀ f ∈ batch, f.name ≠ none
  firsts : new.Perm (c.firsts batch)
  closed : c.missing new = []
  acyclic : cycle? new = none
  linked : c.pool.link new = .ok a.pool
  built : a.Built

section

variable {new new' : List FileDecl}

theorem adds_of_insert (built : c.Built) (h : c.insert o batch = (.ok n, a)) :
    c.Adds batch (c.fresh o batch) a := by
  obtain ⟨named, closed, acyclic, linked, _⟩ := checks_of_insert h
  exact ⟨named, c.fresh_perm_firsts o batch, closed, acyclic, linked, built.insert h⟩

theorem Adds.nodup (x : c.Adds batch new a) : (new.map (·.path)).Nodup :=
  (x.firsts.map _).nodup_iff.2 nodup_firsts

/-- Caches to which the same new files lead agree. -/
theorem Adds.agrees (built : c.Built) (x : c.Adds batch new a) (y : c.Adds batch' new' b)
    (same : new.Perm new') : c.Agrees a b := by
  obtain ⟨files, files', ha, linked, perm⟩ := Pool.link_perm built.linked.apart same x.linked
  have hb : b.pool = ⟨c.pool.files ++ files'⟩ := Except.ok.inj (y.linked.symm.trans linked)
  have whole : a.pool.files.Perm b.pool.files := by
    rw [ha, hb]
    exact perm.append_left _
  refine ⟨whole, fun path => whole.any_eq, ?_, fun message number settled => ?_⟩
  · exact x.built.linked.find?_of_perm y.built.linked x.built.sound.distinct whole
  · refine extension?_of_perm x.built.indexed y.built.indexed (congrArg Pool.files ha)
      (congrArg Pool.files hb) perm (fun file hf => ?_) settled
    have decls : c.decls ++ files.map (·.decl) = c.decls ++ new := by
      have decls := Pool.link_decls x.linked
      rwa [ha, Pool.decls, List.map_append] at decls
    have mem : file.decl ∈ new := List.append_cancel_left decls ▸ List.mem_map_of_mem hf
    rw [contains_iff]
    exact (mem_firsts (x.firsts.mem_iff.1 mem)).2

/-- A batch that can be taken is taken in every order, of the batch and of its new files, with the
same count. -/
theorem Adds.insert (built : c.Built) (x : c.Adds batch new a)
    (named' : ∀ f ∈ batch', f.name ≠ none) (same : (c.firsts batch).Perm (c.firsts batch'))
    (o : LinkOrder) : ∃ b, c.insert o batch' = (.ok new.length, b) ∧ c.Agrees a b ∧
      (c.fresh o batch' = new → b = a) := by
  have fresh : new.Perm (c.fresh o batch') :=
    x.firsts.trans (same.trans (c.fresh_perm_firsts o batch').symm)
  obtain ⟨_, files, _, linked, _⟩ := Pool.link_perm built.linked.apart fresh x.linked
  have h := built.indexed.insert_of_linked named' ((missing_eq_nil_perm fresh).1 x.closed)
    (cycle?_perm x.nodup fresh ▸ x.acyclic) linked
  refine ⟨_, fresh.length_eq ▸ h, x.agrees built (adds_of_insert built h) fresh, fun as => ?_⟩
  rw [as] at linked
  rw [← Except.ok.inj (x.linked.symm.trans linked), x.built.indexed.eq_ofPool]

end

/-! Outcomes -/

/-- Outcomes of inserting that are alike: what is added agrees, or the same is wrong and nothing is
added. -/
inductive Alike (c : Cache) :
    Except InsertError Nat × Cache → Except InsertError Nat × Cache → Prop where
  | inserted (a b : Cache) (n : Nat) (agrees : c.Agrees a b) : Alike c (.ok n, a) (.ok n, b)
  | unnamedFile : Alike c (.error .unnamedFile, c) (.error .unnamedFile, c)
  | missingImport (file dependency file' dependency' : String) :
    Alike c (.error (.missingImport file dependency), c)
      (.error (.missingImport file' dependency'), c)
  | importCycle (file : String) :
    Alike c (.error (.importCycle file), c) (.error (.importCycle file), c)
  | link (e e' : LinkError) : Alike c (.error (.link e), c) (.error (.link e'), c)

/-- Files that do not link in one order link in none. -/
theorem link_fails_of_perm (built : c.Built) (order : batch.Perm batch') {e : LinkError}
    (failed : c.pool.link batch = .error e) : ∃ e', c.pool.link batch' = .error e' := by
  cases h : c.pool.link batch' with
  | error e' => exact ⟨e', rfl⟩
  | ok q =>
    obtain ⟨_, _, _, linked, _⟩ := Pool.link_perm built.linked.apart order.symm h
    cases failed.symm.trans linked

theorem alike_of_refused (built : c.Built) (distinct : (batch.map (·.path)).Nodup)
    (order : batch.Perm batch') {e : InsertError} (h : c.insert o batch = (.error e, c))
    (o' : LinkOrder) : c.Alike (.error e, c) (c.insert o' batch') := by
  have fresh : (c.fresh o batch).Perm (c.fresh o' batch') :=
    fresh_perm o o' (firsts_perm distinct order)
  have names : (∀ f ∈ batch, f.name ≠ none) → ∀ f ∈ batch', f.name ≠ none :=
    fun named f hf => named f (order.mem_iff.2 hf)
  cases insertion_of_insert h with
  | unnamed f hf none =>
    rw [insert_of_unnamed (order.mem_iff.1 hf) none]
    exact .unnamedFile
  | missingImport named file dependency mem =>
    have missing : c.missing (c.fresh o' batch') ≠ [] := fun none =>
      List.ne_nil_of_mem mem ((missing_eq_nil_perm fresh).2 none)
    obtain ⟨file', dependency', h'⟩ := insert_of_missing (names named) missing
    rw [h']
    exact .missingImport file dependency file' dependency'
  | importCycle named closed file cycle =>
    rw [insert_of_cycle (names named) ((missing_eq_nil_perm fresh).1 closed)
      (cycle?_perm nodup_fresh fresh ▸ cycle)]
    exact .importCycle file
  | unlinked named closed acyclic e failed =>
    obtain ⟨e', failed'⟩ := link_fails_of_perm built fresh failed
    rw [insert_of_unlinked (names named) ((missing_eq_nil_perm fresh).1 closed)
      (cycle?_perm nodup_fresh fresh ▸ acyclic) failed']
    exact .link e e'

/-- Named files whose names differ have different paths. -/
theorem nodup_paths (named : ∀ f ∈ batch, f.name ≠ none) (distinct : (batch.map (·.name)).Nodup) :
    (batch.map (·.path)).Nodup := by
  rw [List.Nodup, List.pairwise_map] at distinct ⊢
  refine distinct.imp_of_mem fun {f g} hf hg other same => other ?_
  obtain ⟨x, hx⟩ := Option.ne_none_iff_exists'.1 (named f hf)
  obtain ⟨y, hy⟩ := Option.ne_none_iff_exists'.1 (named g hg)
  rw [FileDecl.path, FileDecl.path, hx, hy] at same
  rw [hx, hy]
  exact congrArg some same

/-- Batches of files with different names that differ only in their order have the same outcome in
every cache, in whatever orders their files are linked. Either both are refused, over the same kind
of fault and with the same file if it is a cycle; or both are inserted with the same count, and then
hold the same files, find the same for every name, and for every message and number, except where
two of the new files have an extension of that message with that number. -/
theorem order_of_a_batch_matters_to_contested_numbers_only (built : c.Built)
    (distinct : (batch.map (·.name)).Nodup) (order : batch.Perm batch') (o o' : LinkOrder) :
    c.Alike (c.insert o batch) (c.insert o' batch') := by
  by_cases named : ∀ f ∈ batch, f.name ≠ none
  · have paths := nodup_paths named distinct
    rcases h : c.insert o batch with ⟨e | n, a⟩
    · obtain rfl := cache_of_refused h
      exact alike_of_refused built paths order h o'
    · obtain ⟨_, _, _, _, rfl⟩ := checks_of_insert h
      obtain ⟨b, h', agrees, _⟩ := (adds_of_insert built h).insert built
        (fun f hf => named f (order.mem_iff.2 hf)) (firsts_perm paths order) o'
      rw [h']
      exact .inserted a b _ agrees
  · push Not at named
    obtain ⟨f, hf, none⟩ := named
    rw [insert_of_unnamed hf none, insert_of_unnamed (order.mem_iff.1 hf) none]
    exact .unnamedFile

/-! Two files that extend one message -/

/-- An insertion that is taken, from what can be evaluated of it. -/
theorem insert_eq_adding (h : (c.insert o batch).1.toOption = some n) :
    c.insert o batch = (.ok n, c.adding o batch) :=
  Prod.ext (eq_ok_of_toOption h) rfl

/-- A message and an extension of it, the extension first. -/
theorem extension_before_its_message : ∃ a b,
    empty.insert .asGiven [decoded openFile, decoded extendingFile] = (.ok 2, a) ∧
    empty.insert .asGiven [decoded extendingFile, decoded openFile] = (.ok 2, b) ∧
    a.find? "a" = b.find? "a" ∧ (b.find? "a").isSome := by
  have h : empty.insert .asGiven [decoded openFile, decoded extendingFile] = (.ok 2, _) :=
    insert_eq_adding (by decide +kernel)
  have h' : empty.insert .asGiven [decoded extendingFile, decoded openFile] = (.ok 2, _) :=
    insert_eq_adding (by decide +kernel)
  have order : [decoded openFile, decoded extendingFile].Perm
      [decoded extendingFile, decoded openFile] := .swap _ _ _
  have alike :=
    order_of_a_batch_matters_to_contested_numbers_only .empty (by decide +kernel) order .asGiven
      .asGiven
  rw [h, h'] at alike
  cases alike with
  | inserted a b n agrees => exact ⟨_, _, h, h', agrees.find? "a", by decide +kernel⟩

/-- A message and two files that extend it with one number. -/
def contesting : List FileDecl := [decoded openFile, decoded extendingFile, decoded collidingFile]

/-- The same files, the last two of them the other way round. -/
def contestingBack : List FileDecl :=
  [decoded openFile, decoded collidingFile, decoded extendingFile]

/-- The extension that is answered for the number is that of the file that comes last. -/
theorem last_file_wins_a_contested_number :
    (contesting.map (·.name)).Nodup ∧ contesting.Perm contestingBack ∧ ∃ a b,
      empty.insert .asGiven contesting = (.ok 3, a) ∧
      empty.insert .asGiven contestingBack = (.ok 3, b) ∧
      a.extension? "M" 100 ≠ b.extension? "M" 100 := by
  have h : empty.insert .asGiven contesting = (.ok 3, _) := insert_eq_adding (by decide +kernel)
  have h' : empty.insert .asGiven contestingBack = (.ok 3, _) :=
    insert_eq_adding (by decide +kernel)
  refine ⟨by decide +kernel, .cons _ (.swap _ _ _), _, _, h, h', fun same => ?_⟩
  have last : nameOfExtension? (empty.adding .asGiven contesting) 100 = some "b" := by
    decide +kernel
  have last' : nameOfExtension? (empty.adding .asGiven contestingBack) 100 = some "a" := by
    decide +kernel
  rw [nameOfExtension?, same, ← nameOfExtension?, last'] at last
  exact absurd last (by decide)

end DynamicRpc.Reflection.Cache
