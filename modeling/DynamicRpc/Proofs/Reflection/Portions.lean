import DynamicRpc.Proofs.Reflection.BatchOrder

/-!
Batches in one and in several portions. Files that are inserted one batch after the other can be
inserted at once. The cache has the same files then, and answers the same but for an extension that
several of them have, since the files of both batches are linked in one order, and that may be any.
A name inside a file must not depend on what comes later, which full names do not; and a file may
list an import only once, since the sweep takes a second mention of a new file for a cycle but does
not look at those of cached files.
-/
namespace DynamicRpc.Reflection.Cache

open Schema

variable {c c₁ c₂ : Cache} {o₁ o₂ : LinkOrder} {first second new : List FileDecl} {a b : Nat}

theorem contains_of_decls (same : new.Perm (c.firsts first)) (grown : c₁.decls = c.decls ++ new)
    (path : String) :
    c₁.contains path = (c.contains path || (c.firsts first).any (·.path = path)) := by
  rw [Bool.eq_iff_iff, contains_iff, grown, List.map_append, List.mem_append, Bool.or_eq_true,
    contains_iff, List.any_eq_true, (same.map _).mem_iff, List.mem_map]
  simp

/-- What is new of two batches is what is new of the one, and then of the other. -/
theorem firsts_append (same : new.Perm (c.firsts first)) (grown : c₁.decls = c.decls ++ new) :
    c.firsts (first ++ second) = c.firsts first ++ c₁.firsts second := by
  induction second using List.reverseRecOn with
  | nil => rw [List.append_nil, firsts.eq_1 c₁, List.foldl_nil, List.append_nil]
  | append_singleton second f ih =>
    rw [← List.append_assoc, firsts_concat, firsts_concat, ih, List.any_append,
      contains_of_decls same grown]
    cases c.contains f.path <;> cases (c.firsts first).any (·.path = f.path) <;>
      cases (c₁.firsts second).any (·.path = f.path) <;> simp

/-- New files that find their imports as they come find them among all. -/
theorem missing_append (grown : c₁.decls = c.decls ++ new) (closed : c.missing new = [])
    (closed' : c₁.missing (c₁.fresh o₂ second) = []) :
    c.missing (new ++ c₁.fresh o₂ second) = [] := by
  rw [missing_eq_nil] at closed closed' ⊢
  rw [← List.append_assoc, ← grown]
  intro f hf absent d hd
  rcases List.mem_append.1 hf with hf | hf
  · rw [List.map_append, grown]
    exact List.mem_append_left _ (closed f hf absent d hd)
  · exact closed' f hf (mem_fresh hf).2 d hd

/-- The sweep over all new files finds no cycle: there is none in the cache that they make up. -/
theorem cycle?_append (x : c.Adds first new c₁) (sound : c₂.Sound)
    (all : c₂.decls = c.decls ++ (new ++ c₁.fresh o₂ second))
    (once : ∀ f ∈ second, f.imports.Nodup) : cycle? (new ++ c₁.fresh o₂ second) = none := by
  have distinct := sound.distinct
  rw [all, List.map_append, List.nodup_append] at distinct
  obtain ⟨_, nodup, apart⟩ := distinct
  refine (cycle?_eq_none_iff nodup).2 ⟨sound.acyclic.subset ?_, ?_⟩
  · rw [all]
    exact List.subset_append_right _ _
  · rintro ⟨f, hf, d, hd, twice⟩
    rcases List.mem_append.1 hf with hf | hf
    · -- A file of the first batch was swept with all of its imports that are new.
      have absent := (mem_firsts (x.firsts.mem_iff.1 hf)).2
      have known := missing_eq_nil.1 x.closed f hf absent d (List.count_pos_iff.1 (by omega))
      refine ((cycle?_eq_none_iff x.nodup).1 x.acyclic).2 ⟨f, hf, d, ?_, twice⟩
      rw [List.map_append, List.mem_append] at known
      exact known.resolve_left fun old => apart d old d hd rfl
    · have := List.nodup_iff_count_le_one.1 (once f (mem_fresh hf).1) d
      omega

/-- What can be taken as one batch can be taken together with a batch that was taken after it. -/
theorem Adds.append (built : c.Built) (x : c.Adds first new c₁)
    (absolute : ∀ f ∈ first, ∀ name ∈ f.references, IsAbsolute name)
    (once : ∀ f ∈ second, f.imports.Nodup) (h : c₁.insert o₂ second = (.ok b, c₂)) :
    c.Adds (first ++ second) (new ++ c₁.fresh o₂ second) c₂ := by
  have grown : c₁.decls = c.decls ++ new := Pool.link_decls x.linked
  have sound : c₂.Sound := (x.built.insert h).sound
  have all : c₂.decls = c.decls ++ (new ++ c₁.fresh o₂ second) := by
    rw [decls_insert h, grown, List.append_assoc]
  obtain ⟨named', closed', _, linked', _⟩ := checks_of_insert h
  refine ⟨List.forall_mem_append.2 ⟨x.named, named'⟩, ?_, missing_append grown x.closed closed',
    cycle?_append x sound all once, ?_, x.built.insert h⟩
  · rw [firsts_append x.firsts grown]
    exact x.firsts.append (c₁.fresh_perm_firsts o₂ second)
  · refine Pool.link_append built.linked.apart (fun f hf => ?_) x.linked linked'
    exact absolute f (mem_firsts (x.firsts.mem_iff.1 hf)).1

/-- Where two batches can be inserted one after the other, they can be inserted as one, with the sum
of the counts, in whatever orders their files are linked. The cache has the same files then, and the
same answers for every file, every name, and every message and number, except where two of the new
files have an extension of that message with that number; and it is the very same cache if the files
are linked in the order in which they were before. Only the files of the first batch must refer to
everything by full names, and only those of the second must list each import once. -/
theorem portions_agree_but_for_contested_numbers (built : c.Built)
    (absolute : ∀ f ∈ first, ∀ name ∈ f.references, IsAbsolute name)
    (once : ∀ f ∈ second, f.imports.Nodup) (h : c.insert o₁ first = (.ok a, c₁))
    (h' : c₁.insert o₂ second = (.ok b, c₂)) (o : LinkOrder) :
    ∃ c₃, c.insert o (first ++ second) = (.ok (a + b), c₃) ∧ c.Agrees c₂ c₃ ∧
      (c.fresh o (first ++ second) = c.fresh o₁ first ++ c₁.fresh o₂ second → c₃ = c₂) := by
  have joined := (adds_of_insert built h).append built absolute once h'
  obtain ⟨_, _, _, _, rfl⟩ := checks_of_insert h
  obtain ⟨_, _, _, _, rfl⟩ := checks_of_insert h'
  obtain ⟨c₃, taken, agrees, same⟩ := joined.insert built joined.named (.refl _) o
  rw [List.length_append] at taken
  exact ⟨c₃, taken, agrees, same⟩

/-- The order of the batch, from its end. -/
def backwards : LinkOrder := ⟨List.reverse, List.reverse_perm⟩

/-- A file that extends the message of another is inserted after it, or with it and linked before
it. -/
theorem extension_comes_later_or_at_once : ∃ c₁ c₂ c₃,
    empty.insert .asGiven [decoded openFile] = (.ok 1, c₁) ∧
    c₁.insert .asGiven [decoded extendingFile] = (.ok 1, c₂) ∧
    empty.insert backwards ([decoded openFile] ++ [decoded extendingFile]) = (.ok (1 + 1), c₃) ∧
    c₂.find? "a" = c₃.find? "a" ∧ (c₂.find? "a").isSome := by
  have h : empty.insert .asGiven [decoded openFile] = (.ok 1, _) :=
    insert_eq_adding (by decide +kernel)
  have h' : (empty.adding .asGiven [decoded openFile]).insert .asGiven [decoded extendingFile] =
      (.ok 1, _) := insert_eq_adding (by decide +kernel)
  obtain ⟨c₃, joined, agrees, _⟩ := portions_agree_but_for_contested_numbers .empty
    (by decide +kernel) (by decide +kernel) h h' backwards
  exact ⟨_, _, c₃, h, h', joined, agrees.find? "a", by decide +kernel⟩

/-- Two files that extend a message with one number. Which of them is asked for the extension is
settled by the batches in which they come, and by nothing once they come in one. -/
theorem joined_portions_contest_a_number :
    (∀ f ∈ [decoded openFile, decoded extendingFile] ++ [decoded collidingFile],
      f.imports.Nodup ∧ ∀ name ∈ f.references, IsAbsolute name) ∧
    ∃ c₁ c₂ c₃, empty.insert .asGiven [decoded openFile, decoded extendingFile] = (.ok 2, c₁) ∧
      c₁.insert .asGiven [decoded collidingFile] = (.ok 1, c₂) ∧
      empty.insert backwards
        ([decoded openFile, decoded extendingFile] ++ [decoded collidingFile]) =
        (.ok (2 + 1), c₃) ∧
      c₂.extension? "M" 100 ≠ c₃.extension? "M" 100 := by
  refine ⟨by decide +kernel, _, _, _, insert_eq_adding (by decide +kernel),
    insert_eq_adding (by decide +kernel), insert_eq_adding (by decide +kernel), fun same => ?_⟩
  have apart : nameOfExtension? ((empty.adding .asGiven [decoded openFile,
      decoded extendingFile]).adding .asGiven [decoded collidingFile]) 100 = some "b" := by
    decide +kernel
  have joined : nameOfExtension? (empty.adding backwards
      ([decoded openFile, decoded extendingFile] ++ [decoded collidingFile])) 100 = some "a" := by
    decide +kernel
  rw [nameOfExtension?, same, ← nameOfExtension?, joined] at apart
  exact absurd apart (by decide)

/-! Any number of portions -/

/-- Batches that were inserted one after the other, and how many of their files were new. -/
inductive Inserted (c : Cache) : List (List FileDecl) → Cache → Nat → Prop where
  | none : Inserted c [] c 0
  | next (batches : List (List FileDecl)) (o : LinkOrder) (batch : List FileDecl) (c₁ c₂ : Cache)
    (a b : Nat) (before : Inserted c batches c₁ a) (h : c₁.insert o batch = (.ok b, c₂)) :
    Inserted c (batches ++ [batch]) c₂ (a + b)

variable {batches batches' : List (List FileDecl)}

theorem Inserted.joined (built : c.Built)
    (absolute : ∀ f ∈ batches.flatten, ∀ name ∈ f.references, IsAbsolute name)
    (once : ∀ f ∈ batches.flatten, f.imports.Nodup) (h : Inserted c batches c₁ a) :
    ∃ new, c.Adds batches.flatten new c₁ ∧ a = new.length := by
  induction h with
  | none => exact ⟨[], ⟨nofun, .nil, rfl, rfl, link_nil _, built⟩, rfl⟩
  | next batches o batch c₁ c₂ a b before h ih =>
    rw [List.flatten_append, List.flatten_singleton, List.forall_mem_append] at absolute once
    rw [List.flatten_append, List.flatten_singleton]
    obtain ⟨new, adds, rfl⟩ := ih absolute.1 once.1
    obtain ⟨_, _, _, _, rfl⟩ := checks_of_insert h
    exact ⟨_, adds.append built absolute.1 once.2 h, List.length_append.symm⟩

/-- However the same files are cut into batches, the caches that they lead to agree. -/
theorem Inserted.agrees (built : c.Built)
    (absolute : ∀ f ∈ batches.flatten, ∀ name ∈ f.references, IsAbsolute name)
    (once : ∀ f ∈ batches.flatten, f.imports.Nodup) (h : Inserted c batches c₁ a)
    (h' : Inserted c batches' c₂ b) (same : batches.flatten = batches'.flatten) :
    a = b ∧ c.Agrees c₁ c₂ := by
  obtain ⟨new, adds, rfl⟩ := h.joined built absolute once
  rw [same] at absolute once adds
  obtain ⟨new', adds', rfl⟩ := h'.joined built absolute once
  have perm : new.Perm new' := adds.firsts.trans adds'.firsts.symm
  exact ⟨perm.length_eq, adds.agrees built adds' perm⟩

end DynamicRpc.Reflection.Cache
