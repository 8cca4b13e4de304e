import DynamicRpc.Proofs.Reflection.AskedOnce

/-!
What a lookup asks a service. After the question for what is wanted come questions for imports, as
long as the batch misses one of which nothing is remembered. Each answer brings the import that was
asked for, or else it is the last, so the names of imports that the batch does not hold get fewer
with every question, however the service puts its answers together.
-/
namespace DynamicRpc.Reflection

open Schema Resolver

namespace Outcome

variable {ε α : Type}

theorem done_ne_dropped (a : α) : (.done a : Outcome ε α) ≠ .dropped := nofun

theorem failed_ne_dropped (e : ε) : (.failed e : Outcome ε α) ≠ .dropped := nofun

end Outcome

/-- A question at the time when it is asked: who asks, for which batch, and what. -/
structure Question where
  asker : Resolver
  batch : List FileDecl
  query : Query

namespace Question

/-- How the call that sends a question ends. -/
def outcome (c : Connector) (x : Question) : Outcome QueryError Reply :=
  (x.asker.transport.send c x.query).1

/-- The transport that the call leaves. -/
def after (c : Connector) (x : Question) : Transport := (x.asker.transport.send c x.query).2

/-- What a question for a file may be about: an import of a file of the batch, a new one, that
neither the cache nor the batch has. -/
structure Wants (x : Question) (path : String) : Prop where
  imported : ∃ f ∈ x.batch, path ∈ f.imports ∧ ¬ x.asker.cache.contains f.path
  notCached : ¬ x.asker.cache.contains path
  notInBatch : path ∉ x.batch.map (·.path)

end Question

/-- Questions that are sent one after the other, each over the transport that the last one left. -/
inductive Conversation (c : Connector) : Transport → List Question → Transport → Prop where
  | silent (t : Transport) : Conversation c t [] t
  | next (x : Question) (rest : List Question) (t : Transport)
    (h : Conversation c (x.after c) rest t) : Conversation c x.asker.transport (x :: rest) t

namespace Resolver

/-- The questions of completing a batch, in order. -/
def questions (c : Connector) (target : String) (patience : Nat) (r : Resolver)
    (batch : List FileDecl) : List Question :=
  match _missing : (r.cache.missing batch).head? with
  | none => []
  | some (file, dependency) =>
    match _found : r.fetched? dependency with
    | some f => questions c target patience r (batch ++ [f])
    | none =>
      match r.unavailable? dependency with
      | some _ => []
      | none =>
        match patience with
        | 0 => []
        | patience + 1 =>
          ⟨r, batch, .file dependency⟩ ::
            match r.fetchImport c target file dependency with
            | (.done files, r) => questions c target patience r (batch ++ files)
            | _ => []
termination_by (patience, r.unused batch)
decreasing_by
  · exact Prod.Lex.right _ (unused_append_lt _missing _found)
  · exact Prod.Lex.left _ _ (Nat.lt_succ_self _)

theorem questions_eq (c : Connector) (target : String) (patience : Nat) (r : Resolver)
    (batch : List FileDecl) : r.questions c target patience batch =
    match (r.cache.missing batch).head? with
    | none => []
    | some (file, dependency) =>
      match r.fetched? dependency with
      | some f => r.questions c target patience (batch ++ [f])
      | none =>
        match r.unavailable? dependency with
        | some _ => []
        | none =>
          match patience with
          | 0 => []
          | patience + 1 =>
            ⟨r, batch, .file dependency⟩ ::
              match r.fetchImport c target file dependency with
              | (.done files, r) => r.questions c target patience (batch ++ files)
              | _ => [] := by
  rw [questions]
  split
  next none => rw [none]
  next file dependency first =>
    rw [first]
    dsimp only
    split
    next f found => rw [found]
    next new => rw [new]

/-- The questions of a lookup, the first of which is for what is wanted. -/
def asked {α : Type} (c : Connector) (patience : Nat) (r : Resolver) (answer? : Cache → Option α)
    (query : Query) (target : String) : List Question :=
  match answer? r.cache with
  | some _ => []
  | none =>
    ⟨r, [], query⟩ ::
      match r.fetch c query with
      | (.done encoded, r) =>
        match decodeFiles encoded with
        | .error _ => []
        | .ok batch => r.questions c target patience batch
      | _ => []

/-- A question of a lookup is the first one, or is asked to complete the batch that came. -/
theorem mem_asked {α : Type} {c : Connector} {patience : Nat} {r : Resolver}
    {answer? : Cache → Option α} {query : Query} {target : String} {x : Question}
    (mem : x ∈ r.asked c patience answer? query target) :
    answer? r.cache = none ∧ (x = ⟨r, [], query⟩ ∨ ∃ encoded batch r₁,
      r.fetch c query = (.done encoded, r₁) ∧ decodeFiles encoded = .ok batch ∧
      x ∈ r₁.questions c target patience batch) := by
  unfold asked at mem
  split at mem
  next => cases mem
  next new =>
    refine ⟨new, (List.mem_cons.1 mem).imp_right fun mem => ?_⟩
    split at mem
    next encoded r₁ hx =>
      split at mem
      next => cases mem
      next batch hd => exact ⟨encoded, batch, r₁, hx, hd, mem⟩
    next => cases mem

end Resolver

/-! Questions for imports -/

/-- How the questions of completing a batch go, with the patience that is left. -/
inductive Asking (c : Connector) (target : String) : Nat → Resolver → List FileDecl →
    List Question → Outcome ResolveError (List FileDecl) → Resolver → Prop where
  | settled (patience : Nat) (r : Resolver) (batch : List FileDecl)
    (o : Outcome ResolveError (List FileDecl)) (ended : o ≠ .dropped) :
    Asking c target patience r batch [] o r
  | givenUp (r : Resolver) (batch : List FileDecl) (file dependency : String)
    (first : r.Misses batch file dependency) :
    Asking c target 0 r batch [] .dropped { r with transport := r.transport.reset }
  | remembered (patience : Nat) (r r' : Resolver) (batch : List FileDecl) (qs : List Question)
    (o : Outcome ResolveError (List FileDecl)) (f : FileDecl) (hf : f ∈ r.fetched)
    (rest : Asking c target patience r (batch ++ [f]) qs o r') :
    Asking c target patience r batch qs o r'
  | received (patience : Nat) (r r₁ r' : Resolver) (batch files : List FileDecl)
    (qs : List Question) (o : Outcome ResolveError (List FileDecl)) (file dependency : String)
    (first : r.Misses batch file dependency)
    (x : Importing c target file dependency r (.done files) r₁)
    (rest : Asking c target patience r₁ (batch ++ files) qs o r') :
    Asking c target (patience + 1) r batch (⟨r, batch, .file dependency⟩ :: qs) o r'
  | last (patience : Nat) (r r₁ : Resolver) (batch : List FileDecl)
    (o : Outcome ResolveError (List FileDecl)) (file dependency : String)
    (first : r.Misses batch file dependency) (x : Importing c target file dependency r o r₁) :
    Asking c target (patience + 1) r batch [⟨r, batch, .file dependency⟩] o r₁

theorem Resolver.questions_asking (c : Connector) (target : String) (patience : Nat) (r : Resolver)
    (batch : List FileDecl) :
    Asking c target patience r batch (r.questions c target patience batch)
      (r.complete c target patience batch).1 (r.complete c target patience batch).2 := by
  fun_induction complete c target patience r batch with
  | case1 patience r batch none =>
    rw [questions_eq]
    simp only [none]
    exact .settled patience r batch (.done batch) (Outcome.done_ne_dropped batch)
  | case2 patience r batch file dependency first f found ih =>
    rw [questions_eq]
    simp only [first, found]
    exact .remembered patience r _ batch _ _ f (fetched?_mem found).1 ih
  | case3 patience r batch file dependency first new s known =>
    rw [questions_eq]
    simp only [first, new, known]
    exact .settled patience r batch (.failed _) (Outcome.failed_ne_dropped _)
  | case4 r batch file dependency first new unknown =>
    rw [questions_eq]
    simp only [first, new, unknown]
    exact .givenUp r batch file dependency first
  | case5 r batch file dependency first new unknown patience files r₁ hx ih =>
    have x := hx ▸ fetchImport_importing c target file dependency r
    rw [questions_eq]
    simp only [first, new, unknown, hx]
    exact .received patience r r₁ _ batch files _ _ file dependency first x ih
  | case6 r batch file dependency first new unknown patience e r₁ hx =>
    have x := hx ▸ fetchImport_importing c target file dependency r
    rw [questions_eq]
    simp only [first, new, unknown, hx]
    exact .last patience r r₁ batch _ file dependency first x
  | case7 r batch file dependency first new unknown patience r₁ hx =>
    have x := hx ▸ fetchImport_importing c target file dependency r
    rw [questions_eq]
    simp only [first, new, unknown, hx]
    exact .last patience r r₁ batch _ file dependency first x

/-! The transport -/

variable {c : Connector} {r r' : Resolver} {q : Query} {target file dependency : String}
  {patience : Nat} {batch files : List FileDecl} {qs : List Question}
  {o : Outcome ResolveError (List FileDecl)}

/-- Asking for files is one call, and is given up with it. -/
theorem Fetching.sent {o : Outcome ResolveError (List Bytes)} (x : Fetching c r q o r') :
    r'.transport = (r.transport.send c q).2 ∧
      (o = .dropped → (r.transport.send c q).1 = .dropped) := by
  cases x with
  | files encoded t h => exact ⟨by rw [h], nofun⟩
  | refused o s t h ho => exact ⟨by rw [h], nofun⟩
  | broken e t h he => exact ⟨by rw [h], nofun⟩
  | services names t h => exact ⟨by rw [h], nofun⟩
  | dropped t h => exact ⟨by rw [h], fun _ => by rw [h]⟩

theorem Importing.sent (x : Importing c target file dependency r o r') :
    r'.transport = (r.transport.send c (.file dependency)).2 ∧
      (o = .dropped → (r.transport.send c (.file dependency)).1 = .dropped) := by
  cases x with
  | received encoded files r₁ x hd mem =>
    rw [foldl_remember]
    exact ⟨x.sent.1, nofun⟩
  | absent encoded files r₁ x hd mem =>
    rw [foldl_remember]
    exact ⟨x.sent.1, nofun⟩
  | undecodable encoded e r₁ x hd => exact ⟨x.sent.1, nofun⟩
  | unknown s r₁ x code => exact ⟨x.sent.1, nofun⟩
  | failed e r₁ x code => exact ⟨x.sent.1, nofun⟩
  | dropped r₁ x => exact ⟨x.sent.1, fun _ => x.sent.2 rfl⟩

/-- The transport goes through the questions, and no other call; it may be reset in the end. -/
theorem Asking.conversation (x : Asking c target patience r batch qs o r') :
    ∃ t, Conversation c r.transport qs t ∧
      (r'.transport = t ∨ o = .dropped ∧ r'.transport = t.reset) := by
  induction x with
  | settled patience r batch o ended => exact ⟨_, .silent _, .inl rfl⟩
  | givenUp r batch file dependency first => exact ⟨_, .silent _, .inr ⟨rfl, rfl⟩⟩
  | remembered patience r r' batch qs o f hf rest ih => exact ih
  | received patience r r₁ r' batch files qs o file dependency first x rest ih =>
    obtain ⟨t, talk, left⟩ := ih
    rw [x.sent.1] at talk
    exact ⟨t, .next ⟨r, batch, .file dependency⟩ qs t talk, left⟩
  | last patience r r₁ batch o file dependency first x =>
    exact ⟨_, .next ⟨r, batch, .file dependency⟩ [] _ (.silent _), .inl x.sent.1⟩

/-! Names that a batch does not hold -/

variable {names : Finset String}

/-- Those of some names by which no file of a batch goes. -/
def lacking (names : Finset String) (batch : List FileDecl) : Finset String :=
  names.filter fun path => path ∉ batch.map (·.path)

theorem lacking_append_subset (names : Finset String) (batch files : List FileDecl) :
    lacking names (batch ++ files) ⊆ lacking names batch := by
  intro path h
  simp only [lacking, Finset.mem_filter, List.map_append, List.mem_append, not_or] at h ⊢
  exact ⟨h.1, h.2.1⟩

/-- A name that a batch lacks counts no longer once a file of that name is added. -/
theorem lacking_append_lt (mem : dependency ∈ lacking names batch)
    (brought : dependency ∈ files.map (·.path)) :
    (lacking names (batch ++ files)).card < (lacking names batch).card := by
  have sub := lacking_append_subset names batch files
  refine Finset.card_lt_card (sub.ssubset_of_ne fun same => ?_)
  rw [← same, lacking, Finset.mem_filter, List.map_append] at mem
  exact mem.2 (List.mem_append_right _ brought)

theorem Resolver.Misses.wants (first : r.Misses batch file dependency) :
    Question.Wants ⟨r, batch, .file dependency⟩ dependency := by
  obtain ⟨⟨f, hf, rfl, hd⟩, new, absent, unknown⟩ := Cache.mem_missing.1 first.mem
  rw [← Cache.contains_iff] at new unknown
  exact ⟨⟨f, hf, hd, new⟩, unknown, absent⟩

/-- A service and what came from it: a resolver, and a batch for it, with imports of some names. -/
structure Confined (c : Connector) (names : Finset String) (r : Resolver)
    (batch : List FileDecl) : Prop where
  imports : ∀ f, c.Sends f → ∀ d ∈ f.imports, d ∈ names
  traced : r.Traced c
  sent : ∀ f ∈ batch, c.Sends f

namespace Confined

theorem remembered (h : Confined c names r batch) {f : FileDecl} (hf : f ∈ r.fetched) :
    Confined c names r (batch ++ [f]) :=
  ⟨h.imports, h.traced, List.forall_mem_append.2
    ⟨h.sent, List.forall_mem_singleton.2 (h.traced.sent f hf)⟩⟩

theorem received (h : Confined c names r batch)
    (x : Importing c target file dependency r (.done files) r') :
    Confined c names r' (batch ++ files) :=
  ⟨h.imports, (x.steps h.traced.reached).traced h.traced,
    List.forall_mem_append.2 ⟨h.sent, (x.sendsAll h.traced.reached).sends⟩⟩

/-- What a batch misses is one of the names that it lacks. -/
theorem mem_lacking (h : Confined c names r batch) (first : r.Misses batch file dependency) :
    dependency ∈ lacking names batch := by
  obtain ⟨⟨f, hf, hd, _⟩, _, absent⟩ := first.wants
  exact Finset.mem_filter.2 ⟨h.imports f (h.sent f hf) dependency hd, absent⟩

end Confined

/-- What holds of the questions of completing a batch. -/
structure Frugal (c : Connector) (names : Finset String) (patience : Nat) (batch : List FileDecl)
    (qs : List Question) (o : Outcome ResolveError (List FileDecl)) : Prop where
  few : qs.length ≤ (lacking names batch).card
  once : (qs.map (·.query)).Nodup
  wanted : ∀ x ∈ qs, ∃ path ∈ lacking names batch, x.query = .file path ∧ x.Wants path
  ends : (lacking names batch).card ≤ patience → (∀ x ∈ qs, x.outcome c ≠ .dropped) → o ≠ .dropped

theorem Frugal.remembered {f : FileDecl} (h : Frugal c names patience (batch ++ [f]) qs o) :
    Frugal c names patience batch qs o := by
  have sub := lacking_append_subset names batch [f]
  have le := Finset.card_le_card sub
  refine ⟨h.few.trans le, h.once, fun x hx => ?_, fun enough => h.ends (le.trans enough)⟩
  obtain ⟨path, mem, rest⟩ := h.wanted x hx
  exact ⟨path, sub mem, rest⟩

/-- An answer brings the name that was asked for, so no later question is for it. -/
theorem Frugal.received (h : Frugal c names patience (batch ++ files) qs o)
    (first : r.Misses batch file dependency) (mem : dependency ∈ lacking names batch)
    (brought : dependency ∈ files.map (·.path)) :
    Frugal c names (patience + 1) batch (⟨r, batch, .file dependency⟩ :: qs) o := by
  have lt := lacking_append_lt mem brought
  have few := h.few
  refine ⟨by rw [List.length_cons]; omega, ?_, ?_, ?_⟩
  · rw [List.map_cons, List.nodup_cons]
    refine ⟨fun again => ?_, h.once⟩
    obtain ⟨x, hx, same⟩ := List.mem_map.1 again
    obtain ⟨path, lacks, query, _⟩ := h.wanted x hx
    cases same.symm.trans query
    rw [lacking, Finset.mem_filter, List.map_append] at lacks
    exact lacks.2 (List.mem_append_right _ brought)
  · rw [List.forall_mem_cons]
    refine ⟨⟨dependency, mem, rfl, first.wants⟩, fun x hx => ?_⟩
    obtain ⟨path, lacks, rest⟩ := h.wanted x hx
    exact ⟨path, lacking_append_subset _ _ _ lacks, rest⟩
  · intro enough answered
    rw [List.forall_mem_cons] at answered
    exact h.ends (by omega) answered.2

theorem Asking.frugal (x : Asking c target patience r batch qs o r')
    (h : Confined c names r batch) : Frugal c names patience batch qs o := by
  induction x with
  | settled patience r batch o ended => exact ⟨Nat.zero_le _, .nil, nofun, fun _ _ => ended⟩
  | givenUp r batch file dependency first =>
    have some : 0 < (lacking names batch).card := Finset.card_pos.2 ⟨_, h.mem_lacking first⟩
    exact ⟨Nat.zero_le _, .nil, nofun, fun enough => by omega⟩
  | remembered patience r r' batch qs o f hf rest ih => exact (ih (h.remembered hf)).remembered
  | received patience r r₁ r' batch files qs o file dependency first x rest ih =>
    exact (ih (h.received x)).received first (h.mem_lacking first) x.mem_paths
  | last patience r r₁ batch o file dependency first x =>
    have mem := h.mem_lacking first
    have some : 0 < (lacking names batch).card := Finset.card_pos.2 ⟨_, mem⟩
    refine ⟨some, List.nodup_singleton _, ?_, fun _ answered dropped => ?_⟩
    · rw [List.forall_mem_singleton]
      exact ⟨dependency, mem, rfl, first.wants⟩
    · exact answered _ List.mem_cons_self (x.sent.2 dropped)

/-! Lookups -/

/-- How the questions of a lookup go, and whether it is given up. -/
inductive Inquiring (c : Connector) (target : String) (patience : Nat) (r : Resolver) (q : Query) :
    List Question → Prop → Resolver → Prop where
  | cached (dropped : Prop) (ended : ¬ dropped) : Inquiring c target patience r q [] dropped r
  | alone (dropped : Prop) (o : Outcome ResolveError (List Bytes)) (r₁ : Resolver)
    (x : Fetching c r q o r₁) (ended : dropped → o = .dropped) :
    Inquiring c target patience r q [⟨r, [], q⟩] dropped r₁
  | answered (dropped : Prop) (encoded : List Bytes) (batch : List FileDecl) (qs : List Question)
    (o : Outcome ResolveError (List FileDecl)) (r₁ r₂ r' : Resolver)
    (x : Fetching c r q (.done encoded) r₁) (hd : decodeFiles encoded = .ok batch)
    (y : Asking c target patience r₁ batch qs o r₂) (ended : dropped ↔ o = .dropped)
    (same : r'.transport = r₂.transport) :
    Inquiring c target patience r q (⟨r, [], q⟩ :: qs) dropped r'

/-- Putting a batch into the cache neither asks anything nor is given up. -/
theorem Resolver.insert_sent (c : Connector) (target : String) (batch : List FileDecl)
    (r : Resolver) : (r.insert c target batch).2.transport = r.transport ∧
      (r.insert c target batch).1 ≠ .dropped := by
  unfold Resolver.insert
  split
  next => exact ⟨rfl, Outcome.failed_ne_dropped _⟩
  next => exact ⟨rfl, Outcome.done_ne_dropped _⟩

theorem Resolver.register_sent (c : Connector) (target : String) (patience : Nat) (r : Resolver)
    {encoded : List Bytes} (hd : decodeFiles encoded = .ok batch) :
    (r.register c target patience encoded).2.transport =
        (r.complete c target patience batch).2.transport ∧
      ((r.register c target patience encoded).1 = .dropped ↔
        (r.complete c target patience batch).1 = .dropped) := by
  rw [register, hd]
  dsimp only
  rcases r.complete c target patience batch with ⟨o, r₂⟩
  cases o with
  | done closed =>
    have inserted := insert_sent c target closed r₂
    exact ⟨inserted.1, iff_of_false inserted.2 (Outcome.done_ne_dropped closed)⟩
  | failed e =>
    exact ⟨rfl, iff_of_false (Outcome.failed_ne_dropped e) (Outcome.failed_ne_dropped e)⟩
  | dropped => exact ⟨rfl, iff_of_true rfl rfl⟩

theorem Resolver.lookup_inquiring {α : Type} (c : Connector) (patience : Nat) (r : Resolver)
    (answer? : Cache → Option α) (q : Query) (target : String)
    (unknown : Option Rpc.Status → ResolveError) :
    Inquiring c target patience r q (r.asked c patience answer? q target)
      ((r.lookup c patience answer? q target unknown).1 = .dropped)
      (r.lookup c patience answer? q target unknown).2 := by
  have x := fetch_fetching c r q
  unfold lookup asked
  cases answer? r.cache with
  | some a => exact .cached _ (Outcome.done_ne_dropped a)
  | none =>
    rcases hx : r.fetch c q with ⟨o, r₁⟩
    rw [hx] at x
    cases o with
    | dropped => exact .alone _ .dropped r₁ x fun _ => rfl
    | failed e =>
      cases e <;> exact .alone _ (.failed _) r₁ x (absurd · (Outcome.failed_ne_dropped _))
    | done encoded =>
      cases hd : decodeFiles encoded with
      | error e =>
        dsimp only
        rw [register, hd]
        exact .alone _ (.done encoded) r₁ x (absurd · (Outcome.failed_ne_dropped _))
      | ok batch =>
        have y := questions_asking c target patience r₁ batch
        have registered := register_sent c target patience r₁ hd
        dsimp only
        rw [hd]
        rcases hr : r₁.register c target patience encoded with ⟨o, r₂⟩
        rw [hr] at registered
        refine .answered _ encoded batch _ _ r₁ _ _ x hd y (Iff.trans ?_ registered.2) ?_
        · cases o with
          | done u => cases h : answer? r₂.cache <;> simp [h]
          | failed e =>
            exact iff_of_false (Outcome.failed_ne_dropped e) (Outcome.failed_ne_dropped e)
          | dropped => exact iff_of_true rfl rfl
        · cases o with
          | done u => cases h : answer? r₂.cache <;> simpa [h] using registered.1
          | failed e => exact registered.1
          | dropped => exact registered.1

theorem Inquiring.conversation {dropped : Prop}
    (x : Inquiring c target patience r q qs dropped r') :
    ∃ t, Conversation c r.transport qs t ∧
      (r'.transport = t ∨ dropped ∧ r'.transport = t.reset) := by
  cases x with
  | cached => exact ⟨_, .silent _, .inl rfl⟩
  | alone _ o _ x ended => exact ⟨_, .next ⟨r, [], q⟩ [] _ (.silent _), .inl x.sent.1⟩
  | answered _ encoded batch qs o r₁ r₂ _ x hd y ended same =>
    obtain ⟨t, talk, left⟩ := y.conversation
    rw [x.sent.1] at talk
    rw [← ended, ← same] at left
    exact ⟨t, .next ⟨r, [], q⟩ qs t talk, left⟩

/-- What holds of the questions of a lookup: at most one for each name beside the first, none of
them twice, and an end, unless a call is given up or the patience is too small. -/
structure Modest (c : Connector) (names : Finset String) (patience : Nat) (qs : List Question)
    (dropped : Prop) : Prop where
  few : qs.length ≤ 1 + names.card
  once : (qs.map (·.query)).Nodup
  wanted : ∀ x ∈ qs, ∀ path, x.query = .file path → path ∈ names ∧ x.Wants path
  ends : names.card ≤ patience → (∀ x ∈ qs, x.outcome c ≠ .dropped) → ¬ dropped

theorem Inquiring.modest {dropped : Prop} (x : Inquiring c target patience r q qs dropped r')
    (other : ∀ path, q ≠ .file path) (imports : ∀ f, c.Sends f → ∀ d ∈ f.imports, d ∈ names)
    (traced : r.Traced c) : Modest c names patience qs dropped := by
  have noFile : ∀ path, (⟨r, [], q⟩ : Question).query = .file path → path ∈ names ∧
      Question.Wants ⟨r, [], q⟩ path := fun path same => absurd same (other path)
  cases x with
  | cached _ ended => exact ⟨Nat.zero_le _, .nil, nofun, fun _ _ => ended⟩
  | alone _ o _ x ended =>
    refine ⟨Nat.le_add_right _ _, List.nodup_singleton _, ?_, fun _ answered dropped => ?_⟩
    · exact List.forall_mem_singleton.2 noFile
    · exact answered _ List.mem_cons_self (x.sent.2 (ended dropped))
  | answered _ encoded batch qs o r₁ r₂ _ x hd y ended same =>
    have confined : Confined c names r₁ batch :=
      ⟨imports, x.step.traced traced, (x.sendsAll traced.reached hd).sends⟩
    obtain ⟨few, once, wanted, ends⟩ := y.frugal confined
    have le : (lacking names batch).card ≤ names.card := Finset.card_filter_le _ _
    refine ⟨by rw [List.length_cons]; omega, ?_, List.forall_mem_cons.2 ⟨noFile, ?_⟩, ?_⟩
    · rw [List.map_cons, List.nodup_cons]
      refine ⟨fun again => ?_, once⟩
      obtain ⟨x, hx, same⟩ := List.mem_map.1 again
      obtain ⟨path, _, query, _⟩ := wanted x hx
      exact other path (same.symm.trans query)
    · intro x hx path same
      obtain ⟨path', mem, query, wants⟩ := wanted x hx
      cases same.symm.trans query
      exact ⟨(Finset.mem_filter.1 mem).1, wants⟩
    · intro enough answered dropped
      rw [List.forall_mem_cons] at answered
      exact ends (le.trans enough) answered.2 (ended.1 dropped)

/-! All lookups -/

/-- A lookup, by a name or by the number of an extension. -/
inductive Lookup where
  | find (name : String)
  | findMessage (name : String)
  | findMessageByUrl (url : String)
  | findExtension (message : String) (number : Nat)

namespace Lookup

def operation (patience : Nat) : Lookup → Operation
  | find name => .find patience name
  | findMessage name => .findMessage patience name
  | findMessageByUrl url => .findMessageByUrl patience url
  | findExtension message number => .findExtension patience message number

/-- What a lookup asks first, if it asks anything. -/
def query : Lookup → Query
  | find name | findMessage name => .symbol name
  | findMessageByUrl url => .symbol (((Text.splitLast? '/' url).map (·.2)).getD url)
  | findExtension message number => .extension message number

/-- What a lookup is for, as it is named in errors. -/
def subject : Lookup → String
  | find name | findMessage name => name
  | findMessageByUrl url => ((Text.splitLast? '/' url).map (·.2)).getD url
  | findExtension message number => s!"{message}({number})"

theorem query_ne_file (l : Lookup) (path : String) : l.query ≠ .file path := by
  cases l <;> nofun

/-- All questions of a lookup, in order. -/
def questions (c : Connector) (patience : Nat) (r : Resolver) : Lookup → List Question
  | find name | findMessage name => r.asked c patience (·.find? name) (.symbol name) name
  | findMessageByUrl url =>
    let name := ((Text.splitLast? '/' url).map (·.2)).getD url
    r.asked c patience (·.find? name) (.symbol name) name
  | findExtension message number =>
    if number < 0x80000000 then
      r.asked c patience (·.extension? message number) (.extension message number)
        s!"{message}({number})"
    else []

/-- A lookup does not come to an end. -/
def GivenUp (c : Connector) (patience : Nat) (r : Resolver) : Lookup → Prop
  | find name => (r.find c patience name).1 = .dropped
  | findMessage name => (r.findMessage c patience name).1 = .dropped
  | findMessageByUrl url => (r.findMessageByUrl c patience url).1 = .dropped
  | findExtension message number => (r.findExtension c patience message number).1 = .dropped

theorem findMessage_dropped (name : String) : (r.findMessage c patience name).1 = .dropped ↔
    (r.find c patience name).1 = .dropped := by
  unfold Resolver.findMessage
  rcases r.find c patience name with ⟨o, r₁⟩
  cases o with
  | done d =>
    refine iff_of_false ?_ (Outcome.done_ne_dropped d)
    cases d
    case message m => exact Outcome.done_ne_dropped m
    all_goals exact Outcome.failed_ne_dropped _
  | failed e => exact iff_of_false (Outcome.failed_ne_dropped e) (Outcome.failed_ne_dropped e)
  | dropped => exact iff_of_true rfl rfl

theorem find_inquiring (c : Connector) (patience : Nat) (r : Resolver) (name : String) :
    Inquiring c name patience r (.symbol name)
      (r.asked c patience (·.find? name) (.symbol name) name)
      ((r.find c patience name).1 = .dropped) (r.find c patience name).2 :=
  lookup_inquiring c patience r _ _ name _

theorem findMessage_inquiring (c : Connector) (patience : Nat) (r : Resolver) (name : String) :
    Inquiring c name patience r (.symbol name)
      (r.asked c patience (·.find? name) (.symbol name) name)
      ((r.findMessage c patience name).1 = .dropped) (r.findMessage c patience name).2 := by
  rw [findMessage_dropped, findMessage_snd]
  exact find_inquiring c patience r name

theorem symbol_ne_file (name path : String) : Query.symbol name ≠ .file path := nofun

theorem extension_ne_file (message : String) (number : Nat) (path : String) :
    Query.extension message number ≠ .file path := nofun

/-- Every lookup asks one question, or none, that is not for a file, and then completes a batch. -/
theorem inquiring (c : Connector) (patience : Nat) (r : Resolver) (l : Lookup) :
    ∃ target q, (∀ path, q ≠ .file path) ∧ Inquiring c target patience r q
      (l.questions c patience r) (l.GivenUp c patience r) (r.perform c (l.operation patience)) := by
  cases l with
  | find name => exact ⟨_, _, symbol_ne_file name, find_inquiring c patience r name⟩
  | findMessage name => exact ⟨_, _, symbol_ne_file name, findMessage_inquiring c patience r name⟩
  | findMessageByUrl url => exact ⟨_, _, symbol_ne_file _, findMessage_inquiring c patience r _⟩
  | findExtension message number =>
    refine ⟨s!"{message}({number})", _, extension_ne_file message number, ?_⟩
    simp only [questions, GivenUp, operation, perform, Resolver.findExtension]
    split
    next => exact lookup_inquiring c patience r _ _ _ _
    next =>
      split
      next x _ => exact .cached _ (Outcome.done_ne_dropped x)
      next => exact .cached _ (Outcome.failed_ne_dropped _)

/-- If the files of a service import only some names, then every lookup in a resolver that works
with it makes at most one call for each of the names and one more. It asks nothing twice, and for a
file only if a new file of its batch imports it and neither the cache nor the batch has it. And it
comes to an end if each call does, and the caller waits for as many answers as there are names. The
calls are those of the listed questions, one after the other, and no others. -/
theorem lookups_ask_for_each_name_once (names : Finset String)
    (imports : ∀ f, c.Sends f → ∀ d ∈ f.imports, d ∈ names) (traced : r.Traced c)
    (patience : Nat) (l : Lookup) :
    Modest c names patience (l.questions c patience r) (l.GivenUp c patience r) ∧
    ∃ t, Conversation c r.transport (l.questions c patience r) t ∧
      ((r.perform c (l.operation patience)).transport = t ∨
        l.GivenUp c patience r ∧ (r.perform c (l.operation patience)).transport = t.reset) := by
  obtain ⟨target, q, other, x⟩ := l.inquiring c patience r
  exact ⟨x.modest other imports traced, x.conversation⟩

open Catalog

/-- The one import among the files of the shop is all that it is asked for beside the message, also
after a lookup that failed. -/
theorem shop_is_asked_twice_at_most : ∃ r,
    run shop.service (.ofChoice none) [.find 2 "shop.Gone"] = r ∧
    ((findMessage "shop.Item").questions shop.service 1 r).length ≤ 2 ∧
    ∀ x ∈ (findMessage "shop.Item").questions shop.service 1 r, ∀ path,
      x.query = .file path → path = "base.proto" := by
  have imports : ∀ f ∈ shop.files, ∀ d ∈ f.imports, d ∈ ({"base.proto"} : Finset String) := by
    decide +kernel
  have start : Traced shop.service (.ofChoice none) := ofChoice_traced none
  have traced := (run_steps start [.find 2 "shop.Gone"]).traced start
  have modest := (lookups_ask_for_each_name_once {"base.proto"}
    (fun f sent => imports f (shop.served.only f sent)) traced 1 (findMessage "shop.Item")).1
  refine ⟨_, rfl, modest.few, fun x hx path file => ?_⟩
  exact Finset.mem_singleton.1 (modest.wanted x hx path file).1

end Lookup

end DynamicRpc.Reflection
