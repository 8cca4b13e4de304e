import DynamicRpc.Proofs.Reflection.Questions

/-!
Files that came for imports. All files of an answer to the query for a file are kept, those too that
nobody asked for, whatever becomes of the lookup afterwards. Until the next reset each of them is at
hand, in the cache or as it came last; it is not asked for again, and a batch that misses it goes on
with it at once.
-/
namespace DynamicRpc.Reflection

open Schema Resolver

/-! What came -/

/-- The files that came in decodable answers to queries for files, the first ones first. -/
def History.received : History → List FileDecl
  | .writing _ (.file _) (.done ()) :: .reading _ (.done (.files encoded)) :: rest =>
    (decodeFiles encoded).toOption.getD [] ++ History.received rest
  | _ :: rest => History.received rest
  | [] => []

/-- The file of some name as it came last. -/
def History.lastReceived? (h : History) (path : String) : Option FileDecl :=
  h.received.reverse.find? (·.path = path)

/-- The files that the ending of a query brings. -/
def Query.brings : Query → Outcome QueryError Reply → List FileDecl
  | .file _, .done (.files encoded) => (decodeFiles encoded).toOption.getD []
  | _, _ => []

/-- A file is not asked for after it came. -/
def History.Spares (h : History) (path : String) : Prop :=
  ∀ (h₁ : History) h₂ s o, h = h₁ ++ .writing s (.file path) o :: h₂ → h₁.lastReceived? path = none

def Event.isReading : Event → Bool
  | .reading .. => true
  | _ => false

variable {c : Connector} {h es es' : History} {e : Event} {s : Stream} {q : Query} {d : Dialect}
  {o o' : Outcome QueryError Reply} {t t' : Transport} {path : String}

/-- Only a read can make an answer of what came before it. -/
theorem received_append (h : History) (es : List Event) (other : e.isReading = false) :
    History.received (h ++ e :: es) = h.received ++ History.received (e :: es) := by
  fun_induction History.received h with
  | case1 s path s' encoded rest ih =>
    simp only [List.cons_append, History.received, ih, List.append_assoc]
  | case2 first rest single ih =>
    rw [List.cons_append, History.received, ih]
    intro s path s' encoded rest' write read
    cases rest with
    | nil =>
      cases read
      cases other
    | cons second rest =>
      cases read
      exact single s path s' encoded rest write rfl
  | case3 => rfl

theorem spares_nil : History.Spares [] path := by
  intro h₁ h₂ s o split
  cases (List.append_eq_nil_iff.1 split.symm).2

theorem spares_concat (spares : h.Spares path)
    (new : ∀ s o, e = .writing s (.file path) o → h.lastReceived? path = none) :
    History.Spares (h ++ [e]) path := by
  intro h₁ h₂ s o split
  rcases List.eq_nil_or_concat h₂ with rfl | ⟨h₂, e', rfl⟩
  · obtain ⟨rfl, last⟩ := List.append_inj' split rfl
    exact new s o (by simpa using last)
  · rw [List.concat_eq_append, ← List.cons_append, ← List.append_assoc] at split
    exact spares h₁ h₂ s o (List.append_inj' split rfl).1

/-! Sends -/

/-- What asking a query adds to a history: the files that the ending brings, and no write but of
this query. -/
structure Yields (q : Query) (o : Outcome QueryError Reply) (es : List Event) : Prop where
  received : ∀ h : History, History.received (h ++ es) = h.received ++ q.brings o
  spares : ∀ (h : History) path, h.Spares path → (q = .file path → h.lastReceived? path = none) →
    History.Spares (h ++ es) path

theorem brings_eq_nil (other : ∀ encoded, o ≠ .done (.files encoded)) : q.brings o = [] := by
  unfold Query.brings
  split
  next encoded => exact absurd rfl (other encoded)
  next => rfl

theorem Yields.nil (nothing : q.brings o = []) : Yields q o [] where
  received h := by rw [nothing, List.append_nil, List.append_nil]
  spares h path spares _ := by rwa [List.append_nil]

/-- Asking twice, where the first time brought nothing. -/
theorem Yields.append (first : Yields q o es) (nothing : q.brings o = [])
    (second : Yields q o' es') : Yields q o' (es ++ es') where
  received h := by
    rw [← List.append_assoc, second.received, first.received, nothing, List.append_nil]
  spares h path spares new := by
    rw [← List.append_assoc]
    refine second.spares _ path (first.spares h path spares new) ?_
    intro same
    rw [History.lastReceived?, first.received, nothing, List.append_nil]
    exact new same

theorem yields_opening (s : Stream) (o' : Outcome QueryError Unit) (nothing : q.brings o = []) :
    Yields q o [.opening s o'] where
  received h := by
    rw [received_append h [] rfl, nothing]
    rfl
  spares h path spares _ := spares_concat spares nofun

theorem received_writing (s : Stream) (q : Query) (o' : Outcome QueryError Unit) :
    History.received [.writing s q o'] = [] := by
  simp [History.received]

/-- A write that no reply is waited for. -/
theorem yields_writing (s : Stream) (o' : Outcome QueryError Unit) (nothing : q.brings o = []) :
    Yields q o [.writing s q o'] where
  received h := by rw [received_append h [] rfl, nothing, received_writing]
  spares h path spares new := by
    refine spares_concat spares ?_
    rintro _ _ ⟨⟩
    exact new rfl

theorem received_reading (s : Stream) (q : Query) (o' : Outcome QueryError Reply) :
    History.received [.writing s q (.done ()), .reading s o'] = q.brings o' := by
  cases q with
  | file path =>
    cases o' with
    | done r => cases r <;> simp [History.received, Query.brings]
    | _ => simp [History.received, Query.brings]
  | _ => simp [History.received, Query.brings]

/-- A write and the wait for its reply. -/
theorem yields_reading (s : Stream) (o' : Outcome QueryError Reply)
    (same : q.brings o = q.brings o') :
    Yields q o [.writing s q (.done ()), .reading s o'] where
  received h := by
    rw [received_append h _ rfl, same, received_reading]
  spares h path spares new := by
    rw [List.append_cons]
    have written := (yields_writing (o := .dropped) s (.done ()) (brings_eq_nil nofun)).spares h
      path spares new
    exact spares_concat written nofun

theorem Trip.yields (x : Trip c h s q es o) : Yields q o es := by
  cases x with
  | writeFailed e hw => exact yields_writing s _ (brings_eq_nil nofun)
  | writeDropped hw => exact yields_writing s _ (brings_eq_nil nofun)
  | readFailed e hw hr => exact yields_reading s _ rfl
  | readDropped hw hr => exact yields_reading s _ rfl
  | mismatched r hw hr kind =>
    have nothing : q.brings (.done r) = [] := by
      cases q <;> cases r <;> first | rfl | cases kind
    refine yields_reading s _ (Eq.trans ?_ nothing.symm)
    exact brings_eq_nil nofun
  | answered r hw hr kind => exact yields_reading s _ rfl

theorem yields_additive (c : Connector) (q : Query) : Additive c q (Yields q) where
  closed := .nil (brings_eq_nil nofun)
  opening s o' o stopped := yields_opening s o' (brings_eq_nil fun _ => stopped _)
  trip _ _ _ _ trip := trip.yields
  append o o' es es' nothing first second := by
    refine first.append (brings_eq_nil fun encoded files => ?_) second
    rcases nothing with rfl | ⟨e, rfl, _⟩ <;> cases files

theorem Sending.yields (x : Sending c t q o t') :
    ∃ es, t'.history = t.history ++ es ∧ Yields q o es :=
  x.of_additive (yields_additive c q)

/-! What is at hand -/

namespace Resolver

variable {r r' : Resolver} {target file dependency : String} {patience : Nat}
  {batch files : List FileDecl} {f : FileDecl}

@[simp] theorem fetched?_remember (r : Resolver) (f : FileDecl) (path : String) :
    (r.remember f).fetched? path = if f.path = path then some f else r.fetched? path := by
  rw [fetched?, remember, List.find?_cons]
  by_cases same : f.path = path
  · simp [same]
  · have kept : ∀ g : FileDecl, g.path = path → g.path ≠ f.path := by
      intro g hg
      rw [hg]
      exact Ne.symm same
    simp only [same, decide_false, if_false, fetched?, List.find?_filter]
    congr 1
    funext g
    by_cases hg : g.path = path <;> simp [hg, Ne.symm same]

/-- Of several files of one name the last one is remembered. -/
theorem fetched?_remember_all (r : Resolver) (files : List FileDecl) (path : String) :
    (files.foldl remember r).fetched? path =
      (files.reverse.find? (·.path = path)).or (r.fetched? path) := by
  induction files generalizing r with
  | nil => rfl
  | cons f rest ih =>
    rw [List.foldl_cons, ih, fetched?_remember, List.reverse_cons, List.find?_append,
      List.find?_singleton, Option.or_assoc]
    by_cases same : f.path = path <;> simp [same]

/-- What was received since a moment is at hand, and was not asked for again. -/
structure Holds (start : History) (r : Resolver) (h : History) : Prop where
  grown : r.transport.history = start ++ h
  held : ∀ path f, h.lastReceived? path = some f →
    r.cache.contains path ∨ r.fetched? path = some f
  spares : ∀ path, h.Spares path

theorem holds_now (r : Resolver) : Holds r.transport.history r [] where
  grown := (List.append_nil _).symm
  held path f came := by cases came
  spares path := spares_nil

variable {start : History}

theorem lastReceived?_append (x : Yields q o es) (h : History) (path : String) :
    History.lastReceived? (h ++ es) path =
      ((q.brings o).reverse.find? (·.path = path)).or (h.lastReceived? path) := by
  rw [History.lastReceived?, x.received, List.reverse_append, List.find?_append,
    History.lastReceived?]

theorem lastReceived?_append_of_nil (x : Yields q o es) (nothing : q.brings o = []) (h : History)
    (path : String) : History.lastReceived? (h ++ es) path = h.lastReceived? path := by
  rw [lastReceived?_append x, nothing]
  rfl

/-- What was received is recalled. -/
theorem Holds.recalls (i : Holds start r h) (came : h.lastReceived? path = some f) :
    r.Recalls path := by
  rcases i.held path f came with cached | found
  · exact .inl (Cache.contains_iff.1 cached)
  · exact .inr (.inl ⟨f, fetched?_mem found⟩)

/-- What asking for an import does: all files that it brings are remembered in place of others of
the same names. -/
structure Keeps (r : Resolver) (dependency : String) (r' : Resolver)
    (o : Outcome QueryError Reply) (es : List Event) : Prop where
  grown : r'.transport.history = r.transport.history ++ es
  yields : Yields (.file dependency) o es
  cache : r'.cache = r.cache
  fetched : ∀ path, r'.fetched? path =
    (((Query.file dependency).brings o).reverse.find? (·.path = path)).or (r.fetched? path)

theorem keeps_remember_all {encoded : List Bytes} {t : Transport}
    (sent : r.transport.send c (.file dependency) = (.done (.files encoded), t))
    (hd : decodeFiles encoded = .ok files) : ∃ es, Keeps r dependency
      (files.foldl remember { r with transport := t }) (.done (.files encoded)) es := by
  obtain ⟨es, grown, yields⟩ := (Transport.send_cases sent).yields
  have brought : (Query.file dependency).brings (.done (.files encoded)) = files := by
    rw [Query.brings, hd]
    rfl
  refine ⟨es, ?_, yields, ?_, fun path => ?_⟩
  · rw [foldl_remember]
    exact grown
  · rw [foldl_remember]
  · rw [fetched?_remember_all, brought]
    rfl

/-- If nothing came, what is remembered stays as it is. -/
theorem keeps_of_nil {unavailable : List (String × Rpc.Status)} {t : Transport}
    (sent : r.transport.send c (.file dependency) = (o, t))
    (nothing : (Query.file dependency).brings o = []) :
    ∃ es, Keeps r dependency { r with transport := t, unavailable } o es := by
  obtain ⟨es, grown, yields⟩ := (Transport.send_cases sent).yields
  exact ⟨es, grown, yields, rfl, fun path => by rw [nothing]; rfl⟩

end Resolver

theorem Importing.keeps {r r' : Resolver} {target file dependency : String}
    {o : Outcome ResolveError (List FileDecl)} (x : Importing c target file dependency r o r') :
    ∃ o' es, Keeps r dependency r' o' es := by
  cases x with
  | received encoded files r₁ x hd mem =>
    cases x with
    | files encoded t sent => exact ⟨_, keeps_remember_all sent hd⟩
  | absent encoded files r₁ x hd mem =>
    cases x with
    | files encoded t sent => exact ⟨_, keeps_remember_all sent hd⟩
  | undecodable encoded e r₁ x hd =>
    cases x with
    | files encoded t sent =>
      refine ⟨_, keeps_of_nil sent ?_⟩
      rw [Query.brings, hd]
      rfl
  | unknown s r₁ x code =>
    cases x with
    | refused o s t sent ho =>
      refine ⟨_, keeps_of_nil sent (brings_eq_nil fun encoded files => ?_)⟩
      rcases ho with ho | ho <;> cases ho.symm.trans files
  | failed e r₁ x code =>
    cases x with
    | refused o s t sent ho =>
      refine ⟨_, keeps_of_nil sent (brings_eq_nil fun encoded files => ?_)⟩
      rcases ho with ho | ho <;> cases ho.symm.trans files
    | broken e t sent he => exact ⟨_, keeps_of_nil sent (brings_eq_nil nofun)⟩
    | services names t sent => exact ⟨_, keeps_of_nil sent (brings_eq_nil nofun)⟩
  | dropped r₁ x =>
    cases x with
    | dropped t sent => exact ⟨_, keeps_of_nil sent (brings_eq_nil nofun)⟩

namespace Resolver

variable {r r' : Resolver} {batch : List FileDecl} {start : History}

theorem contains_insert {order : LinkOrder} {cache : Cache} {n : Nat}
    (h : r.cache.insert order batch = (.ok n, cache)) (known : r.cache.contains path) :
    cache.contains path := by
  rw [Cache.contains_iff] at known ⊢
  rw [Cache.decls_insert h, List.map_append]
  exact List.mem_append_left _ known

theorem fetched?_withCache {cache : Cache} (new : cache.contains path = false) :
    (r.withCache cache).fetched? path = r.fetched? path := by
  simp only [fetched?, withCache, List.find?_filter]
  congr 1
  funext g
  by_cases hg : g.path = path <;> simp [hg, new]

/-- One step: what comes is held, and only what is not recalled is asked for. -/
theorem Move.holds (x : Move c r r') (i : Holds start r h) : ∃ h', Holds start r' h' := by
  cases x with
  | asked q o t sent other =>
    obtain ⟨es, grown, yields⟩ := (Transport.send_cases sent).yields
    have nothing : q.brings o = [] := by
      unfold Query.brings
      split
      next path encoded => exact absurd rfl (other path)
      next => rfl
    refine ⟨h ++ es, ?_, fun path f came => ?_, fun path => ?_⟩
    · rw [← List.append_assoc, ← i.grown]
      exact grown
    · rw [lastReceived?_append_of_nil yields nothing] at came
      exact i.held path f came
    · exact yields.spares h path (i.spares path) fun same => absurd same (other path)
  | imported _ target file dependency o new x =>
    obtain ⟨o', es, keeps⟩ := x.keeps
    refine ⟨h ++ es, ?_, fun path f came => ?_, fun path => ?_⟩
    · rw [keeps.grown, i.grown, List.append_assoc]
    · rw [lastReceived?_append keeps.yields] at came
      rw [keeps.cache, keeps.fetched]
      rcases Option.or_eq_some_iff.1 came with brought | ⟨other, before⟩
      · rw [brought]
        exact .inr rfl
      · rw [other]
        exact i.held path f before
    · refine keeps.yields.spares h path (i.spares path) ?_
      rintro ⟨⟩
      by_contra came
      obtain ⟨f, came⟩ := Option.ne_none_iff_exists'.1 came
      exact new (i.recalls came)
  | inserted order batch cache n inserted =>
    refine ⟨h, i.grown, fun path f came => ?_, i.spares⟩
    by_cases cached : cache.contains path
    · exact .inl cached
    · have new : cache.contains path = false := Bool.eq_false_iff.2 cached
      rcases i.held path f came with known | found
      · exact absurd (contains_insert inserted known) cached
      · exact .inr ((fetched?_withCache new).trans found)
  | dropped t same => exact ⟨h, same.trans i.grown, i.held, i.spares⟩

theorem Moves.holds (x : Moves c r r') (i : Holds start r h) : ∃ h', Holds start r' h' := by
  induction x with
  | refl => exact ⟨h, i⟩
  | tail _ x ih =>
    obtain ⟨h', i'⟩ := ih
    exact x.holds i'

end Resolver

/-! What is at hand is used -/

/-- A moment of completing a batch, with the patience that is left. -/
structure Stage where
  patience : Nat
  resolver : Resolver
  batch : List FileDecl

namespace Stage

/-- How completing the batch ends from here. -/
def completed (c : Connector) (target : String) (a : Stage) :
    Ended Resolver ResolveError (List FileDecl) :=
  a.resolver.complete c target a.patience a.batch

/-- A file is added, and nothing else happens. -/
def add (a : Stage) (f : FileDecl) : Stage := { a with batch := a.batch ++ [f] }

/-- A batch grows by a remembered file, or by the files of an answer. -/
inductive Next (c : Connector) (target : String) : Stage → Stage → Prop where
  | remembered (a : Stage) (file dependency : String) (f : FileDecl)
    (first : a.resolver.Misses a.batch file dependency)
    (found : a.resolver.fetched? dependency = some f) : Next c target a (a.add f)
  | received (patience : Nat) (r r₁ : Resolver) (batch files : List FileDecl)
    (file dependency : String) (first : r.Misses batch file dependency)
    (forgot : r.Forgot dependency)
    (hx : r.fetchImport c target file dependency = (.done files, r₁)) :
    Next c target ⟨patience + 1, r, batch⟩ ⟨patience, r₁, batch ++ files⟩

variable {target : String} {a b : Stage}

/-- The end is the same from one moment to the next. -/
theorem Next.completed_eq (x : Next c target a b) :
    a.completed c target = b.completed c target := by
  cases x with
  | remembered _ file dependency f first found =>
    rw [completed, complete_eq, first]
    dsimp only
    rw [found]
    rfl
  | received patience r r₁ batch files file dependency first forgot hx =>
    rw [completed, complete_eq, first]
    dsimp only
    rw [forgot.1, forgot.2, hx]
    rfl

theorem Next.moves (x : Next c target a b) : Moves c a.resolver b.resolver := by
  cases x with
  | remembered _ file dependency f first found => exact .refl
  | received patience r r₁ batch files file dependency first forgot hx =>
    have x := hx ▸ fetchImport_importing c target file dependency r
    exact .single (.imported r r₁ target file dependency _ (first.not_recalls forgot) x)

/-- The moments that a batch goes through. -/
abbrev Later (c : Connector) (target : String) : Stage → Stage → Prop :=
  Relation.ReflTransGen (Next c target)

theorem Later.completed_eq (x : Later c target a b) :
    a.completed c target = b.completed c target := by
  induction x with
  | refl => rfl
  | tail _ x ih => exact ih.trans x.completed_eq

theorem Later.moves (x : Later c target a b) : Moves c a.resolver b.resolver := by
  induction x with
  | refl => exact .refl
  | tail _ x ih => exact ih.trans x.moves

/-- A file that came is the next one of a batch that misses it. -/
theorem next_of_holds {start : History} {file : String} {f : FileDecl}
    (i : Holds start a.resolver h) (first : a.resolver.Misses a.batch file path)
    (came : h.lastReceived? path = some f) : Next c target a (a.add f) := by
  refine .remembered a file path f first ((i.held path f came).resolve_left fun cached => ?_)
  exact (Cache.mem_missing.1 first.mem).2.2.2 (Cache.contains_iff.1 cached)

end Stage

/-- A lookup starts to complete a batch when its query is answered. -/
inductive Lookup.Starts (c : Connector) (patience : Nat) (r : Resolver) (l : Lookup) :
    Stage → Prop where
  | mk (encoded : List Bytes) (batch : List FileDecl) (r₁ : Resolver)
    (hx : r.fetch c l.query = (.done encoded, r₁)) (hd : decodeFiles encoded = .ok batch) :
    Starts c patience r l ⟨patience, r₁, batch⟩

theorem Lookup.Starts.moves {patience : Nat} {r : Resolver} {l : Lookup} {a : Stage}
    (x : l.Starts c patience r a) : Moves c r a.resolver := by
  cases x with
  | mk encoded batch r₁ hx hd =>
    have fetching := hx ▸ fetch_fetching c r l.query
    exact .single (fetching.move l.query_ne_file)

end DynamicRpc.Reflection
