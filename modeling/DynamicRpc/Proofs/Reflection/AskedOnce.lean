import DynamicRpc.Proofs.Reflection.Answers
import DynamicRpc.Proofs.Reflection.CatalogLookup

/-!
Imports are asked for once. What answers the query for a file for good is recalled until the next
reset, as a file that is cached or fetched or as one that the service does not have, and what is
recalled is not asked for. Other answers leave no trace: after files that cannot be decoded, or
without the wanted one among them, the next lookup asks again.
-/
namespace DynamicRpc.Reflection

open Schema

namespace Resolver

variable {c : Connector} {r r' : Resolver} {q : Query} {target file dependency path : String}
  {patience : Nat} {batch files : List FileDecl} {o : Outcome ResolveError (List FileDecl)}

/-- A file that need not be asked for. -/
def Recalls (r : Resolver) (path : String) : Prop :=
  path ∈ r.cache.decls.map (·.path) ∨ (∃ f ∈ r.fetched, f.path = path) ∨
    ∃ s, (path, s) ∈ r.unavailable

/-- What an operation is made of, other than a reset: queries that are not for files; imports that
are missed, with what is remembered of the answer; insertions; and streams that are dropped. -/
inductive Move (c : Connector) : Resolver → Resolver → Prop where
  | asked (r : Resolver) (q : Query) (o : Outcome QueryError Reply) (t : Transport)
    (h : r.transport.send c q = (o, t)) (other : ∀ path, q ≠ .file path) :
    Move c r { r with transport := t }
  | imported (r r' : Resolver) (target file dependency : String)
    (o : Outcome ResolveError (List FileDecl)) (new : ¬ r.Recalls dependency)
    (x : Importing c target file dependency r o r') : Move c r r'
  | inserted (r : Resolver) (order : LinkOrder) (batch : List FileDecl) (cache : Cache) (n : Nat)
    (h : r.cache.insert order batch = (.ok n, cache)) : Move c r (r.withCache cache)
  | dropped (r : Resolver) (t : Transport) (same : t.history = r.transport.history) :
    Move c r { r with transport := t }

abbrev Moves (c : Connector) : Resolver → Resolver → Prop := Relation.ReflTransGen (Move c)

/-! What is recalled -/

theorem fetched?_eq_none : r.fetched? path = none ↔ ∀ f ∈ r.fetched, f.path ≠ path := by
  simp [fetched?, List.find?_eq_none]

theorem unavailable?_eq_none : r.unavailable? path = none ↔ ∀ s, (path, s) ∉ r.unavailable := by
  simp only [unavailable?, Option.map_eq_none_iff, List.find?_eq_none, decide_eq_true_eq]
  constructor
  · exact fun none s mem => none _ mem rfl
  · rintro none ⟨_, s⟩ mem rfl
    exact none s mem

/-- An import that is missed and forgotten is not recalled. -/
theorem Misses.not_recalls (first : r.Misses batch file dependency) (forgot : r.Forgot dependency) :
    ¬ r.Recalls dependency := by
  rintro (cached | ⟨f, hf, path⟩ | ⟨s, hs⟩)
  · exact (Cache.mem_missing.1 first.mem).2.2.2 cached
  · exact fetched?_eq_none.1 forgot.1 f hf path
  · exact unavailable?_eq_none.1 forgot.2 s hs

/-- Remembered files are recalled, beside all that was. -/
theorem fetched_remember {f : FileDecl} (h : f.path = path ∨ ∃ g ∈ r.fetched, g.path = path) :
    ∃ g ∈ (r.remember f).fetched, g.path = path := by
  by_cases same : f.path = path
  · exact ⟨f, List.mem_cons_self, same⟩
  · obtain ⟨g, hg, rfl⟩ := h.resolve_left same
    exact ⟨g, List.mem_cons_of_mem f (List.mem_filter.2 ⟨hg, by simpa using Ne.symm same⟩), rfl⟩

theorem fetched_remember_all
    (h : path ∈ files.map (·.path) ∨ ∃ g ∈ r.fetched, g.path = path) :
    ∃ g ∈ (files.foldl remember r).fetched, g.path = path := by
  induction files generalizing r with
  | nil => exact h.resolve_left nofun
  | cons f rest ih =>
    rw [List.map_cons, List.mem_cons] at h
    refine ih ?_
    rcases h with (same | h) | h
    · exact .inr (fetched_remember (.inl same.symm))
    · exact .inl h
    · exact .inr (fetched_remember (.inr h))

theorem Recalls.remember_all (x : r.Recalls path) : (files.foldl remember r).Recalls path := by
  rcases x with cached | fetched | missing
  · rw [foldl_remember]
    exact .inl cached
  · exact .inr (.inl (fetched_remember_all (.inr fetched)))
  · rw [foldl_remember]
    exact .inr (.inr missing)

/-- What is fetched is kept until it is cached. -/
theorem Recalls.withCache {order : LinkOrder} {cache : Cache} {n : Nat} (x : r.Recalls path)
    (h : r.cache.insert order batch = (.ok n, cache)) : (r.withCache cache).Recalls path := by
  rcases x with cached | ⟨f, hf, rfl⟩ | missing
  · left
    rw [Resolver.withCache, Cache.decls_insert h, List.map_append]
    exact List.mem_append_left _ cached
  · by_cases cached : cache.contains f.path = true
    · exact .inl (Cache.contains_iff.1 cached)
    · exact .inr (.inl ⟨f, List.mem_filter.2 ⟨hf, by simpa using cached⟩, rfl⟩)
  · exact .inr (.inr missing)

end Resolver

open Resolver

variable {c : Connector} {r r' : Resolver} {q : Query} {target file dependency path : String}
  {patience : Nat} {batch files : List FileDecl} {o : Outcome ResolveError (List FileDecl)}

/-- Files settle a query only with the wanted file among them. -/
theorem Outcome.Settles.mem {encoded : List Bytes}
    (x : Outcome.Settles path (.done (.files encoded))) :
    ∃ files, decodeFiles encoded = .ok files ∧ path ∈ files.map (·.path) := by
  cases x with
  | found encoded files hd mem => exact ⟨files, hd, mem⟩
  | missing o s ho code => rcases ho with ho | ho <;> cases ho

/-- A refusal settles a query only if it says that there is no such file. -/
theorem Outcome.Settles.notFound {o : Outcome QueryError Reply} {s : Rpc.Status}
    (x : o.Settles path) (ho : o.Refuses s) : s.code = .notFound := by
  cases x with
  | found encoded files hd mem => rcases ho with ho | ho <;> cases ho
  | missing o s' ho' code =>
    rcases ho with rfl | rfl <;> rcases ho' with same | same <;> cases same <;> exact code

/-- What asking for an import does: it is a query for the import; nothing that was recalled is
forgotten; and the import is recalled if the query was answered for good. -/
structure Learns (r : Resolver) (dependency : String) (r' : Resolver)
    (o : Outcome QueryError Reply) (es : List Event) : Prop where
  asks : Asks (.file dependency) o es
  grown : r'.transport.history = r.transport.history ++ es
  kept : ∀ path, r.Recalls path → r'.Recalls path
  recalled : o.Settles dependency → r'.Recalls dependency

theorem Importing.learns (x : Importing c target file dependency r o r') :
    ∃ o' es, Learns r dependency r' o' es := by
  have sent : ∀ {o' t}, r.transport.send c (.file dependency) = (o', t) →
      ∃ es, t.history = r.transport.history ++ es ∧ Asks (.file dependency) o' es :=
    fun h => (Transport.send_cases h).asks
  cases x with
  | received encoded files r₁ x hd mem =>
    cases x with
    | files encoded t h =>
      obtain ⟨es, grown, asks⟩ := sent h
      refine ⟨_, es, asks, ?_, fun path x => .remember_all (r := { r with transport := t }) x,
        fun _ => ?_⟩
      · rw [foldl_remember]
        exact grown
      · exact .inr (.inl (fetched_remember_all (.inl mem)))
  | absent encoded files r₁ x hd mem =>
    cases x with
    | files encoded t h =>
      obtain ⟨es, grown, asks⟩ := sent h
      refine ⟨_, es, asks, ?_, fun path x => .remember_all (r := { r with transport := t }) x,
        fun settles => ?_⟩
      · rw [foldl_remember]
        exact grown
      · obtain ⟨files', hd', mem'⟩ := settles.mem
        cases hd.symm.trans hd'
        exact absurd mem' mem
  | undecodable encoded e r₁ x hd =>
    cases x with
    | files encoded t h =>
      obtain ⟨es, grown, asks⟩ := sent h
      refine ⟨_, es, asks, grown, fun path x => x, fun settles => ?_⟩
      obtain ⟨files, hd', _⟩ := settles.mem
      cases hd.symm.trans hd'
  | unknown s r₁ x code =>
    cases x with
    | refused o s t h ho =>
      obtain ⟨es, grown, asks⟩ := sent h
      refine ⟨_, es, asks, grown, fun path x => ?_, fun _ => ?_⟩
      · exact x.imp_right (Or.imp_right fun ⟨s, hs⟩ => ⟨s, List.mem_cons_of_mem _ hs⟩)
      · exact .inr (.inr ⟨s, List.mem_cons_self⟩)
  | failed e r₁ x code =>
    cases x with
    | refused o s t h ho =>
      obtain ⟨es, grown, asks⟩ := sent h
      exact ⟨_, es, asks, grown, fun path x => x,
        fun settles => absurd (settles.notFound ho) (code s rfl)⟩
    | broken e t h he =>
      obtain ⟨es, grown, asks⟩ := sent h
      refine ⟨_, es, asks, grown, fun path x => x, fun settles => ?_⟩
      rcases settles with _ | ⟨_, s, ho | ho, _⟩ <;> cases ho
      exact absurd rfl (he s)
    | services names t h =>
      obtain ⟨es, grown, asks⟩ := sent h
      refine ⟨_, es, asks, grown, fun path x => x, fun settles => ?_⟩
      rcases settles with _ | ⟨_, s, ho | ho, _⟩ <;> cases ho
  | dropped r₁ x =>
    cases x with
    | dropped t h =>
      obtain ⟨es, grown, asks⟩ := sent h
      exact ⟨_, es, asks, grown, fun path x => x, fun settles => absurd settles not_settles_dropped⟩

/-! Operations as moves -/

theorem Fetching.move {o : Outcome ResolveError (List Bytes)} (x : Fetching c r q o r')
    (other : ∀ path, q ≠ .file path) : Move c r r' := by
  cases x with
  | files encoded t h => exact .asked r q _ t h other
  | refused o s t h ho => exact .asked r q _ t h other
  | broken e t h he => exact .asked r q _ t h other
  | services names t h => exact .asked r q _ t h other
  | dropped t h => exact .asked r q _ t h other

theorem Completing.moves (x : Completing c target patience r batch o r') : Moves c r r' := by
  induction x with
  | closed patience r batch none => exact .refl
  | remembered patience r r' batch o file dependency f first found rest ih => exact ih
  | unavailable patience r batch file dependency s first new known => exact .refl
  | givenUp r batch file dependency first forgot =>
    exact .single (.dropped r _ r.transport.history_reset)
  | received patience r r₁ r' batch files o file dependency first forgot x rest ih =>
    exact .head (.imported r r₁ target file dependency _ (first.not_recalls forgot) x) ih
  | failed patience r r₁ batch e file dependency first forgot x =>
    exact .single (.imported r r₁ target file dependency _ (first.not_recalls forgot) x)
  | dropped patience r r₁ batch file dependency first forgot x =>
    exact .single (.imported r r₁ target file dependency _ (first.not_recalls forgot) x)

theorem Looking.moves {α : Type} {answer? : Cache → Option α}
    {unknown : Option Rpc.Status → ResolveError} {o : Outcome ResolveError α}
    (x : Looking c patience r answer? q target unknown o r') (other : ∀ path, q ≠ .file path) :
    Moves c r r' := by
  cases x with
  | cached a known => exact .refl
  | unknown s r₁ new x code => exact .single (x.move other)
  | failed e r₁ new x code => exact .single (x.move other)
  | dropped r₁ new x => exact .single (x.move other)
  | undecodable encoded e r₁ new x hd => exact .single (x.move other)
  | incomplete encoded batch e r₁ r₂ new x hd y => exact .head (x.move other) y.moves
  | givenUp encoded batch r₁ r₂ new x hd y => exact .head (x.move other) y.moves
  | refused encoded batch closed e r₁ r₂ new x hd y hi => exact .head (x.move other) y.moves
  | answered encoded batch closed cache n a r₁ r₂ new x hd y hi found =>
    exact .head (x.move other) (.tail y.moves (.inserted r₂ _ closed cache n hi))
  | absent encoded batch closed cache n r₁ r₂ new x hd y hi missing =>
    exact .head (x.move other) (.tail y.moves (.inserted r₂ _ closed cache n hi))

namespace Resolver

/-- What kind of definition a name stands for is looked at after the lookup. -/
theorem findMessage_snd (name : String) :
    (r.findMessage c patience name).2 = (r.find c patience name).2 := by
  unfold findMessage
  rcases r.find c patience name with ⟨o, r₁⟩
  cases o with
  | done d => cases d <;> rfl
  | failed e => rfl
  | dropped => rfl

theorem find_moves (name : String) : Moves c r (r.find c patience name).2 :=
  (lookup_looking c patience r _ _ name _).moves nofun

theorem findExtension_moves (message : String) (number : Nat) :
    Moves c r (r.findExtension c patience message number).2 := by
  unfold findExtension
  split
  next => exact (lookup_looking c patience r _ _ _ _).moves nofun
  next => split <;> exact .refl

theorem services_move (c : Connector) (r : Resolver) : Move c r (r.services c).2 := by
  unfold services ask
  rcases h : r.transport.send c .services with ⟨o, t⟩
  have asked : Move c r { r with transport := t } := .asked r _ _ t h nofun
  cases o with
  | done reply => cases reply <;> exact asked
  | failed e => cases e <;> exact asked
  | dropped => exact asked

theorem perform_moves {op : Operation} (kept : op ≠ .reset) : Moves c r (r.perform c op) := by
  cases op with
  | find patience name => exact find_moves name
  | findMessage patience name =>
    rw [perform, findMessage_snd]
    exact find_moves name
  | findMessageByUrl patience url =>
    rw [perform, findMessageByUrl, findMessage_snd]
    exact find_moves _
  | findExtension patience message number => exact findExtension_moves message number
  | services => exact .single (services_move c r)
  | reset => exact absurd rfl kept
  | close => exact .single (.dropped r _ rfl)

theorem run_moves {ops : List Operation} (kept : .reset ∉ ops) : Moves c r (run c r ops) := by
  induction ops generalizing r with
  | nil => exact .refl
  | cons op rest ih =>
    rw [List.mem_cons, not_or] at kept
    exact (perform_moves (Ne.symm kept.1)).trans (ih kept.2)

/-! What was asked since a moment -/

/-- What happened since a moment: files are asked for once, and what was answered for good is
recalled. -/
structure Since (start : History) (r : Resolver) (h : History) : Prop where
  grown : r.transport.history = start ++ h
  recalled : ∀ path, h.Answered path → r.Recalls path
  once : ∀ path, h.AskedOnce path

theorem since_now (r : Resolver) : Since r.transport.history r [] where
  grown := (List.append_nil _).symm
  recalled _ answered := absurd answered not_answered_nil
  once path h₁ h₂ s o split := by
    cases (List.append_eq_nil_iff.1 split.symm).2

theorem Move.since {start h : History} (x : Move c r r') (i : Since start r h) :
    ∃ h', Since start r' h' := by
  cases x with
  | asked q o t sent other =>
    obtain ⟨es, grown, asks⟩ := (Transport.send_cases sent).asks
    refine ⟨h ++ es, ?_, fun path answered => ?_, fun path => ?_⟩
    · exact grown.trans (by rw [i.grown, List.append_assoc])
    · refine i.recalled path ((asks.answered h path answered).resolve_right ?_)
      exact fun x => other path x.1
    · exact asks.once h path (i.once path) fun same => absurd same (other path)
  | imported _ target file dependency o new x =>
    obtain ⟨o', es, learns⟩ := x.learns
    refine ⟨h ++ es, ?_, fun path answered => ?_, fun path => ?_⟩
    · rw [learns.grown, i.grown, List.append_assoc]
    · rcases learns.asks.answered h path answered with answered | ⟨same, settles⟩
      · exact learns.kept path (i.recalled path answered)
      · cases same
        exact learns.recalled settles
    · refine learns.asks.once h path (i.once path) fun same answered => ?_
      cases same
      exact new (i.recalled dependency answered)
  | inserted order batch cache n inserted =>
    exact ⟨h, i.grown, fun path answered => (i.recalled path answered).withCache inserted, i.once⟩
  | dropped t same => exact ⟨h, same.trans i.grown, i.recalled, i.once⟩

theorem Moves.since {start h : History} (x : Moves c r r') (i : Since start r h) :
    ∃ h', Since start r' h' := by
  induction x with
  | refl => exact ⟨h, i⟩
  | tail _ x ih =>
    obtain ⟨h', i'⟩ := ih
    exact x.since i'

/-- From any moment on, as long as there is no reset, whatever the service sends and wherever
lookups are given up: a file is not asked for after the query for it was answered for good, and the
answer is recalled. -/
theorem answered_imports_are_not_asked_for_again (c : Connector) (r : Resolver)
    (ops : List Operation) (kept : .reset ∉ ops) :
    ∃ h, (run c r ops).transport.history = r.transport.history ++ h ∧
      ∀ path, h.AskedOnce path ∧ (h.Answered path → (run c r ops).Recalls path) := by
  obtain ⟨h, since⟩ := (run_moves kept).since (since_now r)
  exact ⟨h, since.grown, fun path => ⟨since.once path, since.recalled path⟩⟩

/-! Lookups that miss one import -/

open Catalog

/-- A lookup that fails over the first import that it misses. -/
theorem find_of_failed {name : String} {encoded : List Bytes} {r₁ r₂ : Resolver} {e : ResolveError}
    (new : r.cache.find? name = none) (hx : r.fetch c (.symbol name) = (.done encoded, r₁))
    (hd : decodeFiles encoded = .ok batch) (first : r₁.Misses batch file dependency)
    (forgot : r₁.Forgot dependency)
    (failed : r₁.fetchImport c name file dependency = (.failed e, r₂)) :
    r.find c (patience + 1) name = (.failed e, r₂) := by
  have complete : r₁.complete c name (patience + 1) batch = (.failed e, r₂) := by
    rw [complete_eq, first]
    dsimp only
    rw [forgot.1, forgot.2, failed]
    rfl
  rw [find, lookup, new, hx]
  dsimp only
  rw [register, hd]
  dsimp only
  rw [complete, Ended.andThen_failed, Ended.andThen_failed]

/-- A service that sends `item.proto` for all names, and one answer for all files. -/
def withholding (answer : Reply) : Connector :=
  .replying fun
    | .symbol _ => .done (.files [itemFile])
    | _ => .done answer

/-- A lookup that is sent `item.proto` and nothing that settles the query for its import. -/
theorem perform_of_failed {t : Transport} {e : ResolveError} (hc : r.cache = .empty)
    (forgot : r.Forgot "base.proto")
    (asked : r.transport.send c (.symbol "shop.Item") = (.done (.files [itemFile]), t))
    (failed : fetchImport c "shop.Item" "item.proto" "base.proto" { r with transport := t } =
      (.failed e, r')) : r.perform c (.find 1 "shop.Item") = r' := by
  have fetched :
      r.fetch c (.symbol "shop.Item") = (.done [itemFile], { r with transport := t }) := by
    rw [fetch, ask, asked]
    rfl
  have first : Misses { r with transport := t } [decoded itemFile] "item.proto" "base.proto" := by
    rw [Misses, hc]
    decide +kernel
  exact congrArg Prod.snd (find_of_failed (by rw [hc]; rfl) fetched rfl first forgot failed)

/-- What is asked in a lookup that misses one import. -/
def inquiry (answer : Reply) : List Event :=
  [.writing ⟨.v1, 0⟩ (.symbol "shop.Item") (.done ()),
    .reading ⟨.v1, 0⟩ (.done (.files [itemFile])),
    .writing ⟨.v1, 0⟩ (.file "base.proto") (.done ()), .reading ⟨.v1, 0⟩ (.done answer)]

theorem ends_inquiry (h : History) (answer : Reply) :
    History.Ends (h ++ inquiry answer) (.file "base.proto") (.done answer) := by
  have split : h ++ inquiry answer =
      h ++ (inquiry answer).take 2 ++ [.writing ⟨.v1, 0⟩ (.file "base.proto") (.done ())] ++
        [.reading ⟨.v1, 0⟩ (.done answer)] := by
    simp [inquiry]
  rw [split]
  exact .read _ _ _ _

/-- An import that the service does not have is recalled as such. -/
theorem missing_import_is_recalled : ∃ h,
    (run (withholding (.refused ⟨.notFound, ""⟩)) (.ofChoice none)
      [.find 1 "shop.Item", .close]).transport.history = [] ++ h ∧
    History.Answered h "base.proto" ∧
    (run (withholding (.refused ⟨.notFound, ""⟩)) (.ofChoice none)
      [.find 1 "shop.Item", .close]).Recalls "base.proto" := by
  obtain ⟨h, grown, once⟩ :=
    answered_imports_are_not_asked_for_again (withholding (.refused ⟨.notFound, ""⟩))
      (.ofChoice none) [.find 1 "shop.Item", .close] (by simp)
  have performed := perform_of_failed (c := withholding (.refused ⟨.notFound, ""⟩))
    (r := .ofChoice none) rfl ⟨rfl, rfl⟩ rfl rfl
  have ends : History.Ends h (.file "base.proto") (.done (.refused ⟨.notFound, ""⟩)) := by
    rw [run, List.foldl_cons, performed] at grown
    have same : h = [.opening ⟨.v1, 0⟩ (.done ())] ++ inquiry (.refused ⟨.notFound, ""⟩) :=
      grown.symm
    rw [same]
    exact ends_inquiry _ _
  have answered : History.Answered h "base.proto" :=
    ⟨h, [], _, (List.append_nil h).symm, ends, .missing _ _ (.inl rfl) rfl⟩
  exact ⟨h, grown, answered, (once "base.proto").2 answered⟩

/-! Answers that leave no trace -/

/-- An import for which files are sent that do not settle the query is forgotten again. -/
theorem fetchImport_of_unsettled {encoded : List Bytes} {t : Transport} (target file : String)
    (unsettled : ¬ Outcome.Settles dependency (.done (.files encoded)))
    (forgot : r.Forgot dependency)
    (h : r.transport.send c (.file dependency) = (.done (.files encoded), t)) :
    ∃ e r', r.fetchImport c target file dependency = (.failed e, r') ∧ r'.transport = t ∧
      r'.cache = r.cache ∧ r'.Forgot dependency := by
  have fetched : r.fetch c (.file dependency) = (.done encoded, { r with transport := t }) := by
    rw [fetch, ask, h]
    rfl
  rw [fetchImport, fetched]
  dsimp only
  cases hd : decodeFiles encoded with
  | error e => exact ⟨_, _, rfl, rfl, rfl, forgot⟩
  | ok files =>
    have absent : dependency ∉ files.map (·.path) :=
      fun mem => unsettled (.found encoded files hd mem)
    dsimp only
    rw [if_neg (by simpa using absent), foldl_remember]
    refine ⟨_, _, rfl, rfl, rfl, fetched?_eq_none.2 fun f hf path => ?_, forgot.2⟩
    rcases mem_fetched_remember_all hf with hf | hf
    · exact absent (path ▸ List.mem_map_of_mem hf)
    · exact fetched?_eq_none.1 forgot.1 f hf path

theorem perform_of_unsettled {encoded : List Bytes} {t t' : Transport}
    (unsettled : ¬ Outcome.Settles "base.proto" (.done (.files encoded)))
    (hc : r.cache = .empty) (forgot : r.Forgot "base.proto")
    (asked : r.transport.send c (.symbol "shop.Item") = (.done (.files [itemFile]), t))
    (withheld : t.send c (.file "base.proto") = (.done (.files encoded), t')) :
    ∃ r', r.perform c (.find 1 "shop.Item") = r' ∧ r'.transport = t' ∧ r'.cache = .empty ∧
      r'.Forgot "base.proto" := by
  obtain ⟨_, r', failed, transport, cache, forgot'⟩ := fetchImport_of_unsettled
    (r := { r with transport := t }) "shop.Item" "item.proto" unsettled forgot withheld
  exact ⟨r', perform_of_failed hc forgot asked failed, transport, cache.trans hc, forgot'⟩

/-- Files that do not settle the query for an import are asked for again by the next lookup. -/
theorem unsettled_import_is_asked_for_again {encoded : List Bytes}
    (unsettled : ¬ Outcome.Settles "base.proto" (.done (.files encoded))) :
    (run (withholding (.files encoded)) (.ofChoice none)
      [.find 1 "shop.Item", .find 1 "shop.Item"]).transport.history =
    [.opening ⟨.v1, 0⟩ (.done ())] ++ inquiry (.files encoded) ++ inquiry (.files encoded) := by
  obtain ⟨r₁, first, transport, cache, forgot⟩ := perform_of_unsettled
    (c := withholding (.files encoded)) (r := .ofChoice none) unsettled rfl ⟨rfl, rfl⟩ rfl rfl
  obtain ⟨r₂, second, transport', _, _⟩ := perform_of_unsettled
    (c := withholding (.files encoded)) unsettled cache forgot (by rw [transport]; rfl) rfl
  rw [run, List.foldl_cons, List.foldl_cons, List.foldl_nil, first, second, transport']
  rfl

/-- The file is asked for twice, though the first query for it was answered, by no files. -/
theorem empty_answer_is_asked_for_again : ∃ h₁ h₂ s,
    (run (withholding (.files [])) (.ofChoice none)
      [.find 1 "shop.Item", .find 1 "shop.Item"]).transport.history = h₁ ++ h₂ ∧
    History.Ends h₁ (.file "base.proto") (.done (.files [])) ∧
    .writing s (.file "base.proto") (.done ()) ∈ h₂ := by
  have unsettled : ¬ Outcome.Settles "base.proto" (.done (.files [])) := by
    intro settles
    obtain ⟨files, hd, mem⟩ := settles.mem
    cases hd
    cases mem
  refine ⟨_, _, ⟨.v1, 0⟩, unsettled_import_is_asked_for_again unsettled, ends_inquiry _ _, ?_⟩
  exact List.mem_of_getElem? (i := 2) rfl

end Resolver

end DynamicRpc.Reflection
