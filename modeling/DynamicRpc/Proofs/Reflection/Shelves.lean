import DynamicRpc.Proofs.Reflection.Catalog
import DynamicRpc.Proofs.Reflection.Replying
import Mathlib.Data.List.Permutation

/-!
A service for any catalog. It keeps an encoding of each file, answers with the files that were asked
for and with nothing else, and refuses what it does not have. Extensions it never answers for.
-/
namespace DynamicRpc.Reflection

open Schema Resolver

/-! Checking a catalog -/

/-- All ways to put some of the files in order. -/
def orders (files : List FileDecl) : List (List FileDecl) := files.permutations'.flatMap List.inits

theorem mem_orders {order files : List FileDecl} (distinct : order.Nodup)
    (subset : order ⊆ files) : order ∈ orders files := by
  obtain ⟨sorted, perm, sub⟩ := List.subperm_of_subset distinct subset
  obtain ⟨rest, whole⟩ := sub.exists_perm_append
  refine List.mem_flatMap.2 ⟨order ++ rest, ?_, ?_⟩
  · exact List.mem_permutations'.2 (whole.trans (perm.append_right rest)).symm
  · exact (List.mem_inits _ _).2 (List.prefix_append order rest)

/-- Whether files can be linked after others. -/
def linkable (old fresh : List FileDecl) : Bool :=
  ((fresh.foldlM FileDecl.define (symbolsOfFiles old)).toOption.bind fun symbols =>
    (fresh.mapM (linkFile (old ++ fresh) symbols)).toOption).isSome

theorem link_of_linkable {p : Pool} {fresh : List FileDecl} (h : linkable p.decls fresh) :
    ∃ q, p.link fresh = .ok q := by
  obtain ⟨linked, h⟩ := Option.isSome_iff_exists.1 h
  obtain ⟨symbols, hs, hl⟩ := Option.bind_eq_some_iff.1 h
  refine ⟨⟨p.files ++ linked⟩, Pool.link_eq_ok.2 ⟨symbols, linked, ?_, ?_, rfl⟩⟩
  · rw [Pool.symbols_eq]
    exact Success.eq_ok_of_toOption hs
  · exact Success.mapM_eq_ok.1 (Success.eq_ok_of_toOption hl)

/-- To see that files can be linked portion by portion, it is enough to try all orders and all
places to cut them. -/
theorem links_of_orders {files : List FileDecl}
    (check : ∀ order ∈ orders files, ∀ n ∈ List.range (order.length + 1),
      Closed (order.take n) → Closed order → linkable (order.take n) (order.drop n))
    (p : Pool) (fresh : List FileDecl) (old : p.decls ⊆ files) (new : fresh ⊆ files)
    (distinct : ((p.decls ++ fresh).map (·.path)).Nodup) (closed : Closed p.decls)
    (closed' : Closed (p.decls ++ fresh)) : ∃ q, p.link fresh = .ok q := by
  have order : p.decls ++ fresh ∈ orders files :=
    mem_orders distinct.of_map (List.append_subset.2 ⟨old, new⟩)
  have place : p.decls.length ∈ List.range ((p.decls ++ fresh).length + 1) := by
    rw [List.mem_range, List.length_append]
    omega
  have checked := check _ order _ place
  rw [List.take_left, List.drop_left] at checked
  exact link_of_linkable (checked closed closed')

/-- The cache after a batch. -/
def Cache.adding (c : Cache) (o : LinkOrder) (batch : List FileDecl) : Cache := (c.insert o batch).2

theorem Cache.adding_eq {c c' : Cache} {o : LinkOrder} {batch : List FileDecl}
    {x : Except InsertError Nat} (h : c.insert o batch = (x, c')) : c.adding o batch = c' := by
  rw [Cache.adding, h]

/-! Shelves -/

/-- A catalog with an encoding of each file. -/
structure Shelf extends Catalog where
  encoding : FileDecl → Bytes
  decodes : ∀ f ∈ files, FileDecl.decode (encoding f) = .ok f

namespace Shelf

variable {S : Shelf} {found : List FileDecl} {encoded : List Bytes} {f : FileDecl} {name : String}

/-- The reply with some files; a refusal if there is none. -/
def reply (S : Shelf) : List FileDecl → Reply
  | [] => .refused ⟨.notFound, ""⟩
  | f :: rest => .files ((f :: rest).map S.encoding)

/-- What the shelf has for a name. -/
def holding (S : Shelf) (name : String) : List FileDecl := S.files.filter fun f => f.Defines name

theorem holding_subset : S.holding name ⊆ S.files := List.filter_subset_self _

theorem mem_holding (hf : f ∈ S.files) (defines : f.Defines name) : f ∈ S.holding name :=
  List.mem_filter.2 ⟨hf, decide_eq_true defines⟩

def answer (S : Shelf) : Query → Outcome QueryError Reply
  | .symbol name => .done (S.reply (S.holding name))
  | .file path => .done (S.reply (S.files.filter fun f => f.path = path))
  | .extension _ _ => .dropped
  | .services => .done (.services [])

def service (S : Shelf) : Connector := .replying S.answer

theorem decodeFiles_encoding (subset : found ⊆ S.files) :
    decodeFiles (found.map S.encoding) = .ok found := by
  rw [decodeFiles, Success.mapM_eq_ok, List.forall₂_map_left_iff, List.forall₂_same]
  intro f hf
  exact S.decodes f (subset hf)

/-- Files in a reply are those that were found. -/
theorem reply_files (subset : found ⊆ S.files) (h : S.reply found = .files encoded) :
    decodeFiles encoded = .ok found := by
  cases found with
  | nil => cases h
  | cons f rest =>
    cases h
    exact decodeFiles_encoding subset

/-- Files in an answer are files of the shelf. -/
theorem answer_files {q : Query} (h : S.answer q = .done (.files encoded)) :
    ∃ found ⊆ S.files, decodeFiles encoded = .ok found := by
  cases q with
  | symbol name =>
    exact ⟨_, holding_subset, reply_files holding_subset (Outcome.done.inj h)⟩
  | file path =>
    have subset : S.files.filter (fun f => f.path = path) ⊆ S.files := List.filter_subset_self _
    exact ⟨_, subset, reply_files subset (Outcome.done.inj h)⟩
  | extension message number => cases h
  | services => cases h

theorem mem_of_reply (subset : found ⊆ S.files) (hf : f ∈ found)
    (h : S.reply found = .files encoded) {files : List FileDecl}
    (hd : decodeFiles encoded = .ok files) : f ∈ files := by
  cases hd.symm.trans (reply_files subset h)
  exact hf

/-- Every shelf serves its catalog. -/
theorem served (S : Shelf) : S.toCatalog.ServedBy S.service where
  only := by
    rintro f ⟨q, files, ⟨encoded, x, hd⟩, hf⟩
    obtain ⟨found, subset, decoded⟩ := answer_files x.eq_answer_of_done
    cases hd.symm.trans decoded
    exact subset hf
  decodes := by
    intro q encoded x
    obtain ⟨found, _, decoded⟩ := answer_files x.eq_answer_of_done
    exact ⟨found, decoded⟩
  symbols := by
    rintro f hf name defines files ⟨encoded, x, hd⟩
    exact mem_of_reply holding_subset (mem_holding hf defines)
      (Outcome.done.inj x.eq_answer_of_done) hd
  imports := by
    rintro f hf files ⟨encoded, x, hd⟩
    have mem : f ∈ S.files.filter (fun g => g.path = f.path) :=
      List.mem_filter.2 ⟨hf, decide_eq_true rfl⟩
    exact mem_of_reply (List.filter_subset_self _) mem (Outcome.done.inj x.eq_answer_of_done) hd
  known := by
    rintro f hf o s x (rfl | rfl)
    · have mem : f ∈ S.files.filter (fun g => g.path = f.path) :=
        List.mem_filter.2 ⟨hf, decide_eq_true rfl⟩
      have answered : S.reply (S.files.filter fun g => g.path = f.path) = .refused s :=
        Outcome.done.inj x.eq_answer_of_done
      obtain ⟨g, rest, found⟩ := List.exists_cons_of_ne_nil (List.ne_nil_of_mem mem)
      rw [found] at answered
      cases answered
    · rcases x.eq_answer with h | h | ⟨what, h⟩ <;> cases h

/-! Lookups at a shelf -/

variable {r r' : Resolver} {batch : List FileDecl} {target file : String} {patience : Nat}

theorem reply_of_mem (mem : f ∈ found) : S.reply found = .files (found.map S.encoding) := by
  cases found with
  | nil => cases mem
  | cons g rest => rfl

theorem answer_symbol (hf : f ∈ S.files) (defines : f.Defines name) :
    S.answer (.symbol name) = .done (.files ((S.holding name).map S.encoding)) :=
  congrArg _ (reply_of_mem (mem_holding hf defines))

theorem answer_file (hf : f ∈ S.files) :
    ∃ encoded, S.answer (.file f.path) = .done (.files encoded) :=
  ⟨_, congrArg _ (reply_of_mem (List.mem_filter.2 ⟨hf, decide_eq_true rfl⟩))⟩

/-- Asking for an import of the shelf brings files, whatever is made of them. -/
theorem importing_hears {o : Outcome ResolveError (List FileDecl)} (hf : f ∈ S.files)
    (hc : r.transport.connection ≠ .closed) (x : Importing S.service target file f.path r o r') :
    r'.transport.connection ≠ .closed ∧ r'.transport.history.EndsWithFiles ∧
      o ≠ .failed (.transport .closed) := by
  obtain ⟨encoded, answered⟩ := answer_file hf
  have heard : ∀ {o r₁}, Fetching S.service r (.file f.path) o r₁ → o = .done encoded ∧
      r₁.transport.connection ≠ .closed ∧ r₁.transport.history.EndsWithFiles := by
    intro o r₁ x
    obtain ⟨done, heard, _⟩ := x.replied hc answered nofun
    exact ⟨done, heard.not_closed, heard.endsWithFiles⟩
  cases x with
  | received encoded files r₁ x hd mem =>
    rw [foldl_remember]
    exact ⟨(heard x).2.1, (heard x).2.2, nofun⟩
  | absent encoded files r₁ x hd mem =>
    rw [foldl_remember]
    exact ⟨(heard x).2.1, (heard x).2.2, nofun⟩
  | undecodable encoded e r₁ x hd => exact ⟨(heard x).2.1, (heard x).2.2, nofun⟩
  | unknown s r₁ x code => cases (heard x).1
  | failed e r₁ x code => cases (heard x).1
  | dropped r₁ x => cases (heard x).1

theorem completing_hears {o : Outcome ResolveError (List FileDecl)}
    (x : Completing S.service target patience r batch o r') (kept : S.Kept S.service r)
    (hb : batch ⊆ S.files) (hc : r.transport.connection ≠ .closed)
    (ends : r.transport.history.EndsWithFiles) :
    r'.transport.history.EndsWithFiles ∧ o ≠ .failed (.transport .closed) := by
  induction x with
  | closed patience r batch none => exact ⟨ends, nofun⟩
  | remembered patience r r' batch o file dependency f first found rest ih =>
    have hf : f ∈ S.files := kept.fetched S.served found
    exact ih kept (List.append_subset.2 ⟨hb, by simpa using hf⟩) hc ends
  | unavailable patience r batch file dependency s first new known => exact ⟨ends, nofun⟩
  | givenUp r batch file dependency first forgot =>
    exact ⟨(Transport.history_reset r.transport).symm ▸ ends, nofun⟩
  | received patience r r₁ r' batch files o file dependency first forgot x rest ih =>
    obtain ⟨⟨f, hf, rfl⟩, _⟩ := Catalog.missed hb first
    obtain ⟨hc', ends', _⟩ := importing_hears hf hc x
    have sent := (x.sendsAll kept.traced.reached).sends
    have hb' : batch ++ files ⊆ S.files :=
      List.append_subset.2 ⟨hb, fun g hg => S.served.only g (sent g hg)⟩
    exact ih (kept.steps S.served (x.steps kept.traced.reached)) hb' hc' ends'
  | failed patience r r₁ batch e file dependency first forgot x =>
    obtain ⟨⟨f, hf, rfl⟩, _⟩ := Catalog.missed hb first
    exact (importing_hears hf hc x).2
  | dropped patience r r₁ batch file dependency first forgot x =>
    obtain ⟨⟨f, hf, rfl⟩, _⟩ := Catalog.missed hb first
    exact (importing_hears hf hc x).2

/-- No query fails in the lookup of a name that is on the shelf, unless the transport is closed. -/
theorem undisturbed (patience : Nat) {o : Outcome ResolveError Descriptor}
    (kept : S.Kept S.service r)
    (hf : f ∈ S.files) (defines : f.Defines name) (hc : r.transport.connection ≠ .closed)
    (h : r.find S.service patience name = (o, r')) : Catalog.Undisturbed r r' o := by
  have heard : ∀ {o r₁}, Fetching S.service r (.symbol name) o r₁ →
      o = .done ((S.holding name).map S.encoding) ∧
      r₁.transport.connection ≠ .closed ∧ r₁.transport.history.EndsWithFiles := by
    intro o r₁ x
    obtain ⟨done, heard, _⟩ := x.replied hc (answer_symbol hf defines) nofun
    exact ⟨done, heard.not_closed, heard.endsWithFiles⟩
  have rest : ∀ {encoded batch o r₁ r₂}, Fetching S.service r (.symbol name) (.done encoded) r₁ →
      decodeFiles encoded = .ok batch → Completing S.service name patience r₁ batch o r₂ →
      r₂.transport.history.EndsWithFiles ∧ o ≠ .failed (.transport .closed) := by
    intro encoded batch o r₁ r₂ x hd y
    obtain ⟨_, hc', ends⟩ := heard x
    have sent := (x.sendsAll kept.traced.reached hd).sends
    exact completing_hears y (kept.step S.served x.step) (fun g hg => S.served.only g (sent g hg))
      hc' ends
  have x := lookup_looking S.service patience r (·.find? name) (.symbol name) name
    (.unknownSymbol name)
  rw [← Resolver.find, h] at x
  cases x with
  | cached d known => exact ⟨nofun, .inl rfl⟩
  | unknown s r₁ new x code => cases (heard x).1
  | failed e r₁ new x code => cases (heard x).1
  | dropped r₁ new x => cases (heard x).1
  | undecodable encoded e r₁ new x hd => exact ⟨nofun, .inr (heard x).2.2⟩
  | incomplete encoded batch e r₁ r₂ new x hd y =>
    refine ⟨?_, .inr (rest x hd y).1⟩
    rintro ⟨⟩
    exact (rest x hd y).2 rfl
  | givenUp encoded batch r₁ r₂ new x hd y => exact ⟨nofun, .inr (rest x hd y).1⟩
  | refused encoded batch closed e r₁ r₂ new x hd y hi => exact ⟨nofun, .inr (rest x hd y).1⟩
  | answered encoded batch closed cache n d r₁ r₂ new x hd y hi found =>
    exact ⟨nofun, .inr (rest x hd y).1⟩
  | absent encoded batch closed cache n r₁ r₂ new x hd y hi missing =>
    exact ⟨nofun, .inr (rest x hd y).1⟩

/-- The lookup of a name whose file needs no further imports: the file is cached, and then the cache
is asked. -/
theorem find_of_closed (patience : Nat) (kept : S.Kept S.service r) (hf : f ∈ S.files)
    (defines : f.Defines name) (hc : r.transport.connection ≠ .closed)
    (new : r.cache.find? name = none)
    (complete : r.cache.missing (S.holding name) = []) :
    ∃ r', r.find S.service patience name =
        ((match (r.cache.adding .asGiven (S.holding name)).find? name with
          | some d => .done d
          | none => .failed (.unknownSymbol name none)), r') ∧
      r'.cache = r.cache.adding .asGiven (S.holding name) ∧ r'.transport.connection ≠ .closed := by
  obtain ⟨n, cache, hi⟩ := Catalog.insert_ok .asGiven kept.built kept.cached holding_subset complete
  have x := fetch_fetching S.service r (.symbol name)
  rcases hx : r.fetch S.service (.symbol name) with ⟨o, r₁⟩
  rw [hx] at x
  obtain ⟨rfl, heard, same⟩ := x.replied hc (answer_symbol hf defines) nofun
  have cached : r₁.cache = r.cache := (congrArg Resolver.cache same :)
  refine ⟨r₁.withCache cache, ?_, (Cache.adding_eq hi).symm, heard.not_closed⟩
  rw [Cache.adding_eq hi]
  rw [← cached] at complete hi
  have linking : S.service.linking r₁.transport.history = .asGiven := rfl
  unfold Resolver.find lookup
  dsimp only
  rw [new, hx]
  dsimp only
  rw [register, decodeFiles_encoding holding_subset]
  dsimp only
  rw [complete_of_closed complete, Ended.andThen_done, Resolver.insert, linking, hi,
    Ended.andThen_done]
  cases cache.find? name with
  | none => rfl
  | some d => rfl

end Shelf

/-! Shelves from bytes -/

/-- The file that some bytes encode. -/
def decoded (b : Bytes) : FileDecl := (FileDecl.decode b).toOption.getD default

/-- Encoded files that make a shelf. -/
structure Shelvable (encoded : List Bytes) : Prop where
  readable : ∀ b ∈ encoded, (FileDecl.decode b).toOption.isSome
  sane : ∀ b ∈ encoded, (decoded b).name ≠ none ∧ (decoded b).imports.Nodup
  distinct : ((encoded.map decoded).map (·.path)).Nodup
  closed : Closed (encoded.map decoded)
  acyclic : cycle? (encoded.map decoded) = none
  links : ∀ order ∈ orders (encoded.map decoded), ∀ n ∈ List.range (order.length + 1),
    Closed (order.take n) → Closed order → linkable (order.take n) (order.drop n)

instance (encoded : List Bytes) : Decidable (Shelvable encoded) :=
  decidable_of_iff
    ((∀ b ∈ encoded, (FileDecl.decode b).toOption.isSome) ∧
      (∀ b ∈ encoded, (decoded b).name ≠ none ∧ (decoded b).imports.Nodup) ∧
      ((encoded.map decoded).map (·.path)).Nodup ∧ Closed (encoded.map decoded) ∧
      cycle? (encoded.map decoded) = none ∧
      ∀ order ∈ orders (encoded.map decoded), ∀ n ∈ List.range (order.length + 1),
        Closed (order.take n) → Closed order → linkable (order.take n) (order.drop n))
    ⟨fun ⟨readable, sane, distinct, closed, acyclic, links⟩ =>
      ⟨readable, sane, distinct, closed, acyclic, links⟩,
      fun h => ⟨h.readable, h.sane, h.distinct, h.closed, h.acyclic, h.links⟩⟩

/-- The bytes that encode a file. -/
def encodingIn (encoded : List Bytes) (f : FileDecl) : Bytes :=
  (encoded.find? fun b => (decoded b).path = f.path).getD []

theorem encodingIn_decoded {encoded : List Bytes} {b : Bytes}
    (distinct : ((encoded.map decoded).map (·.path)).Nodup) (hb : b ∈ encoded) :
    encodingIn encoded (decoded b) = b := by
  unfold encodingIn
  cases found : encoded.find? fun a => (decoded a).path = (decoded b).path with
  | none => exact absurd (decide_eq_true rfl) (List.find?_eq_none.1 found b hb)
  | some a =>
    have ha : a ∈ encoded := List.mem_of_find?_eq_some found
    have same : (decoded a).path = (decoded b).path := by simpa using List.find?_some found
    rw [List.map_map] at distinct
    exact List.inj_on_of_nodup_map distinct ha hb same

def Shelf.ofEncoded (encoded : List Bytes) (h : Shelvable encoded) : Shelf where
  files := encoded.map decoded
  named := List.forall_mem_map.2 fun b hb => (h.sane b hb).1
  distinct := h.distinct
  closed := h.closed
  acyclic := acyclic_of_cycle? h.distinct h.acyclic
  once := List.forall_mem_map.2 fun b hb => (h.sane b hb).2
  links p fresh _ := links_of_orders h.links p fresh
  encoding := encodingIn encoded
  decodes := by
    intro f hf
    obtain ⟨b, hb, rfl⟩ := List.mem_map.1 hf
    obtain ⟨f, decodes⟩ := Option.isSome_iff_exists.1 (h.readable b hb)
    rw [encodingIn_decoded h.distinct hb, decoded, decodes, Option.getD_some]
    exact Success.eq_ok_of_toOption decodes

end DynamicRpc.Reflection
