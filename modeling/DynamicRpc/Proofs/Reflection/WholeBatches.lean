import DynamicRpc.Proofs.Reflection.AllOrNothing
import DynamicRpc.Proofs.Reflection.Received

/-!
What a lookup leaves behind. One that comes to nothing over the service, or is given up, leaves the
cache as it was, wherever it ended; any other takes one batch that is closed under imports, or found
all that it needed. What came for imports in between is not lost in either case: later lookups go on
with it.
-/
namespace DynamicRpc.Reflection

open Schema Resolver

/-- Errors that are the service's: what it says, how the stream ends, or what is wrong with the
descriptors that it sent. -/
inductive ResolveError.OfService : ResolveError → Prop where
  | remote (s : Rpc.Status) : OfService (.remote s)
  | transport (e : QueryError) : OfService (.transport e)
  | malformed (target : String) (fault : DescriptorFault) : OfService (.malformed target fault)
  | unknownSymbol (name : String) (s : Rpc.Status) : OfService (.unknownSymbol name (some s))
  | unknownExtension (message : String) (number : Nat) (s : Rpc.Status) :
    OfService (.unknownExtension message number (some s))

/-- A lookup comes to nothing: it fails over the service, or is given up. -/
inductive Outcome.Fruitless : Outcome ResolveError Unit → Prop where
  | failed (e : ResolveError) (he : e.OfService) : Fruitless (.failed e)
  | dropped : Fruitless .dropped

/-- What a lookup may do to a cache: nothing if it comes to nothing, and otherwise take the new
files of one batch, with which nothing that they import is missing. -/
structure Takes (before after : Cache) (o : Outcome ResolveError Unit) : Prop where
  nothing : o.Fruitless → after = before
  batch : ¬ o.Fruitless → ∃ batch new, before.missing batch = [] ∧ before.Took batch new after

variable {c : Connector} {r r' : Resolver} {q : Query} {target file dependency : String}
  {patience : Nat} {batch : List FileDecl} {before after : Cache}

/-! Up to the insertion -/

theorem Fetching.cache {o : Outcome ResolveError (List Bytes)} (x : Fetching c r q o r') :
    r'.cache = r.cache := by
  cases x <;> rfl

theorem Importing.cache {o : Outcome ResolveError (List FileDecl)}
    (x : Importing c target file dependency r o r') : r'.cache = r.cache := by
  obtain ⟨o', es, keeps⟩ := x.keeps
  exact keeps.cache

/-- However completing a batch ends, the cache stays as it is. -/
theorem Completing.cache {o : Outcome ResolveError (List FileDecl)}
    (x : Completing c target patience r batch o r') : r'.cache = r.cache := by
  induction x with
  | closed patience r batch none => rfl
  | remembered patience r r' batch o file dependency f first found rest ih => exact ih
  | unavailable patience r batch file dependency s first new known => rfl
  | givenUp r batch file dependency first forgot => rfl
  | received patience r r₁ r' batch files o file dependency first forgot x rest ih =>
    exact ih.trans x.cache
  | failed patience r r₁ batch e file dependency first forgot x => exact x.cache
  | dropped patience r r₁ batch file dependency first forgot x => exact x.cache

/-- A batch that is completed misses nothing. -/
theorem Completing.closed_of_done {o : Outcome ResolveError (List FileDecl)}
    (x : Completing c target patience r batch o r') {closed : List FileDecl}
    (done : o = .done closed) : r.cache.missing closed = [] := by
  induction x with
  | closed patience r batch none =>
    cases done
    exact none
  | remembered patience r r' batch o file dependency f first found rest ih => exact ih done
  | received patience r r₁ r' batch files o file dependency first forgot x rest ih =>
    rw [← x.cache]
    exact ih done
  | _ => cases done

/-! Lookups -/

theorem took_nil (cache : Cache) : cache.Took [] [] cache where
  distinct := .nil
  mem path := by simp
  paths := (List.append_nil _).symm
  first := nofun
  kept := List.prefix_refl _
  known _ _ := rfl
  indexed := id

theorem not_fruitless_done : ¬ Outcome.Fruitless (.done ()) := nofun

/-- The cache knows the answer, or the lookup stops before an insertion. -/
theorem takes_nothing {o : Outcome ResolveError Unit} (same : after = before) :
    Takes before after o where
  nothing _ := same
  batch _ := ⟨[], [], rfl, same ▸ took_nil before⟩

theorem takes_batch {order : LinkOrder} {o : Outcome ResolveError Unit} {n : Nat}
    (fruitful : ¬ o.Fruitless) (closed : before.missing batch = [])
    (h : before.insert order batch = (.ok n, after)) :
    Takes before after o where
  nothing fruitless := absurd fruitless fruitful
  batch _ := ⟨batch, _, closed, Cache.took_insert h⟩

/-- A batch that was completed since a first answer came, and then inserted. -/
theorem takes_completed {o : Outcome ResolveError Unit} {encoded : List Bytes}
    {order : LinkOrder} {closed : List FileDecl} {n : Nat} {r₁ r₂ : Resolver}
    (x : Fetching c r q (.done encoded) r₁)
    (y : Completing c target patience r₁ batch (.done closed) r₂)
    (hi : r₂.cache.insert order closed = (.ok n, after)) (fruitful : ¬ o.Fruitless) :
    Takes r.cache after o := by
  have missing := y.closed_of_done rfl
  rw [x.cache] at missing
  rw [y.cache, x.cache] at hi
  exact takes_batch fruitful missing hi

theorem Looking.takes {α : Type} {answer? : Cache → Option α}
    {unknown : Option Rpc.Status → ResolveError} {o : Outcome ResolveError α}
    (x : Looking c patience r answer? q target unknown o r')
    (own : ¬ (unknown none).OfService) : Takes r.cache r'.cache o.ending := by
  cases x with
  | cached a known => exact takes_nothing rfl
  | unknown s r₁ new x code => exact takes_nothing x.cache
  | failed e r₁ new x code => exact takes_nothing x.cache
  | dropped r₁ new x => exact takes_nothing x.cache
  | undecodable encoded e r₁ new x hd => exact takes_nothing x.cache
  | incomplete encoded batch e r₁ r₂ new x hd y => exact takes_nothing (y.cache.trans x.cache)
  | givenUp encoded batch r₁ r₂ new x hd y => exact takes_nothing (y.cache.trans x.cache)
  | refused encoded batch closed e r₁ r₂ new x hd y hi =>
    exact takes_nothing (y.cache.trans x.cache)
  | answered encoded batch closed cache n a r₁ r₂ new x hd y hi found =>
    exact takes_completed x y hi not_fruitless_done
  | absent encoded batch closed cache n r₁ r₂ new x hd y hi missing =>
    refine takes_completed x y hi ?_
    rintro ⟨_, ofService⟩
    exact own ofService

theorem find_takes (c : Connector) (patience : Nat) (r : Resolver) (name : String) :
    Takes r.cache (r.find c patience name).2.cache (r.find c patience name).1.ending :=
  (lookup_looking c patience r _ _ _ _).takes nofun

/-- That a name stands for something else than a message is not the service's fault. -/
theorem findMessage_takes (c : Connector) (patience : Nat) (r : Resolver) (name : String) :
    Takes r.cache (r.findMessage c patience name).2.cache
      (r.findMessage c patience name).1.ending := by
  have found := find_takes c patience r name
  rw [findMessage_snd]
  unfold findMessage
  rcases hx : r.find c patience name with ⟨o, r₁⟩
  rw [hx] at found
  cases o with
  | failed e => exact found
  | dropped => exact found
  | done d =>
    have grown := found.batch not_fruitless_done
    refine ⟨fun fruitless => ?_, fun _ => grown⟩
    cases d <;> rcases fruitless with ⟨_, ⟨⟩⟩

theorem findExtension_takes (c : Connector) (patience : Nat) (r : Resolver) (message : String)
    (number : Nat) : Takes r.cache (r.findExtension c patience message number).2.cache
      (r.findExtension c patience message number).1.ending := by
  unfold findExtension
  split
  next => exact (lookup_looking c patience r _ _ _ _).takes nofun
  next => split <;> exact takes_nothing rfl

namespace Lookup

theorem takes (c : Connector) (patience : Nat) (r : Resolver) (l : Lookup) :
    Takes r.cache (r.perform c (l.operation patience)).cache
      (r.result c (l.operation patience)).ending := by
  cases l with
  | find name => exact find_takes c patience r name
  | findMessage name => exact findMessage_takes c patience r name
  | findMessageByUrl url => exact findMessage_takes c patience r _
  | findExtension message number => exact findExtension_takes c patience r message number

/-- A lookup that fails over the service or is given up, wherever that is, leaves the cache as it
was; any other takes exactly the new files of one batch that misses none of its imports, or of
none. And from any moment on, whatever lookups came to, until the next reset: no file is asked for
after it came in an answer to a query for a file, and every lookup of which the batch misses such a
file goes on with the file, as it came last, and the same resolver. -/
theorem lookups_take_whole_batches (c : Connector) (patience : Nat) (r : Resolver) (l : Lookup) :
    Takes r.cache (r.perform c (l.operation patience)).cache
      (r.result c (l.operation patience)).ending ∧
    ∀ ops, .reset ∉ ops →
      (∃ h, (run c r (l.operation patience :: ops)).transport.history = r.transport.history ++ h ∧
        ∀ path, History.Spares h path) ∧
      ∀ (l' : Lookup) patience' a b,
        l'.Starts c patience' (run c r (l.operation patience :: ops)) a →
        Stage.Later c l'.subject a b →
        a.completed c l'.subject = b.completed c l'.subject ∧
        ∃ h, b.resolver.transport.history = r.transport.history ++ h ∧
          ∀ file path f, b.resolver.Misses b.batch file path →
            History.lastReceived? h path = some f →
            b.completed c l'.subject = (b.add f).completed c l'.subject := by
  refine ⟨l.takes c patience r, fun ops kept => ?_⟩
  have moves : Moves c r (run c r (l.operation patience :: ops)) := by
    refine run_moves ?_
    rw [List.mem_cons, not_or]
    exact ⟨by cases l <;> nofun, kept⟩
  obtain ⟨h, holds⟩ := moves.holds (holds_now r)
  refine ⟨⟨h, holds.grown, holds.spares⟩, ?_⟩
  intro l' patience' a b starts later
  obtain ⟨h', holds'⟩ := Moves.holds (starts.moves.trans later.moves) holds
  refine ⟨later.completed_eq, h', holds'.grown, fun file path f first came => ?_⟩
  exact (Stage.next_of_holds holds' first came).completed_eq

/-! An import that nobody asked for -/

open Catalog

/-- The file `lost.proto`, which imports `gone.proto`. -/
def lostFile : Bytes :=
  [10, 10, 108, 111, 115, 116, 46, 112, 114, 111, 116, 111, 26, 10, 103, 111, 110, 101, 46, 112,
  114, 111, 116, 111, 98, 6, 112, 114, 111, 116, 111, 51]

/-- A service that sends `base.proto` whatever file it is asked for. -/
def straying : Connector :=
  .replying fun
    | .symbol "shop.Item" => .done (.files [itemFile])
    | .symbol _ => .done (.files [lostFile])
    | _ => .done (.files [baseFile])

/-- A lookup fails as it does not get `gone.proto`, and caches nothing; but `base.proto` has come
then, so the next lookup has it without another question. -/
theorem stray_import_is_used :
    (perform straying (ofChoice none) (.find 1 "shop.Lost")).cache = .empty ∧
    ∃ r₁, fetch straying (perform straying (ofChoice none) (.find 1 "shop.Lost"))
        (.symbol "shop.Item") = (.done [itemFile], r₁) ∧
      r₁.complete straying "shop.Item" 0 [decoded itemFile] =
        (.done [decoded itemFile, decoded baseFile], r₁) := by
  have lost : (fetch straying (ofChoice none) (.symbol "shop.Lost")).2.Misses [decoded lostFile]
      "lost.proto" "gone.proto" := by
    show (Cache.empty.missing [decoded lostFile]).head? = _
    decide +kernel
  have failed : Resolver.find straying 1 (ofChoice none) "shop.Lost" = (.failed _, _) :=
    find_of_failed rfl rfl rfl lost ⟨rfl, rfl⟩ rfl
  have left : perform straying (ofChoice none) (.find 1 "shop.Lost") = _ :=
    congrArg Prod.snd failed
  obtain ⟨takes, later⟩ := lookups_take_whole_batches straying 1 (ofChoice none) (.find "shop.Lost")
  have nothing : (result straying (ofChoice none) (.find 1 "shop.Lost")).ending.Fruitless := by
    rw [result, failed]
    exact .failed _ (.malformed _ _)
  refine ⟨takes.nothing nothing, ?_⟩
  rw [left]
  refine ⟨_, rfl, ?_⟩
  have start := (later [] nofun).2 (.find "shop.Item") 0 ⟨0, _, [decoded itemFile]⟩ _
    (by
      rw [run, List.foldl_cons, List.foldl_nil, Lookup.operation, left]
      exact .mk [itemFile] _ _ rfl rfl) .refl
  obtain ⟨_, h, grown, used⟩ := start
  have came : History.lastReceived? h "base.proto" = some (decoded baseFile) := by
    have whole : h = _ := grown.symm
    rw [whole]
    rfl
  have misses : (Cache.empty.missing [decoded itemFile]).head? =
      some ("item.proto", "base.proto") := by decide +kernel
  have closed : Cache.empty.missing [decoded itemFile, decoded baseFile] = [] := by decide +kernel
  exact (used "item.proto" "base.proto" _ misses came).trans (complete_of_closed closed)

end Lookup

end DynamicRpc.Reflection
