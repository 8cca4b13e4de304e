import DynamicRpc.Proofs.Reflection.ImportCycles
import DynamicRpc.Proofs.Reflection.WholeBatches

/-!
Why a completed batch is never refused for an import. A batch is completed as it came, and then it
is inserted without the files whose names are cached or repeated; its imports are looked for once
more among what is left. Nothing is missed by then: for each file that is left out there is one of
its name in the cache, or the first one of its name is kept.
-/
namespace DynamicRpc.Reflection

open Schema Resolver

/-- A file with this name is at hand when a batch is inserted: one is cached, or the first one of
the batch is among its new files. -/
def Cache.Provides (cache : Cache) (o : LinkOrder) (batch : List FileDecl) (path : String) : Prop :=
  cache.contains path ∨ ∃ f ∈ cache.fresh o batch, batch.find? (·.path = path) = some f

/-- What makes up for the files of a batch that an insertion leaves out. -/
structure Cache.Supplied (cache : Cache) (o : LinkOrder) (batch : List FileDecl) : Prop where
  files : ∀ f ∈ batch, cache.Provides o batch f.path
  imports : ∀ f ∈ cache.fresh o batch, ∀ d ∈ f.imports, cache.Provides o batch d
  missing : cache.missing (cache.fresh o batch) = []
  accepted : ∀ file dependency after,
    cache.insert o batch ≠ (.error (.missingImport file dependency), after)

/-- An error that tells of an import that an insertion did not find. -/
inductive ResolveError.LacksImport : ResolveError → Prop where
  | mk (target file dependency : String) :
    LacksImport (.malformed target (.refused (.missingImport file dependency)))

namespace Cache

variable {cache : Cache} {o : LinkOrder} {batch : List FileDecl} {path : String}

theorem provides_of_mem (mem : path ∈ batch.map (·.path)) : cache.Provides o batch path := by
  by_cases known : cache.contains path
  · exact .inl known
  · have absent : path ∉ cache.decls.map (·.path) := fun cached => known (contains_iff.2 cached)
    obtain ⟨f, hf, rfl⟩ := List.mem_map.1 ((mem_paths_fresh (o := o)).2 ⟨mem, absent⟩)
    have found : ((cache.fresh o batch).find? (·.path = f.path)).isSome :=
      List.find?_isSome.2 ⟨f, hf, by simp⟩
    obtain ⟨g, hg⟩ := Option.isSome_iff_exists.1 found
    exact .inr ⟨g, List.mem_of_find?_eq_some hg, (find?_fresh absent).symm.trans hg⟩

/-- What makes a batch complete makes it fit to be inserted. -/
theorem supplied_of_missing (none : cache.missing batch = []) : cache.Supplied o batch where
  files f hf := provides_of_mem (List.mem_map_of_mem hf)
  imports f hf d hd := by
    obtain ⟨mem, new⟩ := mem_fresh hf
    have known := missing_eq_nil.1 none f mem new d hd
    rw [List.map_append, List.mem_append] at known
    exact known.elim (fun cached => .inl (contains_iff.2 cached)) provides_of_mem
  missing := missing_fresh none
  accepted file dependency after refused := by
    cases insertion_of_insert refused with
    | missingImport named file dependency mem =>
      rw [missing_fresh none] at mem
      exact List.not_mem_nil mem

end Cache

variable {c : Connector} {r r' : Resolver} {q : Query} {target file dependency : String}
  {patience : Nat} {batch : List FileDecl} {e : ResolveError}

/-! What goes wrong before an insertion is something else -/

theorem Fetching.not_lacksImport (x : Fetching c r q (.failed e) r') : ¬ e.LacksImport := by
  cases x <;> nofun

theorem Importing.not_lacksImport (x : Importing c target file dependency r (.failed e) r') :
    ¬ e.LacksImport := by
  cases x with
  | failed e r₁ x code => exact x.not_lacksImport
  | _ => nofun

theorem Completing.not_lacksImport {o : Outcome ResolveError (List FileDecl)}
    (x : Completing c target patience r batch o r') (failed : o = .failed e) :
    ¬ e.LacksImport := by
  induction x with
  | remembered patience r r' batch o file dependency f first found rest ih => exact ih failed
  | received patience r r₁ r' batch files o file dependency first forgot x rest ih =>
    exact ih failed
  | failed patience r r₁ batch e file dependency first forgot x =>
    cases failed
    exact x.not_lacksImport
  | unavailable patience r batch file dependency s first new known =>
    cases failed
    nofun
  | _ => cases failed

/-- The batch and the cache of a completion are those of the insertion after it. -/
theorem Completing.supplied {closed : List FileDecl}
    (x : Completing c target patience r batch (.done closed) r') :
    r'.cache.missing closed = [] ∧ ∀ o, r'.cache.Supplied o closed := by
  have missing : r'.cache.missing closed = [] := by
    rw [x.cache]
    exact x.closed_of_done rfl
  exact ⟨missing, fun o => Cache.supplied_of_missing missing⟩

theorem Cache.Supplied.not_lacksImport {cache after : Cache} {order : LinkOrder}
    (supplied : cache.Supplied order batch) {fault : InsertError}
    (refused : cache.insert order batch = (.error fault, after)) :
    ¬ (ResolveError.malformed target (.refused fault)).LacksImport := by
  rintro ⟨_, file, dependency⟩
  exact supplied.accepted file dependency after refused

namespace Resolver

/-! Lookups -/

theorem Looking.not_lacksImport {α : Type} {answer? : Cache → Option α}
    {unknown : Option Rpc.Status → ResolveError}
    (x : Looking c patience r answer? q target unknown (.failed e) r')
    (other : ∀ s, ¬ (unknown s).LacksImport) : ¬ e.LacksImport := by
  cases x with
  | unknown s r₁ new x code => exact other _
  | failed e r₁ new x code => exact x.not_lacksImport
  | undecodable encoded e r₁ new x hd => nofun
  | incomplete encoded batch e r₁ r₂ new x hd y => exact y.not_lacksImport rfl
  | refused encoded batch closed fault r₁ r₂ new x hd y hi =>
    exact (y.supplied.2 _).not_lacksImport hi
  | absent encoded batch closed cache n r₁ r₂ new x hd y hi missing => exact other _

theorem register_not_lacksImport {encoded : List Bytes}
    (failed : (r.register c target patience encoded).1 = .failed e) : ¬ e.LacksImport := by
  unfold register at failed
  split at failed
  next =>
    cases failed
    nofun
  next batch decoded =>
    have x := complete_completing c target patience r batch
    rcases hx : r.complete c target patience batch with ⟨o, r₁⟩
    rw [hx] at x failed
    cases o with
    | dropped => cases failed
    | failed e =>
      cases failed
      exact x.not_lacksImport rfl
    | done closed =>
      rw [Ended.andThen_done, insert] at failed
      split at failed
      next fault cache refused =>
        cases failed
        exact (x.supplied.2 _).not_lacksImport refused
      next => cases failed

theorem lookup_not_lacksImport {α : Type} {answer? : Cache → Option α}
    {unknown : Option Rpc.Status → ResolveError} (other : ∀ s, ¬ (unknown s).LacksImport)
    (failed : (r.lookup c patience answer? q target unknown).1 = .failed e) : ¬ e.LacksImport := by
  have x := lookup_looking c patience r answer? q target unknown
  rw [failed] at x
  exact Looking.not_lacksImport x other

theorem find_not_lacksImport {name : String}
    (failed : (r.find c patience name).1 = .failed e) : ¬ e.LacksImport := by
  refine lookup_not_lacksImport ?_ failed
  exact fun s => nofun

theorem findMessage_not_lacksImport {name : String}
    (failed : (r.findMessage c patience name).1 = .failed e) : ¬ e.LacksImport := by
  unfold findMessage at failed
  rcases hx : r.find c patience name with ⟨o, r₁⟩
  rw [hx] at failed
  cases o with
  | done d =>
    cases d <;> cases failed
    all_goals nofun
  | failed e =>
    cases failed
    exact find_not_lacksImport (congrArg Prod.fst hx)
  | dropped => cases failed

theorem findExtension_not_lacksImport {message : String} {number : Nat}
    (failed : (r.findExtension c patience message number).1 = .failed e) : ¬ e.LacksImport := by
  unfold findExtension at failed
  split at failed
  next =>
    refine lookup_not_lacksImport ?_ failed
    exact fun s => nofun
  next =>
    split at failed <;> cases failed
    nofun

theorem services_not_lacksImport (failed : (r.services c).1 = .failed e) : ¬ e.LacksImport := by
  unfold services ask at failed
  rcases h : r.transport.send c .services with ⟨o, t⟩
  rw [h] at failed
  cases o with
  | done reply => cases reply <;> cases failed <;> nofun
  | failed e => cases e <;> cases failed <;> nofun
  | dropped => cases failed

theorem result_not_lacksImport {op : Operation}
    (failed : (r.result c op).ending = .failed e) : ¬ e.LacksImport := by
  have ended : ∀ {α : Type} {o : Outcome ResolveError α}, o.ending = .failed e → o = .failed e := by
    intro α o h
    cases o <;> cases h
    rfl
  cases op with
  | find patience name => exact find_not_lacksImport (ended failed)
  | findMessage patience name => exact findMessage_not_lacksImport (ended failed)
  | findMessageByUrl patience url => exact findMessage_not_lacksImport (ended failed)
  | findExtension patience message number => exact findExtension_not_lacksImport (ended failed)
  | services => exact services_not_lacksImport (ended failed)
  | reset => cases failed
  | close => cases failed

/-- A batch that misses nothing can be inserted as far as imports go, in whatever order it is linked
and whatever it repeats or brings along of what is cached: for every name in it, and for every one
that a new file imports, there is a cached file or the first file of that name in the batch, which
is kept. So whatever the resolver and the service, a batch that was completed without an error is
not refused for a missing import, and no operation ever ends with that error. -/
theorem completed_batches_are_supplied (c : Connector) (r : Resolver) :
    (∀ (cache : Cache) o batch, cache.missing batch = [] → cache.Supplied o batch) ∧
    (∀ target patience batch closed r',
      r.complete c target patience batch = (.done closed, r') →
        r'.cache.missing closed = [] ∧ ∀ o, r'.cache.Supplied o closed) ∧
    (∀ target patience encoded e,
      (r.register c target patience encoded).1 = .failed e → ¬ e.LacksImport) ∧
    ∀ op e, (r.result c op).ending = .failed e → ¬ e.LacksImport := by
  refine ⟨fun cache o batch none => Cache.supplied_of_missing none, ?_, ?_, ?_⟩
  · intro target patience batch closed r' h
    have x := complete_completing c target patience r batch
    rw [h] at x
    exact x.supplied
  · exact fun target patience encoded e failed => register_not_lacksImport failed
  · exact fun op e failed => result_not_lacksImport failed

/-! A batch that repeats itself -/

open Cache

/-- The file `side.proto`, which imports nothing. -/
def sideFile : Bytes :=
  [10, 10, 115, 105, 100, 101, 46, 112, 114, 111, 116, 111, 98, 6, 112, 114, 111, 116, 111, 51]

/-- A service that has `side.proto`. -/
def sideService : Connector :=
  .replying fun
    | .file "side.proto" => .done (.files [sideFile])
    | _ => .done (.refused ⟨.notFound, ""⟩)

/-- A resolver that has `base.proto`. -/
def stocked : Resolver :=
  { ofChoice none with cache := Cache.empty.adding .asGiven [bareFile "base.proto" []] }

/-- Two versions of `item.proto` around another version of `base.proto`, of which the import is not
to be had. -/
def contradictory : List FileDecl :=
  [bareFile "item.proto" ["base.proto", "side.proto"], bareFile "base.proto" ["gone.proto"],
    bareFile "item.proto" ["side.proto"]]

/-- The import of the first version is fetched. One version of each new file is kept then, and the
batch is inserted. -/
theorem contradictory_batch_is_supplied : ∃ r closed,
    stocked.complete sideService "p.Item" 1 contradictory = (.done closed, r) ∧
    (r.cache.fresh .asGiven closed).map (fun f => (f.path, f.imports)) =
      [("item.proto", ["base.proto", "side.proto"]), ("side.proto", [])] ∧
    (∀ o, r.cache.Supplied o closed) ∧
    (r.cache.insert .asGiven closed).1.toOption.isSome := by
  have first : (stocked.cache.missing contradictory).head? = some ("item.proto", "side.proto") := by
    decide +kernel
  obtain ⟨r, imported, same⟩ : ∃ r,
      fetchImport sideService "p.Item" "item.proto" "side.proto" stocked =
        (.done [bareFile "side.proto" []], r) ∧ r.cache = stocked.cache := ⟨_, rfl, rfl⟩
  have closed : r.cache.missing (contradictory ++ [bareFile "side.proto" []]) = [] := by
    rw [same]
    decide +kernel
  have completed : stocked.complete sideService "p.Item" 1 contradictory =
      (.done (contradictory ++ [bareFile "side.proto" []]), r) := by
    rw [complete_eq, first]
    change (fetchImport sideService "p.Item" "item.proto" "side.proto" stocked).andThen _ = _
    rw [imported]
    exact complete_of_closed closed
  obtain ⟨_, completions, _⟩ := completed_batches_are_supplied sideService stocked
  refine ⟨r, _, completed, ?_, (completions _ _ _ _ _ completed).2, ?_⟩
  all_goals
    rw [same]
    decide +kernel

end Resolver

end DynamicRpc.Reflection
