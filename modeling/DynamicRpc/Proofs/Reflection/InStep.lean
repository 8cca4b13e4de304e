import DynamicRpc.Proofs.Reflection.Operations
import DynamicRpc.Proofs.Reflection.Views

/-!
Two clients that go in step. Resolvers look at their services through nothing but transports, so if
the replies to both tell the same and the transports stay in some relation, the resolvers get the
same from every operation and remember the same. How a service replies does not matter for this, nor
which service it is: it is for each pair of clients to say how their transports are related.
-/
namespace DynamicRpc.Reflection

open Schema

/-- Outcomes from which a resolver learns the same. It does not tell a refusal in a reply from one
as the status of the stream. -/
def Outcome.Tells (o o' : Outcome QueryError Reply) : Prop :=
  o = o' ∨ ∃ s, o.Refuses s ∧ o'.Refuses s

/-- Clients of two services go in step: whatever they ask, they learn the same, they link it in the
same order, and their transports stay related. -/
structure InStep (c c' : Connector) (S : Transport → Transport → Prop) : Prop where
  send : ∀ {t t'} (q : Query), S t t' →
    (t.send c q).1.Tells (t'.send c' q).1 ∧ S (t.send c q).2 (t'.send c' q).2
  reset : ∀ {t t'}, S t t' → S t.reset t'.reset
  close : ∀ {t t'}, S t t' → S t.close t'.close
  linking : ∀ {t t'}, S t t' → c.linking t.history = c'.linking t'.history

namespace Resolver

/-- Resolvers that have cached and remembered the same, on transports that are related. -/
inductive Beside (S : Transport → Transport → Prop) : Resolver → Resolver → Prop where
  | mk (t t' : Transport) (cache : Cache) (fetched : List FileDecl)
    (unavailable : List (String × Rpc.Status)) (related : S t t') :
    Beside S ⟨t, cache, fetched, unavailable⟩ ⟨t', cache, fetched, unavailable⟩

variable {c c' : Connector} {S S' : Transport → Transport → Prop} {r r' : Resolver}
  {target file dependency : String} {patience : Nat} {batch : List FileDecl}

/-! What both know -/

theorem Beside.cache (b : Beside S r r') : r'.cache = r.cache := by
  cases b
  rfl

theorem Beside.fetched (b : Beside S r r') : r'.fetched = r.fetched := by
  cases b
  rfl

theorem Beside.unavailable (b : Beside S r r') : r'.unavailable = r.unavailable := by
  cases b
  rfl

theorem Beside.fetched? (b : Beside S r r') : r'.fetched? dependency = r.fetched? dependency := by
  rw [Resolver.fetched?, b.fetched, Resolver.fetched?]

theorem Beside.unavailable? (b : Beside S r r') :
    r'.unavailable? dependency = r.unavailable? dependency := by
  rw [Resolver.unavailable?, b.unavailable, Resolver.unavailable?]

theorem Beside.related (b : Beside S r r') : S r.transport r'.transport := by
  cases b
  assumption

theorem Beside.imp (b : Beside S r r') (weaker : S r.transport r'.transport →
    S' r.transport r'.transport) : Beside S' r r' := by
  cases b with
  | mk t t' cache fetched unavailable related => exact .mk _ _ _ _ _ (weaker related)

theorem Beside.onTransport (b : Beside S r r') {t t' : Transport} (related : S' t t') :
    Beside S' { r with transport := t } { r' with transport := t' } := by
  cases b
  exact .mk _ _ _ _ _ related

theorem Beside.remember_all (b : Beside S r r') (files : List FileDecl) :
    Beside S (files.foldl remember r) (files.foldl remember r') := by
  induction files generalizing r r' with
  | nil => exact b
  | cons f rest ih =>
    cases b
    exact ih (.mk _ _ _ _ _ ‹_›)

/-! Operations that are made of others -/

/-- Asking in two ways from which the same is learnt. -/
theorem Beside.ask_of_tells (b : Beside S r r') {q : Query}
    (tells : (r.transport.send c q).1.Tells (r'.transport.send c' q).1)
    (related : S' (r.transport.send c q).2 (r'.transport.send c' q).2) :
    (r.ask c q).Same (Beside S') (r'.ask c' q) := by
  unfold ask
  rcases x : r.transport.send c q with ⟨o, t⟩
  rcases y : r'.transport.send c' q with ⟨o', t'⟩
  rw [x, y] at tells related
  have next := b.onTransport related
  rcases tells with (rfl : o = o') | ⟨s, ho, ho'⟩
  · cases o with
    | done reply => cases reply <;> exact ⟨rfl, next⟩
    | failed e => cases e <;> exact ⟨rfl, next⟩
    | dropped => exact ⟨rfl, next⟩
  · rcases ho with ho | ho <;> rcases ho' with ho' | ho' <;> cases ho <;> cases ho' <;>
      exact ⟨rfl, next⟩

theorem fetch_same {q : Query} (same : (r.ask c q).Same (Beside S) (r'.ask c' q)) :
    (r.fetch c q).Same (Beside S) (r'.fetch c' q) := by
  refine same.andThen (fun _ _ b => b) fun reply r r' b => ?_
  cases reply <;> exact ⟨rfl, b⟩

theorem fetchImport_same (target file : String)
    (same : (r.fetch c (.file dependency)).Same (Beside S) (r'.fetch c' (.file dependency))) :
    (r.fetchImport c target file dependency).Same (Beside S)
      (r'.fetchImport c' target file dependency) := by
  obtain ⟨o, r₁, r₂, x, y, b⟩ := same.ends
  rw [fetchImport, fetchImport, x, y]
  cases o with
  | done encoded =>
    dsimp only
    cases decodeFiles encoded with
    | error e => exact ⟨rfl, b⟩
    | ok files =>
      dsimp only
      split
      next => exact ⟨rfl, b.remember_all files⟩
      next => exact ⟨rfl, b.remember_all files⟩
  | failed e =>
    cases e with
    | remote s =>
      dsimp only
      split
      next =>
        cases b
        exact ⟨rfl, .mk _ _ _ _ _ ‹_›⟩
      next => exact ⟨rfl, b⟩
    | _ => exact ⟨rfl, b⟩
  | dropped => exact ⟨rfl, b⟩

theorem Beside.insert_same (b : Beside S r r')
    (linking : c.linking r.transport.history = c'.linking r'.transport.history) :
    (r.insert c target batch).Same (Beside S) (r'.insert c' target batch) := by
  rw [insert, insert, ← linking]
  cases b with
  | mk t t' cache fetched unavailable related =>
    rcases cache.insert (c.linking t.history) batch with ⟨_ | n, cache'⟩
    · exact ⟨rfl, .mk _ _ _ _ _ related⟩
    · exact ⟨rfl, .mk _ _ _ _ _ related⟩

/-- Both complete a batch in the same way, and link what is complete in the same order. -/
structure CompletedSame (c c' : Connector) (S : Transport → Transport → Prop) (target : String)
    (patience : Nat) (batch : List FileDecl) (r r' : Resolver) : Prop where
  ends : (r.complete c target patience batch).Same (Beside S) (r'.complete c' target patience batch)
  linking : ∀ closed r₁ r₂, r.complete c target patience batch = (.done closed, r₁) →
    Beside S r₁ r₂ → c.linking r₁.transport.history = c'.linking r₂.transport.history

/-- After a batch is decoded, all that matters is how it is completed. -/
theorem Beside.register_same (b : Beside S r r') (encoded : List Bytes)
    (same : ∀ batch, decodeFiles encoded = .ok batch →
      CompletedSame c c' S target patience batch r r') :
    (r.register c target patience encoded).Same (Beside S)
      (r'.register c' target patience encoded) := by
  rw [register, register]
  cases hd : decodeFiles encoded with
  | error e => exact ⟨rfl, b⟩
  | ok batch =>
    obtain ⟨o, r₁, r₂, x, y, next⟩ := (same batch hd).ends.ends
    dsimp only
    rw [x, y]
    cases o with
    | done closed => exact next.insert_same ((same batch hd).linking closed r₁ r₂ x next)
    | failed e => exact ⟨rfl, next⟩
    | dropped => exact ⟨rfl, next⟩

/-- Once both have asked, a lookup is a matter of completing the batch that came. -/
theorem Beside.lookup_same {α : Type} (b : Beside S r r') (answer? : Cache → Option α) (q : Query)
    (target : String) (unknown : Option Rpc.Status → ResolveError)
    (asked : answer? r.cache = none → (r.fetch c q).Same (Beside S) (r'.fetch c' q))
    (completed : ∀ encoded r₁ r₂ batch, answer? r.cache = none →
      r.fetch c q = (.done encoded, r₁) → r'.fetch c' q = (.done encoded, r₂) → Beside S r₁ r₂ →
      decodeFiles encoded = .ok batch → CompletedSame c c' S target patience batch r₁ r₂) :
    (r.lookup c patience answer? q target unknown).Same (Beside S)
      (r'.lookup c' patience answer? q target unknown) := by
  rw [lookup, lookup, b.cache]
  cases new : answer? r.cache with
  | some a => exact ⟨rfl, b⟩
  | none =>
    obtain ⟨o, r₁, r₂, x, y, next⟩ := (asked new).ends
    rw [x, y]
    cases o with
    | done encoded =>
      refine (next.register_same encoded fun batch hd =>
        completed encoded r₁ r₂ batch new x y next hd).andThen (fun _ _ b => b) fun _ r r' b => ?_
      rw [b.cache]
      cases answer? r.cache <;> exact ⟨rfl, b⟩
    | failed e => cases e <;> exact ⟨rfl, next⟩
    | dropped => exact ⟨rfl, next⟩

theorem findMessage_same {R : Resolver → Resolver → Prop} {name : String}
    (same : (r.find c patience name).Same R (r'.find c' patience name)) :
    (r.findMessage c patience name).Same R (r'.findMessage c' patience name) := by
  refine same.andThen (fun _ _ b => b) fun descriptor r r' b => ?_
  cases descriptor <;> exact ⟨rfl, b⟩

theorem services_same (same : (r.ask c .services).Same (Beside S) (r'.ask c' .services)) :
    (r.services c).Same (Beside S) (r'.services c') := by
  refine same.andThen (fun _ _ b => b) fun reply r r' b => ?_
  cases reply <;> exact ⟨rfl, b⟩

end Resolver

open Resolver

/-! Operations in step -/

namespace InStep

variable {c c' : Connector} {S : Transport → Transport → Prop} {r r' : Resolver}
  {target : String} {patience : Nat} {batch : List FileDecl}

theorem ask_same (step : InStep c c' S) (b : Beside S r r') (q : Query) :
    (r.ask c q).Same (Beside S) (r'.ask c' q) :=
  have sent := step.send q b.related
  b.ask_of_tells sent.1 sent.2

theorem fetchImport_same (step : InStep c c' S) (b : Beside S r r')
    (target file dependency : String) :
    (r.fetchImport c target file dependency).Same (Beside S)
      (r'.fetchImport c' target file dependency) :=
  Resolver.fetchImport_same target file (fetch_same (step.ask_same b (.file dependency)))

/-- Both complete a batch in the same way. -/
theorem complete_same (step : InStep c c' S) (b : Beside S r r') :
    (r.complete c target patience batch).Same (Beside S)
      (r'.complete c' target patience batch) := by
  -- The induction follows the first one; the other takes each step after it.
  fun_induction complete c target patience r batch generalizing r' with
  | case1 patience r batch none =>
    simp only [complete_eq c' target patience r', b.cache, none]
    exact ⟨rfl, b⟩
  | case2 patience r batch file dependency first g found ih =>
    simp only [complete_eq c' target patience r' batch, b.cache, first, b.fetched?, found]
    exact ih b
  | case3 patience r batch file dependency first new s known =>
    simp only [complete_eq c' target patience r', b.cache, first, b.fetched?, new, b.unavailable?,
      known]
    exact ⟨rfl, b⟩
  | case4 r batch file dependency first new unknown =>
    have left := b.onTransport (step.reset b.related)
    simp only [complete_eq c' target 0 r', b.cache, first, b.fetched?, new, b.unavailable?, unknown]
    exact ⟨rfl, b.cache ▸ left⟩
  | case5 r batch file dependency first new unknown patience files r₁ x ih =>
    simp only [complete_eq c' target (patience + 1) r', b.cache, first, b.fetched?, new,
      b.unavailable?, unknown]
    obtain ⟨o, r₁', r₂, x', y, next⟩ := (step.fetchImport_same b target file dependency).ends
    cases x.symm.trans x'
    rw [y]
    exact ih next
  | case6 r batch file dependency first new unknown patience e r₁ x =>
    simp only [complete_eq c' target (patience + 1) r', b.cache, first, b.fetched?, new,
      b.unavailable?, unknown]
    obtain ⟨o, r₁', r₂, x', y, next⟩ := (step.fetchImport_same b target file dependency).ends
    cases x.symm.trans x'
    rw [y]
    exact ⟨rfl, next⟩
  | case7 r batch file dependency first new unknown patience r₁ x =>
    simp only [complete_eq c' target (patience + 1) r', b.cache, first, b.fetched?, new,
      b.unavailable?, unknown]
    obtain ⟨o, r₁', r₂, x', y, next⟩ := (step.fetchImport_same b target file dependency).ends
    cases x.symm.trans x'
    rw [y]
    exact ⟨rfl, next⟩

theorem completedSame (step : InStep c c' S) (b : Beside S r r') :
    CompletedSame c c' S target patience batch r r' where
  ends := step.complete_same b
  linking _ _ _ _ b := step.linking b.related

/-- A lookup ends the same way for both. -/
theorem lookup_same {α : Type} (step : InStep c c' S) (b : Beside S r r')
    (answer? : Cache → Option α) (q : Query) (target : String)
    (unknown : Option Rpc.Status → ResolveError) :
    (r.lookup c patience answer? q target unknown).Same (Beside S)
      (r'.lookup c' patience answer? q target unknown) :=
  b.lookup_same answer? q target unknown (fun _ => fetch_same (step.ask_same b q))
    fun _ _ _ _ _ _ _ next _ => step.completedSame next

theorem findExtension_same (step : InStep c c' S) (b : Beside S r r') (patience : Nat)
    (message : String) (number : Nat) :
    (r.findExtension c patience message number).Same (Beside S)
      (r'.findExtension c' patience message number) := by
  rw [findExtension, findExtension]
  split
  next => exact step.lookup_same b _ _ _ _
  next =>
    rw [b.cache]
    cases r.cache.extension? message number <;> exact ⟨rfl, b⟩

/-- An operation gives both the same, and leaves them in step. -/
theorem perform (step : InStep c c' S) (b : Beside S r r') (op : Resolver.Operation) :
    r.result c op = r'.result c' op ∧ Beside S (r.perform c op) (r'.perform c' op) := by
  have find_same : ∀ patience name,
      (r.find c patience name).Same (Beside S) (r'.find c' patience name) :=
    fun patience name => step.lookup_same b _ _ _ _
  cases op with
  | find patience name =>
    have same := find_same patience name
    exact ⟨congrArg Result.descriptor same.outcome, same.state⟩
  | findMessage patience name =>
    have same := findMessage_same (find_same patience name)
    exact ⟨congrArg Result.message same.outcome, same.state⟩
  | findMessageByUrl patience url =>
    have same : (r.findMessageByUrl c patience url).Same (Beside S)
        (r'.findMessageByUrl c' patience url) := findMessage_same (find_same patience _)
    exact ⟨congrArg Result.message same.outcome, same.state⟩
  | findExtension patience message number =>
    have same := step.findExtension_same b patience message number
    exact ⟨congrArg Result.extension same.outcome, same.state⟩
  | services =>
    have same := services_same (step.ask_same b .services)
    exact ⟨congrArg Result.services same.outcome, same.state⟩
  | reset =>
    cases b
    exact ⟨rfl, .mk _ _ _ _ _ (step.reset ‹_›)⟩
  | close => exact ⟨rfl, b.onTransport (step.close b.related)⟩

theorem run (step : InStep c c' S) (b : Beside S r r') (ops : List Resolver.Operation) :
    results c r ops = results c' r' ops ∧ Beside S (run c r ops) (run c' r' ops) := by
  induction ops generalizing r r' with
  | nil => exact ⟨rfl, b⟩
  | cons op rest ih =>
    obtain ⟨first, next⟩ := step.perform b op
    obtain ⟨others, last⟩ := ih next
    exact ⟨by rw [results, results, first, others], last⟩

end InStep

end DynamicRpc.Reflection
