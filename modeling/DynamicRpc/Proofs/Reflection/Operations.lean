import DynamicRpc.Proofs.Reflection.Endings
import DynamicRpc.Proofs.Reflection.Streams
import Mathlib.Logic.Relation

/-!
What operations do to a resolver. Each is a sequence of small steps: queries, files and absences
that are remembered, batches that are inserted. Whatever these steps keep holds of every resolver
that operations lead to, however the service behaves and wherever they are given up.
-/
namespace DynamicRpc.Reflection

open Schema Relation

/-- How something ended, whatever it gives. -/
def Outcome.ending {ε α : Type} : Outcome ε α → Outcome ε Unit
  | .done _ => .done ()
  | .failed e => .failed e
  | .dropped => .dropped

/-! What a service can send -/

/-- A transport that sends, resets and closes led to. -/
def Transport.Reached (c : Connector) (t : Transport) : Prop :=
  ∃ choice ops, (ofChoice choice).run c ops = t

/-- A query can end this way. -/
def Connector.Answers (c : Connector) (q : Query) (o : Outcome QueryError Reply) : Prop :=
  ∃ t t' : Transport, t.Reached c ∧ t.send c q = (o, t')

/-- Files that can be the answer to a query. -/
def Connector.SendsAll (c : Connector) (q : Query) (files : List FileDecl) : Prop :=
  ∃ encoded, c.Answers q (.done (.files encoded)) ∧ Resolver.decodeFiles encoded = .ok files

/-- A file can be part of an answer. -/
def Connector.Sends (c : Connector) (f : FileDecl) : Prop :=
  ∃ q files, c.SendsAll q files ∧ f ∈ files

namespace Transport

variable {c : Connector} {t t' : Transport} {q : Query} {o : Outcome QueryError Reply}

theorem reached_ofChoice (choice : Option Dialect) : (ofChoice choice).Reached c :=
  ⟨choice, [], rfl⟩

theorem Reached.perform (ht : t.Reached c) (op : Operation) : (t.perform c op).Reached c := by
  obtain ⟨choice, ops, rfl⟩ := ht
  refine ⟨choice, ops ++ [op], ?_⟩
  rw [run, List.foldl_append]
  rfl

theorem Reached.send (ht : t.Reached c) (h : t.send c q = (o, t')) : t'.Reached c := by
  have sent := ht.perform (.send q)
  rwa [Transport.perform, h] at sent

end Transport

namespace Resolver

/-- An operation, with how many imports its caller waits for. -/
inductive Operation where
  | find (patience : Nat) (name : String)
  | findMessage (patience : Nat) (name : String)
  | findMessageByUrl (patience : Nat) (url : String)
  | findExtension (patience : Nat) (message : String) (number : Nat)
  | services
  | reset
  | close

/-- The resolver that an operation leaves, whichever way it ends. -/
def perform (c : Connector) (r : Resolver) : Operation → Resolver
  | .find patience name => (r.find c patience name).2
  | .findMessage patience name => (r.findMessage c patience name).2
  | .findMessageByUrl patience url => (r.findMessageByUrl c patience url).2
  | .findExtension patience message number => (r.findExtension c patience message number).2
  | .services => (r.services c).2
  | .reset => r.reset
  | .close => r.close

def run (c : Connector) (r : Resolver) (ops : List Operation) : Resolver := ops.foldl (perform c) r

/-- What an operation gives its caller. -/
inductive Result where
  | descriptor (o : Outcome ResolveError Descriptor)
  | message (o : Outcome ResolveError MessageType)
  | extension (o : Outcome ResolveError Extension)
  | services (o : Outcome ResolveError (List String))
  | nothing

def result (c : Connector) (r : Resolver) : Operation → Result
  | .find patience name => .descriptor (r.find c patience name).1
  | .findMessage patience name => .message (r.findMessage c patience name).1
  | .findMessageByUrl patience url => .message (r.findMessageByUrl c patience url).1
  | .findExtension patience message number =>
    .extension (r.findExtension c patience message number).1
  | .services => .services (r.services c).1
  | .reset => .nothing
  | .close => .nothing

/-- How an operation ended, whatever it gives. -/
def Result.ending : Result → Outcome ResolveError Unit
  | descriptor o => o.ending
  | message o => o.ending
  | extension o => o.ending
  | services o => o.ending
  | nothing => .done ()

def results (c : Connector) (r : Resolver) : List Operation → List Result
  | [] => []
  | op :: rest => r.result c op :: (r.perform c op).results c rest

/-- The steps that operations are made of. -/
inductive Step (c : Connector) : Resolver → Resolver → Prop where
  | asked (r : Resolver) (q : Query) (o : Outcome QueryError Reply) (t : Transport)
    (h : r.transport.send c q = (o, t)) : Step c r { r with transport := t }
  | remembered (r : Resolver) (files : List FileDecl) (hf : ∀ f ∈ files, c.Sends f) :
    Step c r (files.foldl remember r)
  | missed (r : Resolver) (dependency : String) (o : Outcome QueryError Reply) (s : Rpc.Status)
    (h : c.Answers (.file dependency) o) (ho : o.Refuses s) (code : s.code = .notFound) :
    Step c r { r with unavailable := (dependency, s) :: r.unavailable }
  | inserted (r : Resolver) (order : LinkOrder) (batch : List FileDecl) (cache : Cache) (n : Nat)
    (hb : ∀ f ∈ batch, c.Sends f) (h : r.cache.insert order batch = (.ok n, cache)) :
    Step c r (r.withCache cache)
  | givenUp (r : Resolver) : Step c r { r with transport := r.transport.reset }
  | reset (r : Resolver) : Step c r r.reset
  | close (r : Resolver) : Step c r r.close

abbrev Steps (c : Connector) : Resolver → Resolver → Prop := ReflTransGen (Step c)

variable {c : Connector} {r r' : Resolver} {q : Query} {target file dependency : String}
  {patience : Nat} {batch : List FileDecl} {encoded : List Bytes}
  {o : Outcome ResolveError (List FileDecl)}

/-- Nothing but the service has had a say: its transport was used in the usual way, and all
remembered files were sent. -/
structure Traced (c : Connector) (r : Resolver) : Prop where
  reached : r.transport.Reached c
  sent : ∀ f ∈ r.fetched, c.Sends f

/-- Remembering files changes nothing else. -/
theorem foldl_remember (r : Resolver) (files : List FileDecl) :
    files.foldl remember r = { r with fetched := (files.foldl remember r).fetched } := by
  induction files generalizing r with
  | nil => rfl
  | cons f rest ih => exact ih (r.remember f)

theorem mem_fetched_remember {f g : FileDecl} (h : f ∈ (r.remember g).fetched) :
    f = g ∨ f ∈ r.fetched := by
  rcases List.mem_cons.1 h with h | h
  · exact .inl h
  · exact .inr (List.mem_filter.1 h).1

theorem mem_fetched_remember_all {files : List FileDecl} {f : FileDecl}
    (h : f ∈ (files.foldl remember r).fetched) : f ∈ files ∨ f ∈ r.fetched := by
  induction files generalizing r with
  | nil => exact .inr h
  | cons g rest ih =>
    rcases ih h with h | h
    · exact .inl (List.mem_cons_of_mem g h)
    · rcases mem_fetched_remember h with rfl | h
      · exact .inl List.mem_cons_self
      · exact .inr h

theorem Step.traced (x : Step c r r') (h : r.Traced c) : r'.Traced c := by
  cases x with
  | asked q o t hsend => exact ⟨h.reached.send hsend, h.sent⟩
  | remembered files hf =>
    refine ⟨?_, fun f mem => (mem_fetched_remember_all mem).elim (hf f) (h.sent f)⟩
    rw [foldl_remember]
    exact h.reached
  | missed dependency o s ha ho code => exact ⟨h.reached, h.sent⟩
  | inserted order batch cache n hb hi =>
    exact ⟨h.reached, fun f mem => h.sent f (List.mem_filter.1 mem).1⟩
  | givenUp => exact ⟨h.reached.perform .reset, h.sent⟩
  | reset => exact ⟨h.reached.perform .reset, nofun⟩
  | close => exact ⟨h.reached.perform .close, h.sent⟩

/-- What each step keeps, steps keep. -/
theorem Steps.keep {P : Resolver → Prop} (step : ∀ r r', P r → Step c r r' → P r')
    (x : Steps c r r') (h : P r) : P r' := by
  induction x with
  | refl => exact h
  | tail _ x ih => exact step _ _ ih x

theorem Steps.traced (x : Steps c r r') (h : r.Traced c) : r'.Traced c :=
  x.keep (fun _ _ h x => x.traced h) h

end Resolver

open Resolver

/-! Operations as steps -/

variable {c : Connector} {r r' : Resolver} {q : Query} {target file dependency : String}
  {patience : Nat} {batch files : List FileDecl} {encoded : List Bytes}
  {o : Outcome ResolveError (List FileDecl)}

theorem Fetching.step {o : Outcome ResolveError (List Bytes)} (x : Fetching c r q o r') :
    Step c r r' := by
  cases x with
  | files encoded t h => exact .asked r q _ t h
  | refused o s t h ho => exact .asked r q _ t h
  | broken e t h he => exact .asked r q _ t h
  | services names t h => exact .asked r q _ t h
  | dropped t h => exact .asked r q _ t h

theorem Fetching.answers (hr : r.transport.Reached c) (x : Fetching c r q (.done encoded) r') :
    c.Answers q (.done (.files encoded)) := by
  cases x with
  | files encoded t h => exact ⟨_, t, hr, h⟩

theorem Fetching.sendsAll (hr : r.transport.Reached c) (x : Fetching c r q (.done encoded) r')
    (hd : decodeFiles encoded = .ok files) : c.SendsAll q files :=
  ⟨encoded, x.answers hr, hd⟩

theorem Connector.SendsAll.sends (h : c.SendsAll q files) : ∀ f ∈ files, c.Sends f :=
  fun _ hf => ⟨q, files, h, hf⟩

theorem Importing.steps (hr : r.transport.Reached c)
    (x : Importing c target file dependency r o r') : Steps c r r' := by
  cases x with
  | received encoded files r₁ x hd mem =>
    exact .tail (.single x.step) (.remembered r₁ files (x.sendsAll hr hd).sends)
  | absent encoded files r₁ x hd mem =>
    exact .tail (.single x.step) (.remembered r₁ files (x.sendsAll hr hd).sends)
  | undecodable encoded e r₁ x hd => exact .single x.step
  | unknown s r₁ x code =>
    cases x with
    | refused o s t h ho =>
      exact .tail (.single (.asked r _ _ t h)) (.missed _ dependency o s ⟨_, t, hr, h⟩ ho code)
  | failed e r₁ x code => exact .single x.step
  | dropped r₁ x => exact .single x.step

theorem Importing.sendsAll (hr : r.transport.Reached c)
    (x : Importing c target file dependency r (.done files) r') :
    c.SendsAll (.file dependency) files := by
  cases x with
  | received encoded files r₁ x hd mem => exact x.sendsAll hr hd

theorem Resolver.fetched?_mem {f : FileDecl} (h : r.fetched? dependency = some f) :
    f ∈ r.fetched ∧ f.path = dependency :=
  ⟨List.mem_of_find?_eq_some h, by simpa using List.find?_some h⟩

theorem Completing.steps (x : Completing c target patience r batch o r') (hr : r.Traced c) :
    Steps c r r' := by
  induction x with
  | closed patience r batch none => exact .refl
  | remembered patience r r' batch o file dependency f first found rest ih => exact ih hr
  | unavailable patience r batch file dependency s first new known => exact .refl
  | givenUp r batch file dependency first forgot => exact .single (.givenUp r)
  | received patience r r₁ r' batch files o file dependency first forgot x rest ih =>
    have importing := x.steps hr.reached
    exact importing.trans (ih (importing.traced hr))
  | failed patience r r₁ batch e file dependency first forgot x => exact x.steps hr.reached
  | dropped patience r r₁ batch file dependency first forgot x => exact x.steps hr.reached

/-- A completed batch holds nothing but what the service sent. -/
theorem Completing.sends (x : Completing c target patience r batch o r') (hr : r.Traced c)
    (hb : ∀ f ∈ batch, c.Sends f) {batch' : List FileDecl} (done : o = .done batch') :
    ∀ f ∈ batch', c.Sends f := by
  induction x with
  | closed patience r batch none =>
    cases done
    exact hb
  | remembered patience r r' batch o file dependency f first found rest ih =>
    refine ih hr (fun g hg => ?_) done
    rcases List.mem_append.1 hg with hg | hg
    · exact hb g hg
    · cases List.mem_singleton.1 hg
      exact hr.sent f (fetched?_mem found).1
  | received patience r r₁ r' batch files o file dependency first forgot x rest ih =>
    refine ih ((x.steps hr.reached).traced hr) (fun g hg => ?_) done
    exact (List.mem_append.1 hg).elim (hb g) ((x.sendsAll hr.reached).sends g)
  | _ => cases done

theorem Looking.steps {α : Type} {answer? : Cache → Option α}
    {unknown : Option Rpc.Status → ResolveError} {o : Outcome ResolveError α}
    (x : Looking c patience r answer? q target unknown o r') (hr : r.Traced c) : Steps c r r' := by
  have insertion : ∀ {encoded batch closed cache n r₁ r₂}, Fetching c r q (.done encoded) r₁ →
      decodeFiles encoded = .ok batch → Completing c target patience r₁ batch (.done closed) r₂ →
      r₂.cache.insert (c.linking r₂.transport.history) closed = (.ok n, cache) →
        Steps c r (r₂.withCache cache) := by
    intro encoded batch closed cache n r₁ r₂ x hd y hi
    have traced := x.step.traced hr
    have sends := y.sends traced (x.sendsAll hr.reached hd).sends rfl
    exact .head x.step (.tail (y.steps traced) (.inserted r₂ _ closed cache n sends hi))
  cases x with
  | cached a known => exact .refl
  | unknown s r₁ new x code => exact .single x.step
  | failed e r₁ new x code => exact .single x.step
  | dropped r₁ new x => exact .single x.step
  | undecodable encoded e r₁ new x hd => exact .single x.step
  | incomplete encoded batch e r₁ r₂ new x hd y => exact .head x.step (y.steps (x.step.traced hr))
  | givenUp encoded batch r₁ r₂ new x hd y => exact .head x.step (y.steps (x.step.traced hr))
  | refused encoded batch closed e r₁ r₂ new x hd y hi =>
    exact .head x.step (y.steps (x.step.traced hr))
  | answered encoded batch closed cache n a r₁ r₂ new x hd y hi found => exact insertion x hd y hi
  | absent encoded batch closed cache n r₁ r₂ new x hd y hi missing => exact insertion x hd y hi

namespace Resolver

variable {α : Type}

theorem lookup_steps (hr : r.Traced c) (answer? : Cache → Option α)
    (unknown : Option Rpc.Status → ResolveError) :
    Steps c r (r.lookup c patience answer? q target unknown).2 :=
  (lookup_looking c patience r answer? q target unknown).steps hr

theorem findMessage_steps (hr : r.Traced c) (name : String) :
    Steps c r (r.findMessage c patience name).2 := by
  have finding : Steps c r (r.find c patience name).2 := lookup_steps hr _ _
  unfold findMessage
  rcases hx : r.find c patience name with ⟨o, r₁⟩
  rw [hx] at finding
  cases o with
  | done d => cases d <;> exact finding
  | failed e => exact finding
  | dropped => exact finding

theorem findExtension_steps (hr : r.Traced c) (message : String) (number : Nat) :
    Steps c r (r.findExtension c patience message number).2 := by
  unfold findExtension
  split
  next => exact lookup_steps hr _ _
  next => split <;> exact .refl

theorem services_steps (c : Connector) (r : Resolver) : Steps c r (r.services c).2 := by
  unfold services ask
  rcases h : r.transport.send c .services with ⟨o, t⟩
  have asked : Steps c r { r with transport := t } := .single (.asked r _ _ t h)
  cases o with
  | done reply => cases reply <;> exact asked
  | failed e => cases e <;> exact asked
  | dropped => exact asked

theorem perform_steps (hr : r.Traced c) (op : Operation) : Steps c r (r.perform c op) := by
  cases op with
  | find patience name => exact lookup_steps hr _ _
  | findMessage patience name => exact findMessage_steps hr name
  | findMessageByUrl patience url => exact findMessage_steps hr _
  | findExtension patience message number => exact findExtension_steps hr message number
  | services => exact services_steps c r
  | reset => exact .single (.reset r)
  | close => exact .single (.close r)

theorem run_steps (hr : r.Traced c) (ops : List Operation) : Steps c r (run c r ops) := by
  induction ops generalizing r with
  | nil => exact .refl
  | cons op rest ih =>
    have first := perform_steps hr op
    exact first.trans (ih (first.traced hr))

theorem ofChoice_traced (choice : Option Dialect) : Traced c (.ofChoice choice) :=
  ⟨Transport.reached_ofChoice choice, nofun⟩

/-- What holds of a new resolver and is kept by every step holds after all operations. -/
theorem run_keeps {P : Resolver → Prop} (choice : Option Dialect) (ops : List Operation)
    (start : P (.ofChoice choice)) (step : ∀ r r', P r → Step c r r' → P r') :
    P (run c (.ofChoice choice) ops) :=
  (run_steps (ofChoice_traced choice) ops).keep step start

end Resolver

end DynamicRpc.Reflection
