import DynamicRpc.Proofs.Reflection.CatalogLookup
import DynamicRpc.Proofs.Reflection.InStep

/-!
A service that offers one dialect, and a resolver that has to find out which. In the other dialect
everything fails with the status that makes a client try the next, so what the resolver gets and
what the service sees is the same as for a resolver that knew the dialect all along. The two send in
step: after each query both look the same to the service, and the one has settled on the dialect of
the other or has no stream yet.
-/
namespace DynamicRpc.Reflection

open Schema

/-- A service that offers one dialect and no other. -/
structure Connector.Offers (c : Connector) (d : Dialect) : Prop extends c.Confined d where
  /-- An exchange in the other dialect comes to nothing, at the opening or later. -/
  other : ∀ d', d' ≠ d → ∀ (t : Transport) q, t.connection = .idle →
    ∃ s t', t.exchange c d' q = (.failed (.status s), t') ∧ s.code = .unimplemented
  /-- The newer dialect is not denied by a service that offers it. -/
  known : d = .v1 → ∀ (t : Transport) q e t', t.exchange c .v1 q = (.failed e, t') →
    e.isUnimplemented = false

variable {c : Connector} {d : Dialect} {q : Query}

/-! Queries -/

namespace Transport

variable {t t' t₁ t₂ : Transport} {o : Outcome QueryError Reply}

/-- A client that may still have to choose, next to one that was told the dialect. -/
structure Follows (d : Dialect) (t t' : Transport) : Prop extends Parallel d t t' where
  told : t'.choice = some d
  /-- Before the choice there is no stream. -/
  choice : t.choice = some d ∨ t.choice = none ∧ t.isOpen = false

/-- An exchange in the dialect of the service ends the same for both. -/
theorem Follows.exchange (confined : c.Confined d) (f : Follows d t t')
    (x : t.exchange c d q = (o, t₁)) :
    ∃ t₂, t'.exchange c d q = (o, t₂) ∧ Parallel d t₁ t₂ ∧ t₂.choice = some d := by
  obtain ⟨o', t₁', t₂, x', y, parallel⟩ := (exchange_same (q := q) confined f.toParallel).ends
  cases x.symm.trans x'
  exact ⟨t₂, y, parallel, (exchange_cases y).choice.trans f.told⟩

/-- After an exchange in the dialect of the service a client that had not chosen has chosen it, or
has no stream. -/
theorem Follows.settle (confined : c.Confined d) (f : Follows d t t') (free : t.choice = none) :
    ((t.exchange c d q).andThen fun r t => t.pin d r).Same (Follows d) (t'.exchange c d q) := by
  rcases x : t.exchange c d q with ⟨o, t₁⟩
  obtain ⟨t₂, y, p, told⟩ := f.exchange confined x
  have waiting : t₁.choice = none := (exchange_cases x).choice.trans free
  have idle : (∀ r, o ≠ .done r) → t₁.isOpen = false := (exchange_cases x).isOpen_eq_false
  rw [y]
  cases o with
  | done r => exact ⟨rfl, ⟨p.histories, p.connections⟩, told, .inl rfl⟩
  | failed e => exact ⟨rfl, p, told, .inr ⟨waiting, idle nofun⟩⟩
  | dropped => exact ⟨rfl, p, told, .inr ⟨waiting, idle nofun⟩⟩

/-- A service that offers the newer dialect is asked in it at once. -/
theorem send_newer (offers : c.Offers .v1) (free : t.choice = none) :
    t.send c q = (t.exchange c .v1 q).andThen fun r t => t.pin .v1 r := by
  rw [send, free]
  rcases x : t.exchange c .v1 q with ⟨o, t₁⟩
  cases o with
  | done r => rfl
  | failed e =>
    simp only [offers.known rfl t q e t₁ x, Ended.andThen_failed, Bool.false_eq_true, if_false]
  | dropped => rfl

/-- A service that offers the older dialect is asked in it at the second try, and the first leaves
nothing to see. -/
theorem Follows.send_older (offers : c.Offers .v1alpha) (f : Follows .v1alpha t t')
    (free : t.choice = none) (idle : t.connection = .idle) :
    ∃ t₁, Follows .v1alpha t₁ t' ∧ t₁.choice = none ∧
      t.send c q = (t₁.exchange c .v1alpha q).andThen fun r t => t.pin .v1alpha r := by
  obtain ⟨s, t₁, x, code⟩ := offers.other .v1 nofun t q idle
  have unknown : (QueryError.status s).isUnimplemented = true :=
    QueryError.isUnimplemented_iff.2 ⟨s, rfl, code⟩
  have waiting : t₁.choice = none := (exchange_cases x).choice.trans free
  refine ⟨t₁, ⟨f.toParallel.other idle (exchange_cases x) nofun, f.told, .inr ⟨waiting, ?_⟩⟩,
    waiting, ?_⟩
  · exact (exchange_cases x).isOpen_eq_false nofun
  · simp only [send, free, x, unknown, if_true]

/-- Both get the same, and go on in step. -/
theorem Follows.send_same (offers : c.Offers d) (f : Follows d t t') :
    (t.send c q).Same (Follows d) (t'.send c q) := by
  have asked : t'.send c q = t'.exchange c d q := by rw [send, f.told]
  -- Only a client that has not chosen asks otherwise, and then it matters which dialect is newer.
  rcases f.choice with chosen | ⟨free, unopened⟩
  · have asked' : t.send c q = t.exchange c d q := by rw [send, chosen]
    rw [asked, asked']
    rcases x : t.exchange c d q with ⟨o, t₁⟩
    obtain ⟨t₂, y, p, told⟩ := f.exchange offers.toConfined x
    rw [y]
    exact ⟨rfl, p, told, .inl ((exchange_cases x).choice.trans chosen)⟩
  · cases d with
    | v1 =>
      rw [asked, send_newer offers free]
      exact f.settle offers.toConfined free
    | v1alpha =>
      cases connection : t.connection with
      | streaming s => simp [isOpen, connection] at unopened
      | closed =>
        have closed' : t'.connection = .closed := f.closed connection
        rw [send_of_closed connection, send_of_closed closed']
        exact ⟨rfl, f⟩
      | idle =>
        obtain ⟨t₁, f₁, free₁, sent⟩ := f.send_older (q := q) offers free connection
        rw [asked, sent]
        exact f₁.settle offers.toConfined free₁

/-- Clients are in step before their first query. -/
theorem follows_ofChoice (d : Dialect) : Follows d (ofChoice none) (ofChoice (some d)) where
  histories := ⟨List.forall_mem_nil _, List.forall_mem_nil _, rfl⟩
  connections := .idle
  told := rfl
  choice := .inr ⟨rfl, rfl⟩

theorem Follows.reset (f : Follows d t t') : Follows d t.reset t'.reset := by
  obtain ⟨choice, connection, history⟩ := t
  obtain ⟨choice', connection', history'⟩ := t'
  obtain ⟨⟨histories, joined⟩, told, chosen⟩ := f
  cases joined with
  | closed => exact ⟨⟨histories, .closed⟩, told, chosen⟩
  | idle => exact ⟨⟨histories, .idle⟩, told, chosen.imp_right fun x => ⟨x.1, rfl⟩⟩
  | streaming => exact ⟨⟨histories, .idle⟩, told, chosen.imp_right fun x => ⟨x.1, rfl⟩⟩

theorem Follows.close (f : Follows d t t') : Follows d t.close t'.close where
  histories := f.histories
  connections := .closed
  told := f.told
  choice := f.choice.imp_right fun x => ⟨x.1, rfl⟩

theorem follows_inStep (offers : c.Offers d) : InStep c c (Follows d) where
  send _ f := have same := f.send_same offers; ⟨.inl same.outcome, same.state⟩
  reset := Follows.reset
  close := Follows.close
  linking f := offers.linking _ _ f.histories.view

end Transport

/-! Operations -/

namespace Resolver

variable {r r' : Resolver}

/-- Resolvers that have cached and remembered the same, on clients that go in step. -/
inductive Follows (d : Dialect) : Resolver → Resolver → Prop where
  | mk (t t' : Transport) (cache : Cache) (fetched : List FileDecl)
    (unavailable : List (String × Rpc.Status)) (f : t.Follows d t') :
    Follows d ⟨t, cache, fetched, unavailable⟩ ⟨t', cache, fetched, unavailable⟩

theorem Follows.beside (f : Follows d r r') : Beside (Transport.Follows d) r r' := by
  obtain ⟨t, t', cache, fetched, unavailable, f⟩ := f
  exact .mk _ _ _ _ _ f

theorem Beside.follows (b : Beside (Transport.Follows d) r r') : Follows d r r' := by
  obtain ⟨t, t', cache, fetched, unavailable, f⟩ := b
  exact .mk _ _ _ _ _ f

theorem Follows.cache (f : Follows d r r') : r'.cache = r.cache := f.beside.cache

theorem Follows.view (f : Follows d r r') :
    r.transport.history.seenBy d = r'.transport.history.seenBy d :=
  f.beside.related.histories.view

theorem Follows.run (offers : c.Offers d) (f : Follows d r r') (ops : List Operation) :
    results c r ops = results c r' ops ∧ Follows d (run c r ops) (run c r' ops) :=
  ((Transport.follows_inStep offers).run f.beside ops).imp_right Beside.follows

theorem follows_ofChoice (d : Dialect) : Follows d (ofChoice none) (ofChoice (some d)) :=
  .mk _ _ _ _ _ (Transport.follows_ofChoice d)

/-- A resolver that has to find out which dialect a service offers gets the same from every
operation as one that was told, has the same files cached after them, and its service has seen the
same openings, queries and replies in its dialect. -/
theorem finding_out_is_being_told (offers : c.Offers d) (ops : List Operation) :
    results c (ofChoice none) ops = results c (ofChoice (some d)) ops ∧
    (run c (ofChoice none) ops).cache = (run c (ofChoice (some d)) ops).cache ∧
    (run c (ofChoice none) ops).transport.history.seenBy d =
      (run c (ofChoice (some d)) ops).transport.history.seenBy d := by
  obtain ⟨same, f⟩ := (follows_ofChoice d).run offers ops
  exact ⟨same, f.cache.symm, f.view⟩

end Resolver

/-! Services in one dialect -/

/-- A service that is only there in one dialect. -/
def Connector.only (service : Connector) (d : Dialect) : Connector where
  opening h s :=
    if s.dialect = d then service.opening (h.seenBy d) (h.seen s)
    else .failed (.status ⟨.unimplemented, ""⟩)
  writing h s q :=
    if s.dialect = d then service.writing (h.seenBy d) (h.seen s) q else .failed .sendFailed
  reading h s :=
    if s.dialect = d then service.reading (h.seenBy d) (h.seen s) else .failed .streamClosed
  linking h := service.linking (h.seenBy d)

theorem Connector.only_confined (service : Connector) (d : Dialect) :
    (service.only d).Confined d where
  opening h h' s s' own view seen := by
    have own' : s'.dialect = d := (congrArg Stream.dialect seen).symm.trans own
    simp only [only, own, own', view, seen]
  writing h h' s s' own view seen q := by
    have own' : s'.dialect = d := (congrArg Stream.dialect seen).symm.trans own
    simp only [only, own, own', view, seen]
  reading h h' s s' own view seen := by
    have own' : s'.dialect = d := (congrArg Stream.dialect seen).symm.trans own
    simp only [only, own, own', view, seen]
  linking h h' view := by simp only [only, view]

/-- Such a service offers its dialect, unless that is the newer one and it denies it. -/
theorem Connector.only_offers (service : Connector) (d : Dialect)
    (known : d = .v1 → ∀ (t : Transport) q e t',
      t.exchange (service.only d) .v1 q = (.failed e, t') → e.isUnimplemented = false) :
    (service.only d).Offers d where
  toConfined := service.only_confined d
  other d' other t q idle := by
    have refused : (service.only d).opening t.history (t.history.nextStream d') =
        .failed (.status ⟨.unimplemented, ""⟩) := if_neg other
    simp only [Transport.exchange, idle, Transport.openStream, refused, Ended.andThen_failed]
    exact ⟨_, _, rfl, rfl⟩
  known := known

namespace Resolver

open Catalog

/-- A shop that is there in the older dialect only. A resolver that tries the newer one first gets
the same from it as one that starts with the older, and the first stream that the shop sees is the
second one that was opened. -/
theorem older_shop_is_found_out :
    results (shop.service.only .v1alpha) (ofChoice none) [.services, .reset, .find 2 "shop.Item"] =
      results (shop.service.only .v1alpha) (ofChoice (some .v1alpha))
        [.services, .reset, .find 2 "shop.Item"] ∧
    History.seenBy (run (shop.service.only .v1alpha) (ofChoice none) [.services]).transport.history
        .v1alpha =
      [.opening ⟨.v1alpha, 0⟩ (.done ()), .writing ⟨.v1alpha, 0⟩ .services (.done ()),
        .reading ⟨.v1alpha, 0⟩ (.done (.services []))] := by
  have offers := Connector.only_offers shop.service .v1alpha nofun
  refine ⟨(finding_out_is_being_told offers _).1, ?_⟩
  rw [(finding_out_is_being_told offers _).2.2]
  decide +kernel

end Resolver

end DynamicRpc.Reflection
