import DynamicRpc.Reflection.Transport

/-!
How an exchange can end. A round trip is a write and a read, of which either may fail or be given
up; an exchange may need a new stream before. The relations here list all endings with the waits
that lead to them, so that what an exchange keeps is a matter of going through a short list.
-/
namespace DynamicRpc.Reflection

/-- The connection that an outcome leaves: the stream is kept only with a reply. -/
def Outcome.connection (s : Stream) : Outcome QueryError Reply → Connection
  | .done _ => .streaming s
  | _ => .idle

/-- The endings of a round trip on a stream: its waits, and what comes back. -/
inductive Trip (c : Connector) (h : History) (s : Stream) (q : Query) :
    List Event → Outcome QueryError Reply → Prop where
  | writeFailed (e : QueryError) (hw : c.writing h s q = .failed e) :
    Trip c h s q [.writing s q (.failed e)] (.failed e)
  | writeDropped (hw : c.writing h s q = .dropped) :
    Trip c h s q [.writing s q .dropped] .dropped
  | readFailed (e : QueryError) (hw : c.writing h s q = .done ())
    (hr : c.reading (h ++ [.writing s q (.done ())]) s = .failed e) :
    Trip c h s q [.writing s q (.done ()), .reading s (.failed e)] (.failed e)
  | readDropped (hw : c.writing h s q = .done ())
    (hr : c.reading (h ++ [.writing s q (.done ())]) s = .dropped) :
    Trip c h s q [.writing s q (.done ()), .reading s .dropped] .dropped
  | mismatched (r : Reply) (hw : c.writing h s q = .done ())
    (hr : c.reading (h ++ [.writing s q (.done ())]) s = .done r) (kind : r.answers q = false) :
    Trip c h s q [.writing s q (.done ()), .reading s (.done r)]
      (.failed (.unexpected s!"{r.kind} in reply to {q.text}"))
  | answered (r : Reply) (hw : c.writing h s q = .done ())
    (hr : c.reading (h ++ [.writing s q (.done ())]) s = .done r) (kind : r.answers q = true) :
    Trip c h s q [.writing s q (.done ()), .reading s (.done r)] (.done r)

/-- The endings of an exchange in a dialect. -/
inductive Exchange (c : Connector) (t : Transport) (d : Dialect) (q : Query) :
    Outcome QueryError Reply → Transport → Prop where
  | closed (hc : t.connection = .closed) : Exchange c t d q (.failed .closed) t
  | kept (s : Stream) (es : List Event) (o : Outcome QueryError Reply)
    (hc : t.connection = .streaming s) (hd : s.dialect = d) (trip : Trip c t.history s q es o) :
    Exchange c t d q o ⟨t.choice, o.connection s, t.history ++ es⟩
  | openFailed (e : QueryError) (hc : t.connection ≠ .closed)
    (hd : ∀ s, t.connection = .streaming s → s.dialect ≠ d)
    (ho : c.opening t.history (t.history.nextStream d) = .failed e) :
    Exchange c t d q (.failed e)
      ⟨t.choice, .idle, t.history ++ [.opening (t.history.nextStream d) (.failed e)]⟩
  | openDropped (hc : t.connection ≠ .closed)
    (hd : ∀ s, t.connection = .streaming s → s.dialect ≠ d)
    (ho : c.opening t.history (t.history.nextStream d) = .dropped) :
    Exchange c t d q .dropped
      ⟨t.choice, .idle, t.history ++ [.opening (t.history.nextStream d) .dropped]⟩
  | opened (s : Stream) (es : List Event) (o : Outcome QueryError Reply)
    (hc : t.connection ≠ .closed) (hd : ∀ s, t.connection = .streaming s → s.dialect ≠ d)
    (hs : s = t.history.nextStream d)
    (ho : c.opening t.history s = .done ())
    (trip : Trip c (t.history ++ [.opening s (.done ())]) s q es o) :
    Exchange c t d q o
      ⟨t.choice, o.connection s, t.history ++ [.opening s (.done ())] ++ es⟩

namespace Transport

variable {c : Connector} {t t' : Transport} {s : Stream} {d : Dialect} {q : Query}
  {o : Outcome QueryError Reply}

theorem roundTrip_trip (hc : t.connection = .idle) (h : t.roundTrip c s q = (o, t')) :
    ∃ es, Trip c t.history s q es o ∧ t' = ⟨t.choice, o.connection s, t.history ++ es⟩ := by
  simp only [roundTrip, write, read, record] at h
  cases hw : c.writing t.history s q with
  | failed e =>
    simp only [hw, Ended.andThen_failed, Prod.mk.injEq] at h
    obtain ⟨rfl, rfl⟩ := h
    exact ⟨_, .writeFailed e hw, by simp [Outcome.connection, hc]⟩
  | dropped =>
    simp only [hw, Ended.andThen_dropped, Prod.mk.injEq] at h
    obtain ⟨rfl, rfl⟩ := h
    exact ⟨_, .writeDropped hw, by simp [Outcome.connection, hc]⟩
  | done =>
    simp only [hw, Ended.andThen_done] at h
    cases hr : c.reading (t.history ++ [.writing s q (.done ())]) s with
    | failed e =>
      simp only [hr, Ended.andThen_failed, Prod.mk.injEq] at h
      obtain ⟨rfl, rfl⟩ := h
      exact ⟨_, .readFailed e hw hr, by simp [Outcome.connection, hc]⟩
    | dropped =>
      simp only [hr, Ended.andThen_dropped, Prod.mk.injEq] at h
      obtain ⟨rfl, rfl⟩ := h
      exact ⟨_, .readDropped hw hr, by simp [Outcome.connection, hc]⟩
    | done r =>
      simp only [hr, Ended.andThen_done] at h
      split at h
      next kind =>
        simp only [Prod.mk.injEq] at h
        obtain ⟨rfl, rfl⟩ := h
        exact ⟨_, .answered r hw hr kind, by simp [Outcome.connection]⟩
      next kind =>
        simp only [Prod.mk.injEq] at h
        obtain ⟨rfl, rfl⟩ := h
        refine ⟨_, .mismatched r hw hr (Bool.eq_false_iff.2 kind), ?_⟩
        simp [Outcome.connection, hc]

/-- An exchange that needs a new stream. -/
theorem opening_exchange (hc : t.connection ≠ .closed)
    (hd : ∀ s, t.connection = .streaming s → s.dialect ≠ d)
    (h : (({ t with connection := .idle } : Transport).openStream c d).andThen
      (fun s t => t.roundTrip c s q) = (o, t')) : Exchange c t d q o t' := by
  simp only [openStream, record] at h
  cases ho : c.opening t.history (t.history.nextStream d) with
  | failed e =>
    simp only [ho, Ended.andThen_failed, Prod.mk.injEq] at h
    obtain ⟨rfl, rfl⟩ := h
    exact .openFailed e hc hd ho
  | dropped =>
    simp only [ho, Ended.andThen_dropped, Prod.mk.injEq] at h
    obtain ⟨rfl, rfl⟩ := h
    exact .openDropped hc hd ho
  | done =>
    simp only [ho, Ended.andThen_done] at h
    obtain ⟨es, trip, rfl⟩ := roundTrip_trip rfl h
    exact .opened _ es o hc hd rfl ho trip

theorem exchange_cases (h : t.exchange c d q = (o, t')) : Exchange c t d q o t' := by
  unfold exchange at h
  cases hc : t.connection with
  | closed =>
    simp only [hc, Prod.mk.injEq] at h
    obtain ⟨rfl, rfl⟩ := h
    exact .closed hc
  | idle =>
    simp only [hc] at h
    exact opening_exchange (by simp [hc]) (by simp [hc]) h
  | streaming s =>
    simp only [hc] at h
    split at h
    next hd =>
      obtain ⟨es, trip, rfl⟩ := roundTrip_trip rfl h
      exact .kept s es o hc hd trip
    next hd =>
      have other : ∀ s, t.connection = .streaming s → s.dialect ≠ d := by
        intro s' hs'
        cases hc.symm.trans hs'
        exact hd
      exact opening_exchange (by simp [hc]) other h

end Transport

/-- The endings of a send: one exchange in the chosen dialect, or, as long as there is none, one in
the newer dialect and perhaps one more in the older. -/
inductive Sending (c : Connector) (t : Transport) (q : Query) :
    Outcome QueryError Reply → Transport → Prop where
  | chosen (d : Dialect) (o : Outcome QueryError Reply) (t' : Transport)
    (hd : t.choice = some d) (x : Exchange c t d q o t') : Sending c t q o t'
  | first (r : Reply) (t₁ : Transport) (hd : t.choice = none)
    (x : Exchange c t .v1 q (.done r) t₁) :
    Sending c t q (.done r) { t₁ with choice := some .v1 }
  | firstFailed (e : QueryError) (t₁ : Transport) (hd : t.choice = none)
    (x : Exchange c t .v1 q (.failed e) t₁) (he : e.isUnimplemented = false) :
    Sending c t q (.failed e) t₁
  | firstDropped (t₁ : Transport) (hd : t.choice = none)
    (x : Exchange c t .v1 q .dropped t₁) : Sending c t q .dropped t₁
  | second (e : QueryError) (r : Reply) (t₁ t₂ : Transport) (hd : t.choice = none)
    (x : Exchange c t .v1 q (.failed e) t₁) (he : e.isUnimplemented = true)
    (y : Exchange c t₁ .v1alpha q (.done r) t₂) :
    Sending c t q (.done r) { t₂ with choice := some .v1alpha }
  | secondStopped (e : QueryError) (o : Outcome QueryError Reply) (t₁ t₂ : Transport)
    (hd : t.choice = none) (x : Exchange c t .v1 q (.failed e) t₁)
    (he : e.isUnimplemented = true) (y : Exchange c t₁ .v1alpha q o t₂) (ho : ∀ r, o ≠ .done r) :
    Sending c t q o t₂

theorem Transport.send_cases {c : Connector} {t t' : Transport} {q : Query}
    {o : Outcome QueryError Reply} (h : t.send c q = (o, t')) : Sending c t q o t' := by
  unfold send at h
  cases hd : t.choice with
  | some d =>
    simp only [hd] at h
    exact .chosen d o t' hd (exchange_cases h)
  | none =>
    simp only [hd] at h
    rcases hx : t.exchange c .v1 q with ⟨o₁, t₁⟩
    have x := exchange_cases hx
    rw [hx] at h
    cases o₁ with
    | done r =>
      simp only [pin, Prod.mk.injEq] at h
      obtain ⟨rfl, rfl⟩ := h
      exact .first r t₁ hd x
    | dropped =>
      simp only [Prod.mk.injEq] at h
      obtain ⟨rfl, rfl⟩ := h
      exact .firstDropped t₁ hd x
    | failed e =>
      dsimp only at h
      split at h
      next he =>
        rcases hy : t₁.exchange c .v1alpha q with ⟨o₂, t₂⟩
        have y := exchange_cases hy
        rw [hy] at h
        cases o₂ with
        | done r =>
          simp only [Ended.andThen_done, pin, Prod.mk.injEq] at h
          obtain ⟨rfl, rfl⟩ := h
          exact .second e r t₁ t₂ hd x he y
        | failed e₂ =>
          simp only [Ended.andThen_failed, Prod.mk.injEq] at h
          obtain ⟨rfl, rfl⟩ := h
          exact .secondStopped e _ t₁ t₂ hd x he y nofun
        | dropped =>
          simp only [Ended.andThen_dropped, Prod.mk.injEq] at h
          obtain ⟨rfl, rfl⟩ := h
          exact .secondStopped e _ t₁ t₂ hd x he y nofun
      next he =>
        simp only [Prod.mk.injEq] at h
        obtain ⟨rfl, rfl⟩ := h
        exact .firstFailed e t₁ hd x (Bool.eq_false_iff.2 he)

/-! Waits of a send -/

/-- What holds of a query's ending and its waits if it holds of round trips. An exchange can have an
opening before them, and a send a whole exchange before the one that it ends with. -/
structure Additive (c : Connector) (q : Query) (P : Outcome QueryError Reply → List Event → Prop) :
    Prop where
  closed : P (.failed .closed) []
  opening : ∀ s o' o, (∀ r, o ≠ .done r) → P o [.opening s o']
  trip : ∀ h s es o, Trip c h s q es o → P o es
  append : ∀ o o' es es', (o = .dropped ∨ ∃ e, o = .failed e ∧ e.isUnimplemented = true) →
    P o es → P o' es' → P o' (es ++ es')

theorem Exchange.of_additive {c : Connector} {t t' : Transport} {d : Dialect} {q : Query}
    {o : Outcome QueryError Reply} {P : Outcome QueryError Reply → List Event → Prop}
    (x : Exchange c t d q o t') (p : Additive c q P) :
    ∃ es, t'.history = t.history ++ es ∧ P o es := by
  cases x with
  | closed hc => exact ⟨[], (List.append_nil _).symm, p.closed⟩
  | kept s es o hc hd trip => exact ⟨es, rfl, p.trip _ s es o trip⟩
  | openFailed e hc hd ho => exact ⟨_, rfl, p.opening _ _ _ nofun⟩
  | openDropped hc hd ho => exact ⟨_, rfl, p.opening _ _ _ nofun⟩
  | opened s es o hc hd hs ho trip =>
    refine ⟨[.opening s (.done ())] ++ es, by simp, ?_⟩
    exact p.append .dropped o _ es (.inl rfl) (p.opening s _ _ nofun) (p.trip _ s es o trip)

theorem Sending.of_additive {c : Connector} {t t' : Transport} {q : Query}
    {o : Outcome QueryError Reply} {P : Outcome QueryError Reply → List Event → Prop}
    (x : Sending c t q o t') (p : Additive c q P) :
    ∃ es, t'.history = t.history ++ es ∧ P o es := by
  have twice : ∀ {e : QueryError} {o : Outcome QueryError Reply} {t₁ t₂ : Transport},
      Exchange c t .v1 q (.failed e) t₁ → e.isUnimplemented = true →
      Exchange c t₁ .v1alpha q o t₂ → ∃ es, t₂.history = t.history ++ es ∧ P o es := by
    intro e o t₁ t₂ x he y
    obtain ⟨es, grown, first⟩ := x.of_additive p
    obtain ⟨es', grown', second⟩ := y.of_additive p
    refine ⟨es ++ es', by rw [grown', grown, List.append_assoc], ?_⟩
    exact p.append _ o es es' (.inr ⟨e, rfl, he⟩) first second
  cases x with
  | chosen d o t' hd x => exact x.of_additive p
  | first r t₁ hd x => exact (x.of_additive p :)
  | firstFailed e t₁ hd x he => exact x.of_additive p
  | firstDropped t₁ hd x => exact x.of_additive p
  | second e r t₁ t₂ hd x he y => exact (twice x he y :)
  | secondStopped e o t₁ t₂ hd x he y stopped => exact twice x he y

end DynamicRpc.Reflection
