import DynamicRpc.Proofs.Reflection.InStep
import DynamicRpc.Proofs.Reflection.Questions

/-!
Two services next to each other. A client depends on its service through the waits that it goes
through and through nothing else: as long as two services end these in the same way, it cannot tell
which one it has. And if from some moment on both answer the same queries alike, on whatever stream
they come, then clients of the two go in step, whether or not their streams are the same.
-/
namespace DynamicRpc.Reflection

/-- Two services do the same at every moment of a history before its end. -/
structure Connector.AgreesBefore (c c' : Connector) (h : History) : Prop where
  opening : ∀ h₁ e h₂, h = h₁ ++ e :: h₂ → ∀ s, c.opening h₁ s = c'.opening h₁ s
  writing : ∀ h₁ e h₂, h = h₁ ++ e :: h₂ → ∀ s q, c.writing h₁ s q = c'.writing h₁ s q
  reading : ∀ h₁ e h₂, h = h₁ ++ e :: h₂ → ∀ s, c.reading h₁ s = c'.reading h₁ s

/-- What a service says to a query, whether or not it is an answer to it. -/
def Connector.tell (c : Connector) (h : History) (s : Stream) (q : Query) :
    Outcome QueryError Reply :=
  match c.writing h s q with
  | .done () => c.reading (h ++ [.writing s q (.done ())]) s
  | .failed e => .failed e
  | .dropped => .dropped

def Event.asked? : Event → Option Query
  | .writing _ q _ => some q
  | _ => none

/-- The queries that a client has asked, on whatever streams. -/
def History.asked (h : History) : List Query := h.filterMap Event.asked?

/-- From a moment of each on, two services say alike to queries in a dialect, if they were asked the
same queries since, and files are linked in the same order. Streams have no part in it: they can
always be opened, and what is said depends on none of them. -/
structure AnswerAlike (d : Dialect) (c c' : Connector) (start start' : History) : Prop where
  opening : ∀ h s, s.dialect = d → c.opening (start ++ h) s = .done ()
  opening' : ∀ h s, s.dialect = d → c'.opening (start' ++ h) s = .done ()
  tell : ∀ h h' s s' q, s.dialect = d → s'.dialect = d → History.asked h = History.asked h' →
    (c.tell (start ++ h) s q).Tells (c'.tell (start' ++ h') s' q)
  linking : ∀ h h', History.asked h = History.asked h' →
    c.linking (start ++ h) = c'.linking (start' ++ h')

variable {c c' : Connector} {h es start start' : History} {t t' : Transport} {s : Stream}
  {d : Dialect} {q : Query} {o o' : Outcome QueryError Reply} {a : Attempt}

/-! Up to a moment -/

theorem Connector.AgreesBefore.mono (agree : c.AgreesBefore c' (h ++ es)) :
    c.AgreesBefore c' h := by
  have longer : ∀ h₁ e h₂, h = h₁ ++ e :: h₂ → h ++ es = h₁ ++ e :: (h₂ ++ es) := by
    intro h₁ e h₂ split
    rw [split, List.append_assoc, List.cons_append]
  constructor
  · intro h₁ e h₂ split
    exact agree.opening h₁ e _ (longer h₁ e h₂ split)
  · intro h₁ e h₂ split
    exact agree.writing h₁ e _ (longer h₁ e h₂ split)
  · intro h₁ e h₂ split
    exact agree.reading h₁ e _ (longer h₁ e h₂ split)

namespace Transport

/-- The waits of a round trip: a write, and a read if the write went through. -/
theorem history_roundTrip (c : Connector) (t : Transport) (s : Stream) (q : Query) :
    (t.roundTrip c s q).2.history =
      t.history ++ .writing s q (c.writing t.history s q) ::
        match c.writing t.history s q with
        | .done () => [.reading s (c.reading (t.history ++ [.writing s q (.done ())]) s)]
        | _ => [] := by
  simp only [roundTrip, write, read, record]
  cases c.writing t.history s q with
  | failed e => rfl
  | dropped => rfl
  | done =>
    simp only [Ended.andThen_done]
    cases c.reading (t.history ++ [.writing s q (.done ())]) s with
    | failed e => simp
    | dropped => simp
    | done r =>
      simp only [Ended.andThen_done]
      split <;> simp

theorem roundTrip_congr (agree : c.AgreesBefore c' (t.roundTrip c s q).2.history) :
    t.roundTrip c' s q = t.roundTrip c s q := by
  rw [history_roundTrip] at agree
  have writing := agree.writing t.history _ _ rfl s q
  simp only [roundTrip, write, read, record, ← writing]
  cases hw : c.writing t.history s q with
  | failed e => rfl
  | dropped => rfl
  | done =>
    rw [hw] at agree
    have reading := agree.reading (t.history ++ [.writing s q (.done ())]) _ _
      (List.append_cons _ _ _) s
    simp only [Ended.andThen_done, ← reading]

/-- An exchange that needs a new stream. -/
theorem opening_congr (agree : c.AgreesBefore c'
    ((t.openStream c d).andThen fun s t => t.roundTrip c s q).2.history) :
    ((t.openStream c' d).andThen fun s t => t.roundTrip c' s q) =
      (t.openStream c d).andThen fun s t => t.roundTrip c s q := by
  simp only [openStream, record] at agree ⊢
  have opening : c.opening t.history (t.history.nextStream d) =
      c'.opening t.history (t.history.nextStream d) := by
    cases ho : c.opening t.history (t.history.nextStream d) with
    | failed e =>
      rw [ho] at agree
      exact ho ▸ agree.opening t.history _ [] rfl _
    | dropped =>
      rw [ho] at agree
      exact ho ▸ agree.opening t.history _ [] rfl _
    | done =>
      simp only [ho, Ended.andThen_done, history_roundTrip, List.append_assoc] at agree
      exact ho ▸ agree.opening t.history _ _ rfl _
  rw [← opening]
  cases ho : c.opening t.history (t.history.nextStream d) with
  | failed e => rfl
  | dropped => rfl
  | done =>
    rw [ho] at agree
    simp only [Ended.andThen_done] at agree ⊢
    exact roundTrip_congr agree

theorem exchange_congr (agree : c.AgreesBefore c' (t.exchange c d q).2.history) :
    t.exchange c' d q = t.exchange c d q := by
  unfold exchange at agree ⊢
  cases hc : t.connection with
  | closed => rfl
  | idle =>
    simp only [hc] at agree ⊢
    exact opening_congr agree
  | streaming s =>
    simp only [hc] at agree ⊢
    by_cases hd : s.dialect = d
    · simp only [hd, if_true] at agree ⊢
      exact roundTrip_congr agree
    · simp only [hd, if_false] at agree ⊢
      exact opening_congr agree

/-- A client that was told the dialect gets the same for a query from services that do the same
until it has an outcome. -/
theorem send_congr (told : t.choice = some d)
    (agree : c.AgreesBefore c' (t.send c q).2.history) : t.send c' q = t.send c q := by
  simp only [send, told] at agree ⊢
  exact exchange_congr agree

theorem choice_send (told : t.choice = some d) : (t.send c q).2.choice = some d := by
  simp only [send, told]
  exact (exchange_cases rfl).choice.trans told

theorem history_send (c : Connector) (t : Transport) (q : Query) :
    ∃ es, (t.send c q).2.history = t.history ++ es := by
  obtain ⟨es, grown, _⟩ := (send_cases (c := c) (t := t) (q := q) rfl).asks
  exact ⟨es, grown⟩

end Transport

/-- A question comes after all that happened before a conversation. -/
theorem Conversation.history {qs : List Question} (talk : Conversation c t qs t') :
    ∀ x ∈ qs, ∃ es, x.asker.transport.history = t.history ++ es := by
  induction talk with
  | silent t => exact List.forall_mem_nil _
  | next x rest t talk ih =>
    intro y hy
    rcases List.mem_cons.1 hy with rfl | hy
    · exact ⟨[], (List.append_nil _).symm⟩
    · obtain ⟨es, grown⟩ := ih y hy
      obtain ⟨es', sent⟩ := Transport.history_send c x.asker.transport x.query
      exact ⟨es' ++ es, by rw [grown, Question.after, sent, List.append_assoc]⟩

/-- What was sent before a question of completing a batch is the same from both services. -/
theorem Connector.AgreesBefore.completing {target : String} {patience : Nat} {r : Resolver}
    {batch : List Schema.FileDecl} {x : Question}
    (agree : c.AgreesBefore c' x.asker.transport.history)
    (mem : x ∈ r.questions c target patience batch) : c.AgreesBefore c' r.transport.history := by
  obtain ⟨t, talk, _⟩ := (Resolver.questions_asking c target patience r batch).conversation
  obtain ⟨es, grown⟩ := talk.history x mem
  rw [grown] at agree
  exact agree.mono

/-! From a moment on -/

theorem Outcome.Tells.refuses {s : Rpc.Status} (ho : o.Refuses s) (ho' : o'.Refuses s) :
    o.Tells o' :=
  .inr ⟨s, ho, ho'⟩

/-- What a client makes of what it is told: it takes no answer that is not one to its query. -/
def Outcome.heard (q : Query) : Outcome QueryError Reply → Outcome QueryError Reply
  | .done r =>
    if r.answers q then .done r
    else .failed (.unexpected s!"{r.kind} in reply to {q.text}")
  | o => o

theorem Outcome.Refuses.heard {s : Rpc.Status} (ho : o.Refuses s) : o.heard q = o := by
  rcases ho with rfl | rfl <;> rfl

theorem Outcome.Tells.heard (tells : o.Tells o') : (o.heard q).Tells (o'.heard q) := by
  rcases tells with rfl | ⟨s, ho, ho'⟩
  · exact .inl rfl
  · rw [ho.heard, ho'.heard]
    exact .refuses ho ho'

/-- A round trip asks its query, and ends with what the client makes of the answer. -/
theorem Trip.heard (x : Trip c h s q es o) :
    o = (c.tell h s q).heard q ∧ History.asked es = [q] := by
  cases x with
  | writeFailed e hw => simp [Connector.tell, hw, Outcome.heard, History.asked, Event.asked?]
  | writeDropped hw => simp [Connector.tell, hw, Outcome.heard, History.asked, Event.asked?]
  | readFailed e hw hr => simp [Connector.tell, hw, hr, Outcome.heard, History.asked, Event.asked?]
  | readDropped hw hr => simp [Connector.tell, hw, hr, Outcome.heard, History.asked, Event.asked?]
  | mismatched r hw hr kind =>
    simp [Connector.tell, hw, hr, Outcome.heard, kind, History.asked, Event.asked?]
  | answered r hw hr kind =>
    simp [Connector.tell, hw, hr, Outcome.heard, kind, History.asked, Event.asked?]

theorem asked_append (h es : History) : History.asked (h ++ es) = h.asked ++ History.asked es :=
  List.filterMap_append ..

/-- An exchange of which the stream can be opened, at once or after its opening. -/
theorem Attempt.Whole.heard (x : a.Whole c (start ++ h) q)
    (opens : c.opening (start ++ h) a.stream = .done ()) :
    ∃ h₁, History.asked h₁ = h.asked ∧ a.outcome = (c.tell (start ++ h₁) a.stream q).heard q ∧
      History.asked a.waits = [q] := by
  cases x with
  | unopened s e ho => cases ho.symm.trans opens
  | givenUp s ho => cases ho.symm.trans opens
  | kept s es o trip => exact ⟨h, rfl, trip.heard⟩
  | opened s es o ho trip =>
    have opening : History.asked [.opening s (.done ())] = [] := rfl
    rw [List.append_assoc] at trip
    refine ⟨h ++ [.opening s (.done ())], ?_, trip.heard.1, trip.heard.2⟩
    rw [asked_append, opening, List.append_nil]

/-- Two clients that were told the same dialect, both of them closed or none. -/
structure Transport.Companions (d : Dialect) (t t' : Transport) : Prop where
  told : t.choice = some d
  told' : t'.choice = some d
  closed : t.connection = .closed ↔ t'.connection = .closed

theorem Transport.companions_self (told : t.choice = some d) : Companions d t t :=
  ⟨told, told, Iff.rfl⟩

namespace AnswerAlike

/-- Two clients that asked the same since a moment of each. -/
structure Pair (d : Dialect) (start start' : History) (t t' : Transport) : Prop
    extends t.Companions d t' where
  asked : ∃ h h', t.history = start ++ h ∧ t'.history = start' ++ h' ∧ History.asked h = h'.asked

theorem pair_now (companions : t.Companions d t') : Pair d t.history t'.history t t' :=
  ⟨companions, [], [], (List.append_nil _).symm, (List.append_nil _).symm, rfl⟩

theorem Pair.reset (p : Pair d start start' t t') : Pair d start start' t.reset t'.reset where
  told := t.choice_reset.trans p.told
  told' := t'.choice_reset.trans p.told'
  closed := by
    have closed := p.closed
    rw [Transport.reset, Transport.reset]
    cases hc : t.connection <;> cases hc' : t'.connection <;> simp_all
  asked := by
    rw [t.history_reset, t'.history_reset]
    exact p.asked

theorem Pair.close (p : Pair d start start' t t') : Pair d start start' t.close t'.close :=
  ⟨⟨p.told, p.told', iff_of_true rfl rfl⟩, p.asked⟩

theorem send (alike : AnswerAlike d c c' start start') (p : Pair d start start' t t') (q : Query) :
    (t.send c q).1.Tells (t'.send c' q).1 ∧
      Pair d start start' (t.send c q).2 (t'.send c' q).2 := by
  by_cases closed : t.connection = .closed
  · rw [Transport.send_of_closed closed, Transport.send_of_closed (p.closed.1 closed)]
    exact ⟨.inl rfl, p⟩
  · have open' : t'.connection ≠ .closed := fun closed' => closed (p.closed.2 closed')
    obtain ⟨h, h', now, now', same⟩ := p.asked
    simp only [Transport.send, p.told, p.told']
    rcases hx : t.exchange c d q with ⟨o, t₁⟩
    rcases hy : t'.exchange c' d q with ⟨o', t₁'⟩
    have x := Transport.exchange_cases hx
    have y := Transport.exchange_cases hy
    obtain ⟨a, whole, dialect, rfl, waits⟩ := x.attempt closed
    obtain ⟨a', whole', dialect', rfl, waits'⟩ := y.attempt open'
    rw [now] at whole waits
    rw [now'] at whole' waits'
    obtain ⟨h₁, asked, heard, one⟩ := whole.heard (alike.opening h a.stream dialect)
    obtain ⟨h₁', asked', heard', one'⟩ := whole'.heard (alike.opening' h' a'.stream dialect')
    have tells := alike.tell h₁ h₁' a.stream a'.stream q dialect dialect'
      (asked.trans (same.trans asked'.symm))
    constructor
    · rw [heard, heard']
      exact tells.heard
    · refine ⟨⟨x.choice.trans p.told, y.choice.trans p.told',
        iff_of_false (x.not_closed closed) (y.not_closed open')⟩, h ++ a.waits, h' ++ a'.waits, ?_⟩
      rw [waits, waits', List.append_assoc, List.append_assoc, asked_append, asked_append, same,
        one, one']
      exact ⟨rfl, rfl, rfl⟩

/-- Clients of services that answer alike go in step. -/
theorem inStep (alike : AnswerAlike d c c' start start') :
    InStep c c' (Pair d start start') where
  send q p := alike.send p q
  reset := Pair.reset
  close := Pair.close
  linking p := by
    obtain ⟨h, h', now, now', same⟩ := p.asked
    rw [now, now']
    exact alike.linking h h' same

end AnswerAlike

end DynamicRpc.Reflection
