import DynamicRpc.Proofs.Reflection.Exchange

/-!
Replies and the queries they belong to. A stream that is still open has seen whole exchanges only:
each query that was written on it had its reply read before anything else happened on it. So a
reply can be told by its place on the stream, and no send ever takes the reply of an earlier one.
-/
namespace DynamicRpc.Reflection

/-! What happened on a stream -/

def Event.stream : Event → Stream
  | .opening s _ => s
  | .writing s _ _ => s
  | .reading s _ => s

/-- The query of a write that went through. -/
def Event.query? : Event → Option Query
  | .writing _ q (.done ()) => some q
  | _ => none

/-- The reply of a read that went through. -/
def Event.reply? : Event → Option Reply
  | .reading _ (.done r) => some r
  | _ => none

/-- The writes and reads on a stream. -/
def History.on (h : History) (s : Stream) : List Event :=
  h.filter fun e => e.stream = s && !e.isOpening

/-- The queries written on a stream, in order. -/
def History.written (h : History) (s : Stream) : List Query := (h.on s).filterMap Event.query?

/-- The replies read from a stream, in order. -/
def History.replies (h : History) (s : Stream) : List Reply := (h.on s).filterMap Event.reply?

/-- How many streams a client tried to open. -/
def History.openings (h : History) : Nat := h.countP Event.isOpening

/-- Whole exchanges on a stream: a query, and then its reply. -/
def exchanges (s : Stream) : List (Query × Reply) → List Event
  | [] => []
  | (q, r) :: rest => .writing s q (.done ()) :: .reading s (.done r) :: exchanges s rest

@[simp] theorem on_append (h es : List Event) (s : Stream) :
    History.on (h ++ es) s = History.on h s ++ History.on es s := by
  simp [History.on]

@[simp] theorem on_opening (s s' : Stream) (o : Outcome QueryError Unit) :
    History.on [.opening s' o] s = [] := by
  simp [History.on, Event.isOpening]

@[simp] theorem openings_append (h es : List Event) :
    History.openings (h ++ es) = History.openings h + History.openings es := by
  simp [History.openings]

@[simp] theorem openings_opening (s : Stream) (o : Outcome QueryError Unit) :
    History.openings [.opening s o] = 1 := rfl

theorem exchanges_append (s : Stream) (xs ys : List (Query × Reply)) :
    exchanges s (xs ++ ys) = exchanges s xs ++ exchanges s ys := by
  induction xs with
  | nil => rfl
  | cons x rest ih => simp [exchanges, ih]

theorem queries_exchanges (s : Stream) (xs : List (Query × Reply)) :
    (exchanges s xs).filterMap Event.query? = xs.map (·.1) := by
  induction xs with
  | nil => rfl
  | cons x rest ih => simp [exchanges, List.filterMap_cons, Event.query?, ih]

theorem replies_exchanges (s : Stream) (xs : List (Query × Reply)) :
    (exchanges s xs).filterMap Event.reply? = xs.map (·.2) := by
  induction xs with
  | nil => rfl
  | cons x rest ih => simp [exchanges, List.filterMap_cons, Event.reply?, ih]

/-- The waits of a round trip are all on its stream, and none opens one. -/
theorem Trip.events {c : Connector} {h : History} {s : Stream} {q : Query} {es : List Event}
    {o : Outcome QueryError Reply} (x : Trip c h s q es o) :
    ∀ e ∈ es, e.stream = s ∧ e.isOpening = false := by
  cases x <;> simp [Event.stream, Event.isOpening]

theorem Trip.openings {c : Connector} {h : History} {s : Stream} {q : Query} {es : List Event}
    {o : Outcome QueryError Reply} (x : Trip c h s q es o) : History.openings es = 0 := by
  rw [History.openings, List.countP_eq_zero]
  intro e he
  simp [(x.events e he).2]

theorem Trip.on {c : Connector} {h : History} {s : Stream} {q : Query} {es : List Event}
    {o : Outcome QueryError Reply} (x : Trip c h s q es o) : History.on es s = es := by
  rw [History.on, List.filter_eq_self]
  intro e he
  simp [x.events e he]

/-- A round trip that ends with a reply is a whole exchange. -/
theorem Trip.whole {c : Connector} {h : History} {s : Stream} {q : Query} {es : List Event}
    {r : Reply} (x : Trip c h s q es (.done r)) : es = exchanges s [(q, r)] := by
  cases x
  rfl

/-! The invariant of a transport -/

structure Transport.Settled (t : Transport) : Prop where
  /-- Streams are told apart by the number of openings before them. -/
  numbered : ∀ e ∈ t.history, e.stream.number < t.history.openings
  live : ∀ s, t.connection = .streaming s → s.number < t.history.openings
  /-- The open stream has seen whole exchanges only. -/
  whole : ∀ s, t.connection = .streaming s → ∃ xs, t.history.on s = exchanges s xs

theorem Transport.settled_ofChoice (choice : Option Dialect) : (ofChoice choice).Settled where
  numbered := by simp [ofChoice]
  live := by simp [ofChoice]
  whole := by simp [ofChoice]

/-- Nothing happened yet on a stream that is about to be opened. -/
theorem Transport.Settled.on_nextStream {t : Transport} (ht : t.Settled) (d : Dialect) :
    t.history.on (t.history.nextStream d) = [] := by
  rw [History.on, List.filter_eq_nil_iff]
  intro e he
  have lt := ht.numbered e he
  have ne : e.stream ≠ t.history.nextStream d := by
    intro same
    rw [same] at lt
    exact Nat.lt_irrefl _ lt
  simp [ne]

/-- A round trip on a stream with whole exchanges leaves a settled transport. -/
theorem Transport.Settled.trip {c : Connector} {choice : Option Dialect} {h : History} {s : Stream}
    {q : Query} {es : List Event} {o : Outcome QueryError Reply}
    (numbered : ∀ e ∈ h, e.stream.number < h.openings) (live : s.number < h.openings)
    (whole : ∃ xs, h.on s = exchanges s xs) (x : Trip c h s q es o) :
    Settled ⟨choice, o.connection s, h ++ es⟩ := by
  have count : History.openings (h ++ es) = h.openings := by simp [x.openings]
  refine ⟨?_, ?_, ?_⟩
  · intro e he
    rw [count]
    rcases List.mem_append.1 he with he | he
    · exact numbered e he
    · rw [(x.events e he).1]
      exact live
  · intro s' hs'
    rw [count]
    cases o <;> cases hs'
    exact live
  · intro s' hs'
    cases o with
    | done r =>
      cases hs'
      obtain ⟨xs, hxs⟩ := whole
      exact ⟨xs ++ [(q, r)], by rw [on_append, hxs, x.on, x.whole, exchanges_append]⟩
    | failed e => cases hs'
    | dropped => cases hs'

/-- An opening adds a stream with a number of its own. -/
theorem Transport.Settled.opening {t : Transport} (ht : t.Settled) (d : Dialect)
    (o : Outcome QueryError Unit) :
    ∀ e ∈ t.history ++ [.opening (t.history.nextStream d) o],
      e.stream.number < History.openings (t.history ++ [.opening (t.history.nextStream d) o]) := by
  intro e he
  rw [openings_append, openings_opening]
  rcases List.mem_append.1 he with he | he
  · exact Nat.lt_succ_of_lt (ht.numbered e he)
  · cases List.mem_singleton.1 he
    exact Nat.lt_succ_self _

theorem Transport.Settled.exchange {c : Connector} {t t' : Transport} {d : Dialect} {q : Query}
    {o : Outcome QueryError Reply} (ht : t.Settled) (x : Exchange c t d q o t') : t'.Settled := by
  cases x with
  | closed => exact ht
  | kept s es o hc hd trip => exact .trip ht.numbered (ht.live s hc) (ht.whole s hc) trip
  | openFailed e hc hd ho => exact ⟨ht.opening d _, nofun, nofun⟩
  | openDropped hc hd ho => exact ⟨ht.opening d _, nofun, nofun⟩
  | opened s es o hc hd hs ho trip =>
    subst hs
    refine .trip (ht.opening d _) ?_ ⟨[], ?_⟩ trip
    · rw [openings_append, openings_opening]
      exact Nat.lt_succ_self _
    · rw [on_append, on_opening, ht.on_nextStream]
      rfl

/-- The dialect plays no part. -/
theorem Transport.Settled.choose {t : Transport} (ht : t.Settled) (choice : Option Dialect) :
    Settled { t with choice } :=
  ⟨ht.numbered, ht.live, ht.whole⟩

theorem Transport.Settled.sending {c : Connector} {t t' : Transport} {q : Query}
    {o : Outcome QueryError Reply} (ht : t.Settled) (x : Sending c t q o t') : t'.Settled := by
  cases x with
  | chosen d o t' hd x => exact ht.exchange x
  | first r t₁ hd x => exact (ht.exchange x).choose _
  | firstFailed e t₁ hd x he => exact ht.exchange x
  | firstDropped t₁ hd x => exact ht.exchange x
  | second e r t₁ t₂ hd x he y => exact ((ht.exchange x).exchange y).choose _
  | secondStopped e o t₁ t₂ hd x he y ho => exact (ht.exchange x).exchange y

/-- What an exchange adds to the history is all in its dialect. -/
theorem Exchange.extends {c : Connector} {t t' : Transport} {d : Dialect} {q : Query}
    {o : Outcome QueryError Reply} (x : Exchange c t d q o t') :
    ∃ es, t'.history = t.history ++ es ∧ ∀ e ∈ es, e.stream.dialect = d := by
  cases x with
  | closed => exact ⟨[], by simp, by simp⟩
  | kept s es o hc hd trip => exact ⟨es, rfl, fun e he => by rw [(trip.events e he).1, hd]⟩
  | openFailed e hc hd ho => exact ⟨_, rfl, by simp [Event.stream, History.nextStream]⟩
  | openDropped hc hd ho => exact ⟨_, rfl, by simp [Event.stream, History.nextStream]⟩
  | opened s es o hc hd hs ho trip =>
    refine ⟨.opening s (.done ()) :: es, by simp, fun e he => ?_⟩
    rcases List.mem_cons.1 he with rfl | he
    · simp [Event.stream, hs, History.nextStream]
    · rw [(trip.events e he).1, hs]
      rfl

/-- An exchange in one dialect does not touch the streams of another. -/
theorem Exchange.on_other {c : Connector} {t t' : Transport} {d : Dialect} {q : Query}
    {o : Outcome QueryError Reply} (x : Exchange c t d q o t') {s : Stream} (hs : s.dialect ≠ d) :
    t'.history.on s = t.history.on s := by
  obtain ⟨es, hes, hd⟩ := x.extends
  have none_on : History.on es s = [] := by
    rw [History.on, List.filter_eq_nil_iff]
    intro e he
    have ne : e.stream ≠ s := by
      intro same
      exact hs (same ▸ hd e he)
    simp [ne]
  rw [hes, on_append, none_on, List.append_nil]

/-- An exchange without a reply leaves no open stream. -/
theorem Exchange.isOpen_eq_false {c : Connector} {t t' : Transport} {d : Dialect} {q : Query}
    {o : Outcome QueryError Reply} (x : Exchange c t d q o t') (ho : ∀ r, o ≠ .done r) :
    t'.isOpen = false := by
  cases x with
  | closed hc => simp [Transport.isOpen, hc]
  | kept s es o hc hd trip => cases o <;> simp_all [Transport.isOpen, Outcome.connection]
  | openFailed => rfl
  | openDropped => rfl
  | opened s es o hc hd hs ho' trip => cases o <;> simp_all [Transport.isOpen, Outcome.connection]

/-! Services that answer in order -/

def Event.succeeded : Event → Bool
  | .opening _ (.done _) => true
  | .writing _ _ (.done _) => true
  | .reading _ (.done _) => true
  | _ => false

/-- A service whose streams give at most one reply to each query, in the order of the queries:
as long as nothing failed on a stream, what is read next is the reply to the first query without
one. `Answer s i q r` says that `r` is the reply to `q`, the `i`th query written on `s`. -/
def Connector.InOrder (c : Connector) (Answer : Stream → Nat → Query → Reply → Prop) : Prop :=
  ∀ (h : History) (s : Stream) (r : Reply), (∀ e ∈ h.on s, e.succeeded = true) →
    c.reading h s = .done r →
    ∃ q, (h.written s)[(h.replies s).length]? = some q ∧ Answer s (h.replies s).length q r

theorem succeeded_exchanges (s : Stream) (xs : List (Query × Reply)) :
    ∀ e ∈ exchanges s xs, e.succeeded = true := by
  induction xs with
  | nil => simp [exchanges]
  | cons x rest ih => simpa [exchanges, Event.succeeded] using ih

/-- After whole exchanges, the reply to a query comes from that query and no earlier one. -/
theorem Trip.answer {c : Connector} {Answer : Stream → Nat → Query → Reply → Prop}
    (inOrder : c.InOrder Answer) {h : History} {s : Stream} {q : Query} {es : List Event}
    {r : Reply} (whole : ∃ xs, h.on s = exchanges s xs) (x : Trip c h s q es (.done r)) :
    Answer s (h.written s).length q r := by
  obtain ⟨xs, hxs⟩ := whole
  cases x with
  | answered r hw hr kind =>
    have on_written : History.on (h ++ [.writing s q (.done ())]) s =
        exchanges s xs ++ [.writing s q (.done ())] := by
      rw [on_append, hxs]
      simp [History.on, Event.stream, Event.isOpening]
    have succeeded : ∀ e ∈ History.on (h ++ [.writing s q (.done ())]) s, e.succeeded = true := by
      rw [on_written]
      intro e he
      rcases List.mem_append.1 he with he | he
      · exact succeeded_exchanges s xs e he
      · cases List.mem_singleton.1 he
        rfl
    obtain ⟨q', hq', ha⟩ := inOrder _ s r succeeded hr
    have written : History.written (h ++ [.writing s q (.done ())]) s = xs.map (·.1) ++ [q] := by
      rw [History.written, on_written, List.filterMap_append, queries_exchanges]
      rfl
    have replies : (History.replies (h ++ [.writing s q (.done ())]) s).length = xs.length := by
      rw [History.replies, on_written, List.filterMap_append, replies_exchanges]
      simp [Event.reply?]
    have before : (h.written s).length = xs.length := by
      rw [History.written, hxs, queries_exchanges, List.length_map]
    rw [written, replies, List.getElem?_append_right (by simp)] at hq'
    rw [replies] at ha
    obtain rfl : q = q' := by simpa using hq'
    rw [before]
    exact ha

theorem Exchange.answer {c : Connector} {Answer : Stream → Nat → Query → Reply → Prop}
    (inOrder : c.InOrder Answer) {t t' : Transport} {d : Dialect} {q : Query} {r : Reply}
    (ht : t.Settled) (x : Exchange c t d q (.done r) t') :
    ∃ s, s.dialect = d ∧ t'.history.written s = t.history.written s ++ [q] ∧
      Answer s (t.history.written s).length q r := by
  have add : ∀ (h : History) (s : Stream) (es : List Event), Trip c h s q es (.done r) →
      History.written (h ++ es) s = h.written s ++ [q] := by
    intro h s es trip
    rw [History.written, on_append, trip.on, trip.whole, List.filterMap_append,
      queries_exchanges]
    rfl
  cases x with
  | kept s es o hc hd trip =>
    exact ⟨s, hd, add t.history s es trip, trip.answer inOrder (ht.whole s hc)⟩
  | opened s es o hc hd hs ho trip =>
    have fresh : History.on (t.history ++ [.opening s (.done ())]) s = t.history.on s := by simp
    have written : History.written (t.history ++ [.opening s (.done ())]) s =
        t.history.written s := by rw [History.written, fresh, History.written]
    refine ⟨s, hs ▸ rfl, ?_, ?_⟩
    · rw [← written]
      exact add _ s es trip
    · rw [← written]
      refine trip.answer inOrder ⟨[], ?_⟩
      rw [fresh, hs, ht.on_nextStream]
      rfl

/-! Runs -/

/-- What a caller does with a transport. A send that is given up before its first wait does
nothing; one that is given up later is a send whose connector drops that wait. -/
inductive Transport.Operation where
  | send (q : Query)
  | reset
  | close
  deriving DecidableEq, Repr

def Transport.perform (c : Connector) (t : Transport) : Operation → Transport
  | .send q => (t.send c q).2
  | .reset => t.reset
  | .close => t.close

def Transport.run (c : Connector) (t : Transport) (ops : List Operation) : Transport :=
  ops.foldl (perform c) t

namespace Transport

variable {c : Connector} {t : Transport}

theorem Settled.perform (ht : t.Settled) (op : Operation) : (t.perform c op).Settled := by
  cases op with
  | send q => exact ht.sending (send_cases rfl)
  | reset =>
    simp only [Transport.perform, reset]
    split
    · exact ht
    · exact ⟨ht.numbered, nofun, nofun⟩
  | close => exact ⟨ht.numbered, nofun, nofun⟩

theorem Settled.run (ht : t.Settled) (ops : List Operation) : (t.run c ops).Settled := by
  induction ops generalizing t with
  | nil => exact ht
  | cons op rest ih => exact ih (ht.perform op)

/-- A closed transport asks nothing. -/
theorem send_of_closed (hc : t.connection = .closed) (q : Query) :
    t.send c q = (.failed .closed, t) := by
  have exchange_closed : ∀ d, t.exchange c d q = (.failed .closed, t) := by
    intro d
    simp [exchange, hc]
  cases hd : t.choice <;> simp [send, hd, exchange_closed, QueryError.isUnimplemented]

theorem perform_of_closed (hc : t.connection = .closed) (op : Operation) : t.perform c op = t := by
  cases op with
  | send q => simp [perform, send_of_closed hc]
  | reset => simp [perform, reset, hc]
  | close =>
    cases t
    simp_all [perform, close]

theorem run_of_closed (hc : t.connection = .closed) (ops : List Operation) : t.run c ops = t := by
  induction ops with
  | nil => rfl
  | cons op rest ih =>
    rw [run, List.foldl_cons, perform_of_closed hc]
    exact ih

theorem run_close (t : Transport) (before after : List Operation) :
    t.run c (before ++ .close :: after) = (t.run c before).close := by
  rw [run, List.foldl_append, List.foldl_cons]
  exact run_of_closed rfl after

/-- A send without a reply leaves no open stream. -/
theorem isOpen_of_send {t' : Transport} {q : Query} {o : Outcome QueryError Reply}
    (x : Sending c t q o t') (ho : ∀ r, o ≠ .done r) : t'.isOpen = false := by
  cases x with
  | chosen d o t' hd x => exact x.isOpen_eq_false ho
  | first r => exact absurd rfl (ho r)
  | firstFailed e t₁ hd x he => exact x.isOpen_eq_false ho
  | firstDropped t₁ hd x => exact x.isOpen_eq_false ho
  | second e r => exact absurd rfl (ho r)
  | secondStopped e o t₁ t₂ hd x he y ho => exact y.isOpen_eq_false ho

/-- A reply that a send returns is the reply to the query that this send wrote. -/
theorem answer_of_send {Answer : Stream → Nat → Query → Reply → Prop} (inOrder : c.InOrder Answer)
    (ht : t.Settled) {t' : Transport} {q : Query} {r : Reply} (x : Sending c t q (.done r) t') :
    ∃ s, t'.history.written s = t.history.written s ++ [q] ∧
      Answer s (t.history.written s).length q r := by
  cases x with
  | chosen d o t' hd x =>
    obtain ⟨s, _, hs⟩ := x.answer inOrder ht
    exact ⟨s, hs⟩
  | first r t₁ hd x =>
    obtain ⟨s, _, hs⟩ := x.answer inOrder ht
    exact ⟨s, hs⟩
  | second e r t₁ t₂ hd x he y =>
    obtain ⟨s, hs, hw, ha⟩ := y.answer inOrder (ht.exchange x)
    have same : t₁.history.written s = t.history.written s := by
      rw [History.written, x.on_other (by simp [hs]), History.written]
    rw [same] at hw ha
    exact ⟨s, hw, ha⟩
  | secondStopped e o t₁ t₂ hd x he y ho => exact absurd rfl (ho r)

/-- However sends, resets and closes follow each other and wherever sends are cut off: an open
stream has seen whole exchanges only, a reply is the reply to the query just written, a send
without a reply leaves no stream behind, and nothing leaves a closed transport. -/
theorem sends_are_kept_apart {Answer : Stream → Nat → Query → Reply → Prop}
    (inOrder : c.InOrder Answer) (choice : Option Dialect) (ops : List Operation)
    (h : (ofChoice choice).run c ops = t) :
    (∀ s, t.connection = .streaming s → ∃ xs, t.history.on s = exchanges s xs) ∧
    (∀ q r t', t.send c q = (.done r, t') →
      ∃ s, t'.history.written s = t.history.written s ++ [q] ∧
        Answer s (t.history.written s).length q r) ∧
    (∀ q o t', t.send c q = (o, t') → (∀ r, o ≠ .done r) → t'.isOpen = false) ∧
    ∀ before after, ops = before ++ .close :: after →
      t.history = ((ofChoice choice).run c before).history ∧
      ∀ q, t.send c q = (.failed .closed, t) := by
  have settled : t.Settled := h ▸ (settled_ofChoice choice).run ops
  refine ⟨settled.whole, ?_, ?_, ?_⟩
  · intro q r t' hsend
    exact answer_of_send inOrder settled (send_cases hsend)
  · intro q o t' hsend ho
    exact isOpen_of_send (send_cases hsend) ho
  · rintro before after rfl
    rw [run_close] at h
    subst h
    exact ⟨rfl, send_of_closed rfl⟩

/-! A service that never answers for a file and refuses all else in the words of the query -/

def refusal (q : Query) : Reply :=
  .refused ⟨.unknown, match q with | .symbol name => name | _ => ""⟩

def stalling : Connector where
  opening _ _ := .done ()
  writing _ _ _ := .done ()
  reading h s :=
    match (h.written s)[(h.replies s).length]? with
    | some (.file _) => .dropped
    | some q => .done (refusal q)
    | none => .dropped
  linking _ := .asGiven

theorem stalling_inOrder : stalling.InOrder fun _ _ q r => r = refusal q := by
  intro h s r _ hr
  simp only [stalling] at hr
  cases hq : (h.written s)[(h.replies s).length]? with
  | none => simp [hq] at hr
  | some q => cases q <;> simp_all

/-- A query that stalls takes its stream down, so the next reply is not its own. -/
theorem reply_after_a_stall :
    (((ofChoice none).run stalling [.send (.symbol "a"), .send (.file "b")]).isOpen = false) ∧
    ∃ t' s, ((ofChoice none).run stalling [.send (.symbol "a"), .send (.file "b")]).send stalling
        (.symbol "c") = (.done (refusal (.symbol "c")), t') ∧
      t'.history.written s =
        ((ofChoice none).run stalling
          [.send (.symbol "a"), .send (.file "b")]).history.written s ++ [.symbol "c"] := by
  have first := sends_are_kept_apart stalling_inOrder none [.send (.symbol "a")] rfl
  have both := sends_are_kept_apart stalling_inOrder none
    [.send (.symbol "a"), .send (.file "b")] rfl
  obtain ⟨s, hs, _⟩ := both.2.1 (.symbol "c") (refusal (.symbol "c")) _ rfl
  exact ⟨first.2.2.1 (.file "b") .dropped _ rfl nofun, _, s, rfl, hs⟩

end Transport

end DynamicRpc.Reflection
