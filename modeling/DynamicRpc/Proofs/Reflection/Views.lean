import DynamicRpc.Proofs.Reflection.Negotiation

/-!
What a service sees that knows one dialect. Streams of the other dialect are nothing to it, and its
own it tells apart by the order in which they were opened, whatever numbers a client gives them. So
clients with different histories can look the same to it. An exchange in its dialect ends the same
way for both of them then, and they look the same afterwards.
-/
namespace DynamicRpc.Reflection

/-! Histories as a service sees them -/

/-- The same event on another stream. -/
def Event.mapStream (f : Stream → Stream) : Event → Event
  | .opening s o => .opening (f s) o
  | .writing s q o => .writing (f s) q o
  | .reading s o => .reading (f s) o

theorem Event.mapStream_congr {f g : Stream → Stream} {e : Event} (h : f e.stream = g e.stream) :
    e.mapStream f = e.mapStream g := by
  cases e with
  | opening s o => exact congrArg (Event.opening · o) h
  | writing s q o => exact congrArg (Event.writing · q o) h
  | reading s o => exact congrArg (Event.reading · o) h

@[simp] theorem Event.isOpening_mapStream (f : Stream → Stream) (e : Event) :
    (e.mapStream f).isOpening = e.isOpening := by
  cases e <;> rfl

namespace History

/-- How many streams of its dialect were opened before a stream. -/
def rank (h : History) (s : Stream) : Nat :=
  h.countP fun e => e.isOpening && (e.stream.dialect = s.dialect && e.stream.number < s.number)

/-- A stream by its place among those of its dialect. -/
def seen (h : History) (s : Stream) : Stream := ⟨s.dialect, h.rank s⟩

/-- What a service of a dialect sees. -/
def seenBy (h : History) (d : Dialect) : History :=
  (h.filter (·.stream.dialect = d)).map (·.mapStream h.seen)

/-- Streams are told apart by the number of openings before them. -/
def Numbered (h : History) : Prop := ∀ e ∈ h, e.stream.number < h.openings

/-- An event that can come next: it concerns a stream that was opened before, or opens a new one. -/
structure Next (h : History) (e : Event) : Prop where
  opens : e.isOpening → h.openings ≤ e.stream.number
  known : e.stream.number < History.openings (h ++ [e])

variable {h es : History} {e : Event} {s : Stream} {d : Dialect}

theorem seen_append_other (other : ∀ e ∈ es, e.stream.dialect ≠ s.dialect) :
    History.seen (h ++ es) s = h.seen s := by
  have none : es.countP (fun e => e.isOpening &&
      (e.stream.dialect = s.dialect && e.stream.number < s.number)) = 0 := by
    rw [List.countP_eq_zero]
    intro e he
    simp [other e he]
  rw [seen, rank, List.countP_append, none, Nat.add_zero, seen, rank]

/-- What happens in the other dialect is not seen. -/
theorem seenBy_append_other (other : ∀ e ∈ es, e.stream.dialect ≠ d) :
    History.seenBy (h ++ es) d = h.seenBy d := by
  have none : es.filter (·.stream.dialect = d) = [] := by
    rw [List.filter_eq_nil_iff]
    intro e he
    simpa using other e he
  rw [seenBy, List.filter_append, none, List.append_nil, seenBy]
  refine List.map_congr_left fun e he => Event.mapStream_congr (seen_append_other fun e' he' => ?_)
  have own : e.stream.dialect = d := of_decide_eq_true (List.mem_filter.1 he).2
  rw [own]
  exact other e' he'

/-- A later opening does not change the place of a stream. -/
theorem seen_concat (later : e.isOpening → s.number ≤ e.stream.number) :
    History.seen (h ++ [e]) s = h.seen s := by
  have none : List.countP (fun e => e.isOpening &&
      (e.stream.dialect = s.dialect && e.stream.number < s.number)) [e] = 0 := by
    rw [List.countP_eq_zero]
    intro e' he'
    obtain rfl := List.mem_singleton.1 he'
    simp only [Bool.and_eq_true, decide_eq_true_eq, not_and, Nat.not_lt]
    exact fun opening _ => later opening
  rw [seen, rank, List.countP_append, none, Nat.add_zero, seen, rank]

theorem Next.seen_concat (next : h.Next e) (live : s.number ≤ h.openings) :
    History.seen (h ++ [e]) s = h.seen s :=
  History.seen_concat fun opening => Nat.le_trans live (next.opens opening)

theorem openings_concat_le (h : History) (e : Event) :
    History.openings (h ++ [e]) ≤ h.openings + 1 := by
  rw [openings_append]
  exact Nat.add_le_add_left List.countP_le_length _

/-- What happens in the dialect is seen. -/
theorem seenBy_concat (numbered : h.Numbered) (next : h.Next e) (own : e.stream.dialect = d) :
    History.seenBy (h ++ [e]) d = h.seenBy d ++ [e.mapStream h.seen] := by
  have last : [e].filter (·.stream.dialect = d) = [e] := by simp [own]
  have known : e.stream.number ≤ h.openings := by
    have := next.known
    have := openings_concat_le h e
    omega
  rw [seenBy, List.filter_append, last, List.map_append, seenBy]
  congr 1
  · refine List.map_congr_left fun e' he' => Event.mapStream_congr ?_
    exact next.seen_concat (Nat.le_of_lt (numbered e' (List.mem_filter.1 he').1))
  · rw [List.map_singleton, Event.mapStream_congr (next.seen_concat known)]

theorem Numbered.concat (numbered : h.Numbered) (next : h.Next e) :
    Numbered (h ++ [e]) := by
  intro e' he'
  rcases List.mem_append.1 he' with he' | he'
  · rw [openings_append]
    exact Nat.lt_add_right _ (numbered e' he')
  · rw [List.mem_singleton.1 he']
    exact next.known

theorem next_opening (h : History) (d : Dialect) (o : Outcome QueryError Unit) :
    h.Next (.opening (h.nextStream d) o) where
  opens _ := Nat.le_refl _
  known := by
    rw [openings_append, openings_opening]
    exact Nat.lt_succ_self _

theorem next_of_live (live : e.stream.number < h.openings) (trip : e.isOpening = false) :
    h.Next e where
  opens opening := by simp [trip] at opening
  known := by
    rw [openings_append]
    exact Nat.lt_add_right _ live

/-- A new stream is the next one for the service too. -/
theorem Numbered.seen_nextStream (numbered : h.Numbered) (d : Dialect) :
    h.seen (h.nextStream d) = (h.seenBy d).nextStream d := by
  have count : h.rank (h.nextStream d) = (h.seenBy d).countP Event.isOpening := by
    rw [seenBy, List.countP_map, List.countP_filter]
    refine List.countP_congr fun e he => ?_
    have lt : e.stream.number < (h.nextStream d).number := numbered e he
    simp only [Function.comp_apply, Event.isOpening_mapStream, Bool.and_eq_true, decide_eq_true_eq,
      lt, and_true]
    rfl
  rw [seen, count]
  rfl

end History

/-! Outcomes in step -/

/-- Two operations end in the same way and leave related states. -/
structure Ended.Same (S : σ → σ → Prop) (x y : Ended σ ε α) : Prop where
  outcome : x.1 = y.1
  state : S x.2 y.2

theorem Ended.Same.andThen {S S' : σ → σ → Prop} {x y : Ended σ ε α} {f g : α → σ → Ended σ ε β}
    (same : x.Same S y) (stop : ∀ s t, S s t → S' s t)
    (next : ∀ a s t, S s t → (f a s).Same S' (g a t)) : (x.andThen f).Same S' (y.andThen g) := by
  obtain ⟨o, s⟩ := x
  obtain ⟨o', t⟩ := y
  obtain ⟨rfl : o = o', related⟩ := same
  cases o with
  | done a => exact next a s t related
  | failed e => exact ⟨rfl, stop s t related⟩
  | dropped => exact ⟨rfl, stop s t related⟩

theorem Ended.Same.ends {S : σ → σ → Prop} {x y : Ended σ ε α} (same : x.Same S y) :
    ∃ o s t, x = (o, s) ∧ y = (o, t) ∧ S s t :=
  ⟨x.1, x.2, y.2, rfl, Prod.ext same.outcome.symm rfl, same.state⟩

/-! Clients that look the same -/

/-- On streams of a dialect a service goes by nothing but what it sees in that dialect; and the same
goes for the order in which files are linked. -/
structure Connector.Confined (c : Connector) (d : Dialect) : Prop where
  opening : ∀ h h' s s', s.dialect = d → History.seenBy h d = History.seenBy h' d →
    History.seen h s = History.seen h' s' → c.opening h s = c.opening h' s'
  writing : ∀ h h' s s', s.dialect = d → History.seenBy h d = History.seenBy h' d →
    History.seen h s = History.seen h' s' → ∀ q, c.writing h s q = c.writing h' s' q
  reading : ∀ h h' s s', s.dialect = d → History.seenBy h d = History.seenBy h' d →
    History.seen h s = History.seen h' s' → c.reading h s = c.reading h' s'
  linking : ∀ h h', History.seenBy h d = History.seenBy h' d → c.linking h = c.linking h'

/-- Histories that look the same to a service of a dialect. -/
structure Alike (d : Dialect) (h h' : History) : Prop where
  numbered : h.Numbered
  numbered' : h'.Numbered
  view : h.seenBy d = h'.seenBy d

/-- Streams that look the same to a service of a dialect. -/
structure Twins (d : Dialect) (h h' : History) (s s' : Stream) : Prop where
  dialect : s.dialect = d
  live : s.number < h.openings
  live' : s'.number < h'.openings
  seen : h.seen s = h'.seen s'

variable {c : Connector} {d : Dialect} {h h' : History} {s s' : Stream} {e e' : Event} {q : Query}
  {t t' t₁ : Transport}

theorem Twins.dialect' (twins : Twins d h h' s s') : s'.dialect = d :=
  (congrArg Stream.dialect twins.seen).symm.trans twins.dialect

theorem Alike.concat (alike : Alike d h h') (next : h.Next e) (next' : h'.Next e')
    (own : e.stream.dialect = d) (own' : e'.stream.dialect = d)
    (same : e.mapStream h.seen = e'.mapStream h'.seen) : Alike d (h ++ [e]) (h' ++ [e']) where
  numbered := alike.numbered.concat next
  numbered' := alike.numbered'.concat next'
  view := by
    rw [History.seenBy_concat alike.numbered next own,
      History.seenBy_concat alike.numbered' next' own', alike.view, same]

theorem Twins.concat (twins : Twins d h h' s s') (next : h.Next e) (next' : h'.Next e') :
    Twins d (h ++ [e]) (h' ++ [e']) s s' where
  dialect := twins.dialect
  live := by
    rw [openings_append]
    exact Nat.lt_add_right _ twins.live
  live' := by
    rw [openings_append]
    exact Nat.lt_add_right _ twins.live'
  seen := by
    rw [next.seen_concat (Nat.le_of_lt twins.live), next'.seen_concat (Nat.le_of_lt twins.live'),
      twins.seen]

theorem Alike.seen_nextStream (alike : Alike d h h') :
    h.seen (h.nextStream d) = h'.seen (h'.nextStream d) := by
  rw [alike.numbered.seen_nextStream, alike.numbered'.seen_nextStream, alike.view]

/-- An exchange that failed has left no stream. -/
theorem Exchange.idle_of_failed {e : QueryError} (x : Exchange c t d q (.failed e) t')
    (usable : t.connection ≠ .closed) : t'.connection = .idle := by
  cases x with
  | closed hc => exact absurd hc usable
  | kept => rfl
  | openFailed => rfl
  | opened => rfl

/-- Connections that look the same. -/
inductive Joined (d : Dialect) (h h' : History) : Connection → Connection → Prop where
  | idle : Joined d h h' .idle .idle
  | closed : Joined d h h' .closed .closed
  | streaming (s s' : Stream) (twins : Twins d h h' s s') :
    Joined d h h' (.streaming s) (.streaming s')

namespace Transport

/-- Two clients that look the same to a service of a dialect. -/
structure Parallel (d : Dialect) (t t' : Transport) : Prop where
  histories : Alike d t.history t'.history
  connections : Joined d t.history t'.history t.connection t'.connection

theorem Parallel.idle (p : Parallel d t t') (idle : t.connection = .idle) :
    t'.connection = .idle := by
  have joined := p.connections
  rw [idle] at joined
  generalize t'.connection = connection at joined ⊢
  cases joined
  rfl

theorem Parallel.closed (p : Parallel d t t') (closed : t.connection = .closed) :
    t'.connection = .closed := by
  have joined := p.connections
  rw [closed] at joined
  generalize t'.connection = connection at joined ⊢
  cases joined
  rfl

/-- Two clients in the middle of an exchange. -/
structure Midway (d : Dialect) (s s' : Stream) (t t' : Transport) : Prop where
  histories : Alike d t.history t'.history
  streams : Twins d t.history t'.history s s'
  idle : t.connection = .idle
  idle' : t'.connection = .idle

theorem Midway.parallel (m : Midway d s s' t t') : Parallel d t t' where
  histories := m.histories
  connections := by
    rw [m.idle, m.idle']
    exact .idle

/-- A wait on the open streams that ends the same way. -/
theorem Midway.record (m : Midway d s s' t t') (wait : Stream → Event)
    (stream : ∀ s, (wait s).stream = s) (trip : ∀ s, (wait s).isOpening = false)
    (map : ∀ f s, (wait s).mapStream f = wait (f s)) :
    Midway d s s' (t.record (wait s)) (t'.record (wait s')) := by
  have next : t.history.Next (wait s) :=
    History.next_of_live (by rw [stream]; exact m.streams.live) (trip s)
  have next' : t'.history.Next (wait s') :=
    History.next_of_live (by rw [stream]; exact m.streams.live') (trip s')
  refine ⟨m.histories.concat next next' ?_ ?_ ?_, m.streams.concat next next', m.idle, m.idle'⟩
  · rw [stream, m.streams.dialect]
  · rw [stream, m.streams.dialect']
  · rw [map, map, m.streams.seen]

theorem write_same (confined : c.Confined d) (m : Midway d s s' t t') :
    (t.write c s q).Same (Midway d s s') (t'.write c s' q) := by
  have same := confined.writing _ _ s s' m.streams.dialect m.histories.view m.streams.seen q
  rw [write, write, same]
  exact ⟨rfl, m.record (.writing · q _) (fun _ => rfl) (fun _ => rfl) fun _ _ => rfl⟩

theorem read_same (confined : c.Confined d) (m : Midway d s s' t t') :
    (t.read c s).Same (Midway d s s') (t'.read c s') := by
  have same := confined.reading _ _ s s' m.streams.dialect m.histories.view m.streams.seen
  rw [read, read, same]
  exact ⟨rfl, m.record (.reading · _) (fun _ => rfl) (fun _ => rfl) fun _ _ => rfl⟩

theorem roundTrip_same (confined : c.Confined d) (m : Midway d s s' t t') :
    (t.roundTrip c s q).Same (Parallel d) (t'.roundTrip c s' q) := by
  refine (write_same confined m).andThen (fun _ _ m => m.parallel) fun _ t t' m => ?_
  refine (read_same confined m).andThen (fun _ _ m => m.parallel) fun reply t t' m => ?_
  split
  next => exact ⟨rfl, m.histories, .streaming s s' m.streams⟩
  next => exact ⟨rfl, m.parallel⟩

/-- Clients that look the same open streams that look the same. -/
theorem opening_midway (alike : Alike d t.history t'.history) (idle : t.connection = .idle)
    (idle' : t'.connection = .idle) (o : Outcome QueryError Unit) :
    Midway d (t.history.nextStream d) (t'.history.nextStream d)
      (t.record (.opening (t.history.nextStream d) o))
      (t'.record (.opening (t'.history.nextStream d) o)) := by
  have next := History.next_opening t.history d o
  have next' := History.next_opening t'.history d o
  -- The new streams have the same number of openings in the dialect before them.
  have seen := alike.seen_nextStream
  refine ⟨alike.concat next next' rfl rfl (by simp only [Event.mapStream, seen]), ?_, idle, idle'⟩
  refine ⟨rfl, next.known, next'.known, ?_⟩
  exact ((next.seen_concat (Nat.le_refl _)).trans seen).trans
    (next'.seen_concat (Nat.le_refl _)).symm

theorem openStream_same (confined : c.Confined d) (alike : Alike d t.history t'.history)
    (idle : t.connection = .idle) (idle' : t'.connection = .idle) :
    ((t.openStream c d).andThen fun s t => t.roundTrip c s q).Same (Parallel d)
      ((t'.openStream c d).andThen fun s t => t.roundTrip c s q) := by
  have same := confined.opening _ _ _ _ rfl alike.view alike.seen_nextStream
  simp only [openStream, same]
  generalize c.opening t'.history (t'.history.nextStream d) = o
  have m := opening_midway alike idle idle' o
  cases o with
  | done => exact roundTrip_same confined m
  | failed e => exact ⟨rfl, m.parallel⟩
  | dropped => exact ⟨rfl, m.parallel⟩

/-- An exchange in the dialect of the service ends the same for clients that look the same. -/
theorem exchange_same (confined : c.Confined d) (p : Parallel d t t') :
    (t.exchange c d q).Same (Parallel d) (t'.exchange c d q) := by
  obtain ⟨choice, connection, history⟩ := t
  obtain ⟨choice', connection', history'⟩ := t'
  obtain ⟨alike, joined⟩ := p
  cases joined with
  | idle => exact openStream_same confined alike rfl rfl
  | closed => exact ⟨rfl, alike, .closed⟩
  | streaming s s' twins =>
    simp only [exchange, twins.dialect, twins.dialect', if_true]
    exact roundTrip_same confined ⟨alike, twins, rfl, rfl⟩

/-- An exchange in the other dialect that fails is not seen. -/
theorem Parallel.other {d' : Dialect} {e : QueryError} (p : Parallel d t t')
    (idle : t.connection = .idle) (x : Exchange c t d' q (.failed e) t₁) (other : d' ≠ d) :
    Parallel d t₁ t' := by
  have settled : t.Settled := ⟨p.histories.numbered, by simp [idle], by simp [idle]⟩
  obtain ⟨es, split, dialect⟩ := x.extends
  have unseen : t₁.history.seenBy d = t.history.seenBy d := by
    rw [split]
    exact History.seenBy_append_other fun e he => dialect e he ▸ other
  refine ⟨⟨(settled.exchange x).numbered, p.histories.numbered', unseen.trans p.histories.view⟩, ?_⟩
  rw [x.idle_of_failed (by simp [idle]), p.idle idle]
  exact .idle

end Transport

end DynamicRpc.Reflection
