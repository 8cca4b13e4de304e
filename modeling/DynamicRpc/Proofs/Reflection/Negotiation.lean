import DynamicRpc.Proofs.Reflection.Streams

/-!
How a client settles on a dialect. A send is made of exchanges, each in one dialect. While no
dialect is chosen, a send starts with the newer one and goes on to the older one only if the service
says that it does not know the newer. The first reply settles the choice; from then on every stream
speaks the chosen dialect, and the other one is left alone.
-/
namespace DynamicRpc.Reflection

/-! Exchanges as a service sees them -/

/-- An exchange: its stream, its waits and what came back. -/
structure Attempt where
  stream : Stream
  waits : List Event
  outcome : Outcome QueryError Reply

namespace Attempt

def dialect (a : Attempt) : Dialect := a.stream.dialect

/-- The service does not know the dialect, or says so of the query. -/
def Unimplemented (a : Attempt) : Prop :=
  ∃ s, a.outcome = .failed (.status s) ∧ s.code = .unimplemented

/-- The waits are those of one exchange about a query: a stream is opened unless one is kept, and
then there is a round trip on it. -/
inductive Whole (c : Connector) (h : History) (q : Query) : Attempt → Prop where
  | unopened (s : Stream) (e : QueryError) (ho : c.opening h s = .failed e) :
    Whole c h q ⟨s, [.opening s (.failed e)], .failed e⟩
  | givenUp (s : Stream) (ho : c.opening h s = .dropped) :
    Whole c h q ⟨s, [.opening s .dropped], .dropped⟩
  | kept (s : Stream) (es : List Event) (o : Outcome QueryError Reply)
    (trip : Trip c h s q es o) : Whole c h q ⟨s, es, o⟩
  | opened (s : Stream) (es : List Event) (o : Outcome QueryError Reply)
    (ho : c.opening h s = .done ()) (trip : Trip c (h ++ [.opening s (.done ())]) s q es o) :
    Whole c h q ⟨s, .opening s (.done ()) :: es, o⟩

end Attempt

/-- Exchanges about a query that follow a history, one after the other. -/
inductive Attempts (c : Connector) (q : Query) : History → List Attempt → Prop where
  | nil (h : History) : Attempts c q h []
  | cons (h : History) (a : Attempt) (rest : List Attempt) (whole : a.Whole c h q)
    (more : Attempts c q (h ++ a.waits) rest) : Attempts c q h (a :: rest)

variable {c : Connector} {t t₁ t' : Transport} {d : Dialect} {q : Query}
  {o : Outcome QueryError Reply} {a b : Attempt}

/-- An exchange on a transport that is not closed is an attempt. -/
theorem Exchange.attempt (x : Exchange c t d q o t') (usable : t.connection ≠ .closed) :
    ∃ a : Attempt, a.Whole c t.history q ∧ a.dialect = d ∧ a.outcome = o ∧
      t'.history = t.history ++ a.waits := by
  cases x with
  | closed hc => exact absurd hc usable
  | kept s es o hc hd trip => exact ⟨_, .kept s es o trip, hd, rfl, rfl⟩
  | openFailed e hc hd ho => exact ⟨_, .unopened _ e ho, rfl, rfl, rfl⟩
  | openDropped hc hd ho => exact ⟨_, .givenUp _ ho, rfl, rfl, rfl⟩
  | opened s es o hc hd hs ho trip =>
    refine ⟨_, .opened s es o ho trip, ?_, rfl, by simp⟩
    rw [Attempt.dialect, hs]
    rfl

theorem Exchange.choice (x : Exchange c t d q o t') : t'.choice = t.choice := by
  cases x <;> rfl

theorem Exchange.not_closed (x : Exchange c t d q o t') (usable : t.connection ≠ .closed) :
    t'.connection ≠ .closed := by
  cases x with
  | closed hc => exact absurd hc usable
  | kept s es o hc hd trip => cases o <;> nofun
  | openFailed e hc hd ho => nofun
  | openDropped hc hd ho => nofun
  | opened s es o hc hd hs ho trip => cases o <;> nofun

/-- The stream that an exchange leaves open is of its dialect, and has just brought a reply. -/
theorem Exchange.streaming (x : Exchange c t d q o t') {s : Stream}
    (left : t'.connection = .streaming s) : s.dialect = d ∧ ∃ r, o = .done r := by
  cases x with
  | closed hc => cases hc.symm.trans left
  | kept s' es o hc hd trip =>
    cases o <;> cases left
    exact ⟨hd, _, rfl⟩
  | openFailed e hc hd ho => cases left
  | openDropped hc hd ho => cases left
  | opened s' es o hc hd hs ho trip =>
    cases o <;> cases left
    exact ⟨hs ▸ rfl, _, rfl⟩

theorem QueryError.isUnimplemented_iff {e : QueryError} : e.isUnimplemented = true ↔
    ∃ s, e = .status s ∧ s.code = .unimplemented := by
  cases e <;> simp [isUnimplemented]

/-! What a send shows -/

/-- The exchanges of a send, and what they come to. -/
structure Sent (c : Connector) (q : Query) (t : Transport) (o : Outcome QueryError Reply)
    (t' : Transport) (attempts : List Attempt) : Prop where
  made : Attempts c q t.history attempts
  waits : t'.history = t.history ++ attempts.flatMap (·.waits)
  /-- There is at most one exchange in each dialect. -/
  once : (attempts.map (·.dialect)).Nodup
  /-- The send ends like its last exchange. -/
  ending : attempts.getLast?.map (·.outcome) = some o
  /-- A chosen dialect stays chosen, and the other one is not touched. -/
  kept : ∀ d, t.choice = some d → t'.choice = some d ∧ ∀ a ∈ attempts, a.dialect = d
  newerFirst : t.choice = none → attempts.head?.map (·.dialect) = some .v1
  fallback : t.choice = none → ((∃ a ∈ attempts, a.dialect = .v1alpha) ↔
    ∃ a ∈ attempts, a.dialect = .v1 ∧ a.Unimplemented)
  /-- The choice falls on a dialect exactly when the last exchange read a reply in it. -/
  settled : t.choice = none → ∀ d, t'.choice = some d ↔
    ∃ a ∈ attempts.getLast?, a.dialect = d ∧ ∃ r, a.outcome = .done r

/-- A send of one exchange in the chosen dialect. -/
theorem Sent.chosen (whole : a.Whole c t.history q) (hd : t.choice = some a.dialect)
    (choice : t'.choice = t.choice) (waits : t'.history = t.history ++ a.waits) :
    Sent c q t a.outcome t' [a] where
  made := .cons _ a [] whole (.nil _)
  waits := by simpa using waits
  once := by simp
  ending := rfl
  kept := by
    intro d chosen
    obtain rfl := Option.some.inj (hd.symm.trans chosen)
    exact ⟨choice.trans hd, fun b hb => by rw [List.mem_singleton.1 hb]⟩
  newerFirst none := by cases none.symm.trans hd
  fallback none := by cases none.symm.trans hd
  settled none := by cases none.symm.trans hd

/-- A send of one exchange while there is no choice. -/
theorem Sent.first (whole : a.Whole c t.history q) (hd : t.choice = none)
    (newer : a.dialect = .v1) (known : ¬ a.Unimplemented)
    (choice : ∀ d, t'.choice = some d ↔ d = .v1 ∧ ∃ r, a.outcome = .done r)
    (waits : t'.history = t.history ++ a.waits) : Sent c q t a.outcome t' [a] where
  made := .cons _ a [] whole (.nil _)
  waits := by simpa using waits
  once := by simp
  ending := rfl
  kept d chosen := by cases hd.symm.trans chosen
  newerFirst _ := by simp [newer]
  fallback _ := by simp [newer, known]
  settled _ d := by simp [choice, newer, eq_comm]

/-- A send of two exchanges: the service did not know the newer dialect. -/
theorem Sent.second (whole : a.Whole c t.history q) (whole' : b.Whole c (t.history ++ a.waits) q)
    (hd : t.choice = none) (newer : a.dialect = .v1) (older : b.dialect = .v1alpha)
    (unknown : a.Unimplemented)
    (choice : ∀ d, t'.choice = some d ↔ d = .v1alpha ∧ ∃ r, b.outcome = .done r)
    (waits : t'.history = t.history ++ a.waits ++ b.waits) : Sent c q t b.outcome t' [a, b] where
  made := .cons _ a [b] whole (.cons _ b [] whole' (.nil _))
  waits := by simpa using waits
  once := by simp [newer, older]
  ending := rfl
  kept d chosen := by cases hd.symm.trans chosen
  newerFirst _ := by simp [newer]
  fallback _ := by simp [newer, older, unknown]
  settled _ d := by simp [choice, older, eq_comm]

/-- On a transport that is not closed a send is made of whole exchanges. -/
theorem Sending.sent (x : Sending c t q o t') (usable : t.connection ≠ .closed) :
    ∃ attempts, Sent c q t o t' attempts := by
  cases x with
  | chosen d o t' hd x =>
    obtain ⟨a, whole, rfl, rfl, waits⟩ := x.attempt usable
    exact ⟨[a], .chosen whole hd x.choice waits⟩
  | first r t₁ hd x =>
    obtain ⟨a, whole, newer, done, waits⟩ := x.attempt usable
    have known : ¬ a.Unimplemented := by
      rintro ⟨s, failed, _⟩
      cases done.symm.trans failed
    rw [← done]
    exact ⟨[a], .first whole hd newer known (by simp [done, eq_comm]) waits⟩
  | firstFailed e t₁ hd x he =>
    obtain ⟨a, whole, newer, failed, waits⟩ := x.attempt usable
    have known : ¬ a.Unimplemented := by
      rintro ⟨s, status, code⟩
      cases failed.symm.trans status
      rw [QueryError.isUnimplemented_iff.2 ⟨s, rfl, code⟩] at he
      cases he
    rw [← failed]
    exact ⟨[a], .first whole hd newer known (by simp [failed, x.choice, hd]) waits⟩
  | firstDropped t₁ hd x =>
    obtain ⟨a, whole, newer, dropped, waits⟩ := x.attempt usable
    have known : ¬ a.Unimplemented := by
      rintro ⟨s, failed, _⟩
      cases dropped.symm.trans failed
    rw [← dropped]
    exact ⟨[a], .first whole hd newer known (by simp [dropped, x.choice, hd]) waits⟩
  | second e r t₁ t₂ hd x he y =>
    obtain ⟨a, whole, newer, failed, waits⟩ := x.attempt usable
    obtain ⟨b, whole', older, done, waits'⟩ := y.attempt (x.not_closed usable)
    obtain ⟨s, rfl, code⟩ := QueryError.isUnimplemented_iff.1 he
    rw [waits] at whole' waits'
    rw [← done]
    exact ⟨[a, b], .second whole whole' hd newer older ⟨s, failed, code⟩
      (by simp [done, eq_comm]) waits'⟩
  | secondStopped e o t₁ t₂ hd x he y stopped =>
    obtain ⟨a, whole, newer, failed, waits⟩ := x.attempt usable
    obtain ⟨b, whole', older, rfl, waits'⟩ := y.attempt (x.not_closed usable)
    obtain ⟨s, rfl, code⟩ := QueryError.isUnimplemented_iff.1 he
    rw [waits] at whole' waits'
    exact ⟨[a, b], .second whole whole' hd newer older ⟨s, failed, code⟩
      (by simp [y.choice, x.choice, hd, stopped]) waits'⟩

/-! The choice over a run -/

namespace Transport

/-- An open stream speaks the chosen dialect. -/
def Speaks (t : Transport) : Prop := ∀ s, t.connection = .streaming s → t.choice = some s.dialect

theorem speaks_ofChoice (choice : Option Dialect) : (ofChoice choice).Speaks := nofun

theorem Speaks.sending (x : Sending c t q o t') : t'.Speaks := by
  intro s left
  cases x with
  | chosen d o t' hd x =>
    obtain ⟨rfl, _⟩ := x.streaming left
    exact x.choice.trans hd
  | first r t₁ hd x => rw [(x.streaming left).1]
  | firstFailed e t₁ hd x he =>
    obtain ⟨_, _, done⟩ := x.streaming left
    cases done
  | firstDropped t₁ hd x =>
    obtain ⟨_, _, done⟩ := x.streaming left
    cases done
  | second e r t₁ t₂ hd x he y => rw [(y.streaming left).1]
  | secondStopped e o t₁ t₂ hd x he y stopped =>
    obtain ⟨_, r, done⟩ := y.streaming left
    exact absurd done (stopped r)

theorem choice_reset (t : Transport) : t.reset.choice = t.choice := by
  unfold reset
  split <;> rfl

theorem Speaks.perform (speaks : t.Speaks) (op : Operation) : (t.perform c op).Speaks := by
  cases op with
  | send q => exact .sending (send_cases rfl)
  | reset =>
    simp only [Transport.perform, reset]
    split
    · exact speaks
    · rintro s ⟨⟩
  | close => rintro s ⟨⟩

theorem Speaks.run (speaks : t.Speaks) (ops : List Operation) : (t.run c ops).Speaks := by
  induction ops generalizing t with
  | nil => exact speaks
  | cons op rest ih => exact ih (speaks.perform op)

/-- A chosen dialect is kept by every operation. -/
theorem choice_perform (hd : t.choice = some d) (op : Operation) :
    (t.perform c op).choice = some d := by
  cases op with
  | send q =>
    by_cases closed : t.connection = .closed
    · rwa [Transport.perform, send_of_closed closed]
    · obtain ⟨attempts, sent⟩ := (send_cases (c := c) (q := q) rfl).sent closed
      exact (sent.kept d hd).1
  | reset => exact (choice_reset t).trans hd
  | close => exact hd

theorem choice_run (hd : t.choice = some d) (ops : List Operation) :
    (t.run c ops).choice = some d := by
  induction ops generalizing t with
  | nil => exact hd
  | cons op rest ih => exact ih (choice_perform hd op)

/-- However sends, resets and closes follow each other and wherever sends are cut off: a chosen
dialect stays chosen and is what an open stream speaks; only a send can choose, by a reply that it
read in that dialect; and a send makes one exchange in the chosen dialect, or one in the newer and,
exactly if the service does not know that, one more in the older, of which the last decides. -/
theorem dialect_is_settled_once (choice : Option Dialect) (ops : List Operation)
    (h : (ofChoice choice).run c ops = t) :
    (∀ d, t.choice = some d → ∀ more, (t.run c more).choice = some d) ∧
    (∀ s, t.connection = .streaming s → t.choice = some s.dialect) ∧
    (t.reset.choice = t.choice ∧ t.close.choice = t.choice) ∧
    ∀ q o t', t.send c q = (o, t') →
      (t.connection = .closed → o = .failed .closed ∧ t' = t) ∧
      (t.connection ≠ .closed → ∃ attempts, Sent c q t o t' attempts) := by
  refine ⟨fun d hd more => choice_run hd more, ?_, ⟨choice_reset t, rfl⟩, ?_⟩
  · exact h ▸ (speaks_ofChoice choice).run ops
  · intro q o t' sent
    constructor
    · intro closed
      cases (send_of_closed closed q).symm.trans sent
      exact ⟨rfl, rfl⟩
    · exact (send_cases sent).sent

/-! A service of the older generation that refuses all queries -/

/-- Streams of the newer dialect cannot be opened. -/
def elder : Connector where
  opening _ s :=
    match s.dialect with
    | .v1 => .failed (.status ⟨.unimplemented, "no v1"⟩)
    | .v1alpha => .done ()
  writing _ _ _ := .done ()
  reading _ _ := .done (.refused ⟨.notFound, ""⟩)
  linking _ := .asGiven

/-- After a reset and a first query in both dialects, the second query is asked in the older dialect
only, also if the stream was dropped before. -/
theorem elder_is_asked_in_its_dialect :
    ((ofChoice none).run elder [.reset, .send .services]).choice = some .v1alpha ∧
    ∃ t' attempts, Sent elder (.symbol "a") ((ofChoice none).run elder [.reset, .send .services,
        .reset]) (.done (.refused ⟨.notFound, ""⟩)) t' attempts ∧
      ∀ a ∈ attempts, a.dialect = .v1alpha := by
  have first := dialect_is_settled_once (c := elder) none [.reset, .send .services] rfl
  have second := dialect_is_settled_once (c := elder) none [.reset, .send .services, .reset] rfl
  obtain ⟨attempts, sent⟩ := (second.2.2.2 (.symbol "a") _ _ rfl).2 nofun
  exact ⟨first.1 .v1alpha rfl [], _, attempts, sent, (sent.kept .v1alpha rfl).2⟩

end Transport

end DynamicRpc.Reflection
