import DynamicRpc.Proofs.Reflection.LastWait
import DynamicRpc.Proofs.Reflection.Operations

/-!
Services that answer a query in the same way each time. All that a client gets back for a query is
then the one answer, or an outcome that the client made up itself; and a reply of the right kind
always comes through, as long as the transport is not closed.
-/
namespace DynamicRpc.Reflection

/-- A service whose answer depends on nothing but the query. -/
def Connector.replying (answer : Query → Outcome QueryError Reply) : Connector where
  opening _ _ := .done ()
  writing _ _ _ := .done ()
  reading h _ :=
    match h.getLast? with
    | some (.writing _ q _) => answer q
    | _ => .dropped
  linking _ := .asGiven

/-- An outcome that comes from the client itself. -/
def Outcome.Local (o : Outcome QueryError Reply) : Prop :=
  o = .failed .closed ∨ ∃ what, o = .failed (.unexpected what)

variable {answer : Query → Outcome QueryError Reply} {h : History} {s : Stream} {d : Dialect}
  {q : Query} {es : List Event} {o : Outcome QueryError Reply} {t t' : Transport}

theorem reading_replying :
    (Connector.replying answer).reading (h ++ [.writing s q (.done ())]) s = answer q := by
  simp only [Connector.replying, List.getLast?_concat]

theorem Trip.eq_answer (x : Trip (.replying answer) h s q es o) : o = answer q ∨ o.Local := by
  cases x with
  | writeFailed e hw => cases hw
  | writeDropped hw => cases hw
  | readFailed e hw hr => exact .inl (hr.symm.trans reading_replying)
  | readDropped hw hr => exact .inl (hr.symm.trans reading_replying)
  | mismatched r hw hr kind => exact .inr (.inr ⟨_, rfl⟩)
  | answered r hw hr kind => exact .inl (hr.symm.trans reading_replying)

theorem Exchange.eq_answer (x : Exchange (.replying answer) t d q o t') :
    o = answer q ∨ o.Local := by
  cases x with
  | closed hc => exact .inr (.inl rfl)
  | kept s es o hc hd trip => exact trip.eq_answer
  | openFailed e hc hd ho => cases ho
  | openDropped hc hd ho => cases ho
  | opened s es o hc hd hs ho trip => exact trip.eq_answer

/-- All that comes back for a query is the answer to it. -/
theorem Connector.Answers.eq_answer (x : (replying answer).Answers q o) :
    o = answer q ∨ o.Local := by
  obtain ⟨t, t', _, h⟩ := x
  cases Transport.send_cases h with
  | chosen d o t' hd x => exact x.eq_answer
  | first r t₁ hd x => exact x.eq_answer
  | firstFailed e t₁ hd x he => exact x.eq_answer
  | firstDropped t₁ hd x => exact x.eq_answer
  | second e r t₁ t₂ hd x he y => exact y.eq_answer
  | secondStopped e o t₁ t₂ hd x he y ho => exact y.eq_answer

theorem Connector.Answers.eq_answer_of_done {r : Reply}
    (x : (replying answer).Answers q (.done r)) : answer q = .done r := by
  refine (x.eq_answer.resolve_right ?_).symm
  rintro (h | ⟨what, h⟩) <;> cases h

/-- A transport that has just read a reply. -/
def Transport.Heard (t : Transport) (r : Reply) : Prop :=
  ∃ s, t.connection = .streaming s ∧ t.history.getLast? = some (.reading s (.done r))

theorem Transport.Heard.not_closed {r : Reply} (heard : t.Heard r) : t.connection ≠ .closed := by
  obtain ⟨s, hc, _⟩ := heard
  rw [hc]
  exact nofun

theorem Transport.Heard.endsWithFiles {encoded : List Bytes} (heard : t.Heard (.files encoded)) :
    t.history.EndsWithFiles := by
  obtain ⟨s, _, last⟩ := heard
  exact ⟨s, encoded, last⟩

variable {r : Reply}

/-- A reply of the right kind comes through. -/
theorem Trip.replied (x : Trip (.replying answer) h s q es o) (ha : answer q = .done r)
    (kind : r.answers q = true) : o = .done r ∧ ∃ es', es = es' ++ [.reading s (.done r)] := by
  cases x with
  | writeFailed e hw => cases hw
  | writeDropped hw => cases hw
  | readFailed e hw hr => cases hr.symm.trans (reading_replying.trans ha)
  | readDropped hw hr => cases hr.symm.trans (reading_replying.trans ha)
  | mismatched r' hw hr kind' =>
    cases hr.symm.trans (reading_replying.trans ha)
    cases kind.symm.trans kind'
  | answered r' hw hr kind' =>
    cases hr.symm.trans (reading_replying.trans ha)
    exact ⟨rfl, [_], rfl⟩

theorem Exchange.replied (x : Exchange (.replying answer) t d q o t')
    (hc : t.connection ≠ .closed) (ha : answer q = .done r) (kind : r.answers q = true) :
    o = .done r ∧ t'.Heard r := by
  cases x with
  | closed hc' => exact absurd hc' hc
  | kept s es o hc hd trip =>
    obtain ⟨rfl, es, rfl⟩ := trip.replied ha kind
    exact ⟨rfl, s, rfl, by rw [← List.append_assoc, List.getLast?_concat]⟩
  | openFailed e hc hd ho => cases ho
  | openDropped hc hd ho => cases ho
  | opened s es o hc hd hs ho trip =>
    obtain ⟨rfl, es, rfl⟩ := trip.replied ha kind
    exact ⟨rfl, s, rfl, by rw [← List.append_assoc, List.getLast?_concat]⟩

theorem Transport.send_replied (sent : t.send (.replying answer) q = (o, t'))
    (hc : t.connection ≠ .closed) (ha : answer q = .done r) (kind : r.answers q = true) :
    o = .done r ∧ t'.Heard r := by
  cases send_cases sent with
  | chosen d o t' hd x => exact x.replied hc ha kind
  | first r' t₁ hd x => exact x.replied hc ha kind
  | firstFailed e t₁ hd x he => cases (x.replied hc ha kind).1
  | firstDropped t₁ hd x => cases (x.replied hc ha kind).1
  | second e r' t₁ t₂ hd x he y => cases (x.replied hc ha kind).1
  | secondStopped e o t₁ t₂ hd x he y ho => cases (x.replied hc ha kind).1

/-- Files that are the answer to a query are fetched. -/
theorem Fetching.replied {r r' : Resolver} {o : Outcome ResolveError (List Bytes)}
    {encoded : List Bytes} (x : Fetching (.replying answer) r q o r')
    (hc : r.transport.connection ≠ .closed) (ha : answer q = .done (.files encoded))
    (hq : q ≠ .services) : o = .done encoded ∧ r'.transport.Heard (.files encoded) ∧
      r' = { r with transport := r'.transport } := by
  have kind : (Reply.files encoded).answers q = true := by simpa [Reply.answers] using hq
  cases x with
  | files encoded t h =>
    obtain ⟨⟨⟩, heard⟩ := Transport.send_replied h hc ha kind
    exact ⟨rfl, heard, rfl⟩
  | refused o s t h ho =>
    obtain ⟨rfl, _⟩ := Transport.send_replied h hc ha kind
    rcases ho with ho | ho <;> cases ho
  | broken e t h he => cases (Transport.send_replied h hc ha kind).1
  | services names t h => cases (Transport.send_replied h hc ha kind).1
  | dropped t h => cases (Transport.send_replied h hc ha kind).1

end DynamicRpc.Reflection
