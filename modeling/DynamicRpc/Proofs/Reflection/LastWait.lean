import DynamicRpc.Proofs.Reflection.Exchange

/-!
What the last wait tells. A query that brings no files leaves a history that does not end with the
arrival of files, unless the transport was closed and there was no wait at all.
-/
namespace DynamicRpc.Reflection

/-- The last wait brought files. -/
def History.EndsWithFiles (h : History) : Prop :=
  ∃ s encoded, h.getLast? = some (.reading s (.done (.files encoded)))

variable {c : Connector} {t t' : Transport} {h : History} {s : Stream} {d : Dialect} {q : Query}
  {es : List Event} {o : Outcome QueryError Reply}

theorem not_endsWithFiles {e : Event}
    (other : ∀ s encoded, e ≠ .reading s (.done (.files encoded))) :
    ¬ History.EndsWithFiles (h ++ [e]) := by
  rintro ⟨s, encoded, last⟩
  rw [List.getLast?_concat] at last
  exact other s encoded (Option.some.inj last)

/-- A round trip that brings no files. -/
theorem Trip.not_endsWithFiles (x : Trip c h s q es o) (hq : q ≠ .services)
    (ho : ∀ encoded, o ≠ .done (.files encoded)) : ¬ History.EndsWithFiles (h ++ es) := by
  cases x with
  | writeFailed e hw => exact Reflection.not_endsWithFiles nofun
  | writeDropped hw => exact Reflection.not_endsWithFiles nofun
  | readFailed e hw hr =>
    rw [List.append_cons]
    exact Reflection.not_endsWithFiles nofun
  | readDropped hw hr =>
    rw [List.append_cons]
    exact Reflection.not_endsWithFiles nofun
  | mismatched r hw hr kind =>
    rw [List.append_cons]
    refine Reflection.not_endsWithFiles ?_
    rintro _ _ ⟨⟩
    simp [Reply.answers, hq] at kind
  | answered r hw hr kind =>
    rw [List.append_cons]
    refine Reflection.not_endsWithFiles ?_
    rintro _ encoded ⟨⟩
    exact ho encoded rfl

theorem Trip.events_ne_nil (x : Trip c h s q es o) : es ≠ [] := by
  cases x <;> exact List.cons_ne_nil _ _

theorem Exchange.not_endsWithFiles (x : Exchange c t d q o t') (hq : q ≠ .services)
    (ho : ∀ encoded, o ≠ .done (.files encoded)) (reachable : o ≠ .failed .closed) :
    ¬ t'.history.EndsWithFiles := by
  cases x with
  | closed => exact absurd rfl reachable
  | kept s es o hc hd trip => exact trip.not_endsWithFiles hq ho
  | openFailed e hc hd ho => exact Reflection.not_endsWithFiles nofun
  | openDropped hc hd ho => exact Reflection.not_endsWithFiles nofun
  | opened s es o hc hd hs hopen trip => exact trip.not_endsWithFiles hq ho

theorem Exchange.grows (x : Exchange c t d q o t') :
    t.history.length < t'.history.length ∨ o = .failed .closed ∧ t' = t := by
  cases x with
  | closed => exact .inr ⟨rfl, rfl⟩
  | kept s es o hc hd trip =>
    have := List.length_pos_iff.2 trip.events_ne_nil
    exact .inl (by rw [List.length_append]; omega)
  | openFailed e hc hd ho => exact .inl (by simp)
  | openDropped hc hd ho => exact .inl (by simp)
  | opened s es o hc hd hs ho trip => exact .inl (by simp)

theorem Exchange.length_le (x : Exchange c t d q o t') :
    t.history.length ≤ t'.history.length := by
  rcases x.grows with grows | ⟨_, rfl⟩
  · omega
  · exact Nat.le_refl _

/-- A service that does not know the dialect was asked. -/
theorem Exchange.grows_of_unimplemented {e : QueryError} (x : Exchange c t d q (.failed e) t')
    (he : e.isUnimplemented = true) : t.history.length < t'.history.length := by
  refine x.grows.resolve_right ?_
  rintro ⟨closed, _⟩
  cases closed
  cases he

namespace Transport

theorem history_reset (t : Transport) : t.reset.history = t.history := by
  unfold reset
  split <;> rfl

/-- A query without files is the last wait to be seen. -/
theorem send_not_endsWithFiles (h : t.send c q = (o, t')) (hq : q ≠ .services)
    (ho : ∀ encoded, o ≠ .done (.files encoded)) (reachable : o ≠ .failed .closed) :
    ¬ t'.history.EndsWithFiles := by
  cases send_cases h with
  | chosen d o t' hd x => exact x.not_endsWithFiles hq ho reachable
  | first r t₁ hd x => exact x.not_endsWithFiles hq ho reachable
  | firstFailed e t₁ hd x he => exact x.not_endsWithFiles hq ho reachable
  | firstDropped t₁ hd x => exact x.not_endsWithFiles hq ho reachable
  | second e r t₁ t₂ hd x he y => exact y.not_endsWithFiles hq ho reachable
  | secondStopped e o t₁ t₂ hd x he y stopped => exact y.not_endsWithFiles hq ho reachable

/-- Every query waits for something, unless the transport was closed. -/
theorem send_grows (h : t.send c q = (o, t')) :
    t.history.length < t'.history.length ∨ o = .failed .closed ∧ t' = t := by
  cases send_cases h with
  | chosen d o t' hd x => exact x.grows
  | first r t₁ hd x => exact x.grows.imp_right nofun
  | firstFailed e t₁ hd x he => exact x.grows
  | firstDropped t₁ hd x => exact x.grows
  | second e r t₁ t₂ hd x he y =>
    have first := x.grows_of_unimplemented he
    have second := y.length_le
    exact .inl (by dsimp only; omega)
  | secondStopped e o t₁ t₂ hd x he y stopped =>
    have first := x.grows_of_unimplemented he
    have second := y.length_le
    exact .inl (by omega)

theorem length_le_of_send (h : t.send c q = (o, t')) :
    t.history.length ≤ t'.history.length := by
  rcases send_grows h with grows | ⟨_, rfl⟩
  · omega
  · exact Nat.le_refl _

end Transport

end DynamicRpc.Reflection
