import DynamicRpc.Proofs.Reflection.Endings
import DynamicRpc.Proofs.Reflection.Streams

/-!
When a file has been asked for, and when the question was answered for good: by files with the
wanted one among them, or by the word that there is none. A send can ask more than once only while
no such answer was given.
-/
namespace DynamicRpc.Reflection

/-! Histories -/

/-- The last that happened is that a query was written in vain, or that its reply was waited for. -/
inductive History.Ends : History → Query → Outcome QueryError Reply → Prop where
  | unwritten (h : History) (s : Stream) (q : Query) (e : QueryError) :
    Ends (h ++ [.writing s q (.failed e)]) q (.failed e)
  | read (h : History) (s : Stream) (q : Query) (o : Outcome QueryError Reply) :
    Ends (h ++ [.writing s q (.done ())] ++ [.reading s o]) q o

/-- Answers to the query for a file that need not be asked for again. -/
inductive Outcome.Settles (path : String) : Outcome QueryError Reply → Prop where
  | found (encoded : List Bytes) (files : List Schema.FileDecl)
    (hd : Resolver.decodeFiles encoded = .ok files) (mem : path ∈ files.map (·.path)) :
    Settles path (.done (.files encoded))
  | missing (o : Outcome QueryError Reply) (s : Rpc.Status) (ho : o.Refuses s)
    (code : s.code = .notFound) : Settles path o

/-- A query for a file was answered for good. -/
def History.Answered (h : History) (path : String) : Prop :=
  ∃ h₁ h₂ o, h = h₁ ++ h₂ ∧ h₁.Ends (.file path) o ∧ o.Settles path

/-- A file is not asked for after an answer for good. -/
def History.AskedOnce (h : History) (path : String) : Prop :=
  ∀ h₁ h₂ s o, h = h₁ ++ .writing s (.file path) o :: h₂ → ¬ History.Answered h₁ path

variable {h : History} {e : Event} {s : Stream} {q : Query} {path : String}
  {o o' : Outcome QueryError Reply}

theorem History.Ends.last (x : History.Ends (h ++ [e]) q o) :
    (∃ s err, e = .writing s q (.failed err) ∧ o = .failed err) ∨
    ∃ s h', e = .reading s o ∧ h = h' ++ [.writing s q (.done ())] := by
  generalize same : h ++ [e] = whole at x
  cases x with
  | unwritten h' s q err =>
    obtain ⟨_, last⟩ := List.append_inj' same rfl
    exact .inl ⟨s, err, by simpa using last, rfl⟩
  | read h' s q o =>
    obtain ⟨rfl, last⟩ := List.append_inj' same rfl
    exact .inr ⟨s, h', by simpa using last, rfl⟩

theorem History.Ends.ne_nil (x : History.Ends h q o) : h ≠ [] := by
  cases x <;> simp

theorem not_answered_nil : ¬ History.Answered [] path := by
  rintro ⟨h₁, h₂, o, split, ends, _⟩
  exact ends.ne_nil (List.append_eq_nil_iff.1 split.symm).1

theorem answered_concat : History.Answered (h ++ [e]) path ↔
    h.Answered path ∨ ∃ o, History.Ends (h ++ [e]) (.file path) o ∧ o.Settles path := by
  constructor
  · rintro ⟨h₁, h₂, o, split, ends, settles⟩
    rcases List.eq_nil_or_concat h₂ with rfl | ⟨h₂, e', rfl⟩
    · rw [List.append_nil] at split
      exact .inr ⟨o, split ▸ ends, settles⟩
    · rw [List.concat_eq_append, ← List.append_assoc] at split
      exact .inl ⟨h₁, h₂, o, (List.append_inj' split rfl).1, ends, settles⟩
  · rintro (⟨h₁, h₂, o, rfl, ends, settles⟩ | ⟨o, ends, settles⟩)
    · exact ⟨h₁, h₂ ++ [e], o, List.append_assoc .., ends, settles⟩
    · exact ⟨h ++ [e], [], o, (List.append_nil _).symm, ends, settles⟩

theorem askedOnce_concat (once : h.AskedOnce path)
    (new : ∀ s o, e = .writing s (.file path) o → ¬ h.Answered path) :
    History.AskedOnce (h ++ [e]) path := by
  intro h₁ h₂ s o split
  rcases List.eq_nil_or_concat h₂ with rfl | ⟨h₂, e', rfl⟩
  · obtain ⟨rfl, last⟩ := List.append_inj' split rfl
    exact new s o (by simpa using last)
  · rw [List.concat_eq_append, ← List.cons_append, ← List.append_assoc] at split
    exact once h₁ h₂ s o (List.append_inj' split rfl).1

/-! Sends -/

/-- What asking a query adds to a history: an answer for good only if the ending is one, and a write
only of this query. -/
structure Asks (q : Query) (o : Outcome QueryError Reply) (es : List Event) : Prop where
  answered : ∀ (h : History) (path : String), History.Answered (h ++ es) path →
    h.Answered path ∨ q = .file path ∧ o.Settles path
  once : ∀ (h : History) (path : String), h.AskedOnce path → (q = .file path → ¬ h.Answered path) →
    History.AskedOnce (h ++ es) path

variable {es es' : List Event} {c : Connector} {t t' : Transport}

theorem Asks.nil : Asks q o [] where
  answered h path x := .inl (by simpa using x)
  once h path x _ := by simpa using x

/-- Asking twice, where the first time did not bring an answer for good. -/
theorem Asks.append (first : Asks q o es) (open' : ∀ path, ¬ o.Settles path)
    (second : Asks q o' es') : Asks q o' (es ++ es') where
  answered h path x := by
    rw [← List.append_assoc] at x
    rcases second.answered _ path x with x | x
    · exact .inl ((first.answered h path x).resolve_right fun y => open' path y.2)
    · exact .inr x
  once h path x new := by
    rw [← List.append_assoc]
    refine second.once _ path (first.once h path x new) fun same y => new same ?_
    exact (first.answered h path y).resolve_right fun y => open' path y.2

theorem not_settles_dropped : ¬ Outcome.Settles path .dropped := by
  rintro (_ | ⟨_, s, ho | ho, _⟩) <;> cases ho

theorem asks_opening (s : Stream) (o' : Outcome QueryError Unit) :
    Asks q o [.opening s o'] where
  answered h path x := by
    rcases answered_concat.1 x with x | ⟨o, ends, _⟩
    · exact .inl x
    · rcases ends.last with ⟨_, _, last, _⟩ | ⟨_, _, last, _⟩ <;> cases last
  once h path x _ := askedOnce_concat x nofun

/-- A write that no reply is waited for. -/
theorem asks_writing (s : Stream) (o' : Outcome QueryError Unit)
    (ho : ∀ e, o' = .failed e → o = .failed e) : Asks q o [.writing s q o'] where
  answered h path x := by
    rcases answered_concat.1 x with x | ⟨o'', ends, settles⟩
    · exact .inl x
    · rcases ends.last with ⟨_, e, last, rfl⟩ | ⟨_, _, last, _⟩ <;> cases last
      exact .inr ⟨rfl, (ho e rfl) ▸ settles⟩
  once h path x new := by
    refine askedOnce_concat x ?_
    rintro _ _ ⟨⟩
    exact new rfl

/-- A write and the wait for its reply. -/
theorem asks_reading (s : Stream) (o' : Outcome QueryError Reply)
    (ho : ∀ path, q = .file path → o'.Settles path → o = o') :
    Asks q o [.writing s q (.done ()), .reading s o'] where
  answered h path x := by
    rw [List.append_cons] at x
    rcases answered_concat.1 x with x | ⟨o'', ends, settles⟩
    · exact (asks_writing (o := .dropped) s (.done ()) nofun).answered h path x |>.imp_right
        fun y => absurd y.2 not_settles_dropped
    · rcases ends.last with ⟨_, _, last, _⟩ | ⟨_, h', last, write⟩ <;> cases last
      obtain ⟨_, write⟩ := List.append_inj' write rfl
      cases write
      exact .inr ⟨rfl, ho path rfl settles ▸ settles⟩
  once h path x new := by
    rw [List.append_cons]
    exact askedOnce_concat ((asks_writing (o := o) s (.done ()) nofun).once h path x new) nofun

/-- A reply that settles the query for a file is of the right kind. -/
theorem Outcome.Settles.answers {r : Reply} (x : Outcome.Settles path (.done r)) :
    r.answers (.file path) = true := by
  generalize same : Outcome.done r = o at x
  cases x with
  | found encoded files hd mem =>
    cases same
    rfl
  | missing o s ho code =>
    subst same
    rcases ho with ho | ho <;> cases ho
    rfl

theorem Trip.asks (x : Trip c h s q es o) : Asks q o es := by
  cases x with
  | writeFailed e hw => exact asks_writing s _ fun _ same => by cases same; rfl
  | writeDropped hw => exact asks_writing s _ nofun
  | readFailed e hw hr => exact asks_reading s _ fun _ _ _ => rfl
  | readDropped hw hr => exact asks_reading s _ fun _ _ _ => rfl
  | mismatched r hw hr kind =>
    refine asks_reading s _ fun path same settles => ?_
    rw [same, settles.answers] at kind
    cases kind
  | answered r hw hr kind => exact asks_reading s _ fun _ _ _ => rfl

/-- A service that does not know a dialect has not answered. -/
theorem not_settles_of_isUnimplemented {e : QueryError} (he : e.isUnimplemented = true) :
    ¬ Outcome.Settles path (.failed e) := by
  generalize same : Outcome.failed e = o
  rintro (_ | ⟨_, s, ho, code⟩)
  · cases same
  · subst same
    rcases ho with ho | ho <;> cases ho
    simp [QueryError.isUnimplemented, code] at he

theorem asks_additive (c : Connector) (q : Query) : Additive c q (Asks q) where
  closed := .nil
  opening s o' _ _ := asks_opening s o'
  trip _ _ _ _ trip := trip.asks
  append o o' es es' nothing first second := by
    refine first.append (fun path => ?_) second
    rcases nothing with rfl | ⟨e, rfl, he⟩
    · exact not_settles_dropped
    · exact not_settles_of_isUnimplemented he

theorem Sending.asks (x : Sending c t q o t') :
    ∃ es, t'.history = t.history ++ es ∧ Asks q o es :=
  x.of_additive (asks_additive c q)

end DynamicRpc.Reflection
