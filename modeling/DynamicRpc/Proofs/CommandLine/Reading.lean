import DynamicRpc.CommandLine.Arguments
import DynamicRpc.Proofs.Success

/-!
What reading arguments can lead to. In whatever order and spelling arguments come, settings change
only by options of the command, each used with or without a value, and by its positional arguments;
and the options that count as given are those that were used.
-/
namespace DynamicRpc.CommandLine

open Success

variable {σ α : Type}

/-- What an action makes of settings, with the value given to it. -/
inductive Action.Makes : Action σ → Option String → σ → σ → Prop where
  | once {set : String → σ → Except ValueFault σ} {v : String} {s t : σ} (h : set v s = .ok t) :
    Makes (.once set) (some v) s t
  | each {set : String → σ → Except ValueFault σ} {v : String} {s t : σ} (h : set v s = .ok t) :
    Makes (.each set) (some v) s t
  | switch (set : σ → σ) (value : Option String) (s : σ) : Makes (.switch set) value s (set s)
  | count (set : σ → σ) (value : Option String) (s : σ) : Makes (.count set) value s (set s)

/-- On larger settings an action changes its own part alone. -/
theorem Action.makes_within {p : Part σ α} {a : Action α} {value : Option String} {s t : σ}
    (h : (a.within p).Makes value s t) : ∃ u, a.Makes value (p.get s) u ∧ t = p.put s u := by
  cases a with
  | once set =>
    cases h with
    | once h =>
      obtain ⟨u, hu, ⟨⟩⟩ := bind_eq_ok.1 h
      exact ⟨u, .once hu, rfl⟩
  | each set =>
    cases h with
    | each h =>
      obtain ⟨u, hu, ⟨⟩⟩ := bind_eq_ok.1 h
      exact ⟨u, .each hu, rfl⟩
  | switch set =>
    cases h
    exact ⟨_, .switch set value _, rfl⟩
  | count set =>
    cases h
    exact ⟨_, .count set value _, rfl⟩
  | help => cases h
  | version => cases h

theorem setValue_eq_ok {label : String} {r : Except ValueFault σ} {s : σ} :
    setValue label r = .ok s ↔ r = .ok s := by
  unfold setValue
  split <;> simp

namespace CommandSpec

/-- Settings that options and positional arguments of a command lead to, with the names of the
options that were used. -/
inductive Reaches (c : CommandSpec σ) (start : σ) : List String → σ → Prop where
  | start : Reaches c start [] start
  | option {seen : List String} {s t : σ} (before : Reaches c start seen s) (o : OptionSpec σ)
    (mem : o ∈ c.options) (value : Option String) (x : o.action.Makes value s t) :
    Reaches c start (o.long :: seen) t
  | positional {seen : List String} {s t : σ} (before : Reaches c start seen s)
    (p : PositionalSpec σ) (mem : p ∈ c.positionals) (v : String) (x : p.set v s = .ok t) :
    Reaches c start seen t

/-- A value that waits is meant for an option or a positional argument of the command. -/
def Awaits (c : CommandSpec σ) : Pending σ → Prop
  | .option o _ => o ∈ c.options
  | .positional p _ => p ∈ c.positionals

/-- A state that reading can be in. -/
structure Reading (c : CommandSpec σ) (start : σ) (s : State σ) : Prop where
  reaches : c.Reaches start s.seen s.settings
  awaits : ∀ p, s.pending = some p → c.Awaits p

variable {c : CommandSpec σ} {start : σ} {s t : State σ} {o : OptionSpec σ}

theorem reading_start (c : CommandSpec σ) (start : σ) : c.Reading start (.start start) :=
  ⟨.start, nofun⟩

/-- Using an option changes the settings as its action says, and notes that it was used. -/
theorem apply_eq_ok {value : Option String} (h : o.apply value s = .ok t) :
    ∃ u, o.action.Makes value s.settings u ∧
      t = { s with settings := u, seen := o.long :: s.seen } := by
  unfold OptionSpec.apply at h
  dsimp only at h
  generalize o.action = a at h ⊢
  cases a with
  | once set =>
    cases value with
    | none => cases h
    | some v =>
      dsimp only at h
      split at h
      next => cases h
      next =>
        obtain ⟨u, hu, ⟨⟩⟩ := bind_eq_ok.1 h
        exact ⟨u, .once (setValue_eq_ok.1 hu), rfl⟩
  | each set =>
    cases value with
    | none => cases h
    | some v =>
      obtain ⟨u, hu, ⟨⟩⟩ := bind_eq_ok.1 h
      exact ⟨u, .each (setValue_eq_ok.1 hu), rfl⟩
  | switch set =>
    dsimp only at h
    split at h
    next => cases h
    next =>
      cases h
      exact ⟨_, .switch set value _, rfl⟩
  | count set =>
    cases h
    exact ⟨_, .count set value _, rfl⟩
  | help => cases h
  | version => cases h

namespace Reading

theorem apply (reading : c.Reading start s) (mem : o ∈ c.options) {value : Option String}
    (h : o.apply value s = .ok t) : c.Reading start t := by
  obtain ⟨u, x, rfl⟩ := apply_eq_ok h
  exact ⟨.option reading.reaches o mem value x, reading.awaits⟩

/-- Letting another value wait, or none. -/
theorem await (reading : c.Reading start s) (pending : Option (Pending σ)) (position : Nat)
    (awaits : ∀ p, pending = some p → c.Awaits p) :
    c.Reading start { s with pending := pending, position := position } :=
  ⟨reading.reaches, awaits⟩

theorem resolve (reading : c.Reading start s) (h : s.resolve = .ok t) : c.Reading start t := by
  unfold State.resolve at h
  split at h
  next =>
    cases h
    exact reading
  next o value pending =>
    exact (reading.await none s.position nofun).apply (reading.awaits _ pending) h
  next p v pending =>
    obtain ⟨u, hu, ⟨⟩⟩ := bind_eq_ok.1 h
    exact ⟨.positional reading.reaches p (reading.awaits _ pending) v (setValue_eq_ok.1 hu), nofun⟩

theorem give (reading : c.Reading start s) (mem : o ∈ c.options) {value : Option String}
    (h : s.give o value = .ok t) : c.Reading start t := by
  obtain ⟨u, resolved, h⟩ := bind_eq_ok.1 h
  have before := reading.resolve resolved
  split at h
  next =>
    cases h
    exact before.await _ _ fun p some => by
      cases some
      exact mem
  next => exact before.apply mem h

theorem readLong (reading : c.Reading start s) {body : List Char}
    (h : c.readLong s body = .ok t) : c.Reading start t := by
  unfold CommandSpec.readLong at h
  dsimp only at h
  generalize (if body.contains '=' then _ else none : Option String) = value at h
  split at h
  next => cases h
  next o found =>
    split at h
    next => cases h
    next => exact reading.give (List.mem_of_find?_eq_some found) h

theorem readShort (reading : c.Reading start s) {letters : List Char}
    (h : c.readShort s letters = .ok t) : c.Reading start t := by
  induction letters generalizing s with
  | nil =>
    cases h
    exact reading
  | cons letter rest ih =>
    unfold CommandSpec.readShort at h
    split at h
    next => cases h
    next o found =>
      have mem : o ∈ c.options := List.mem_of_find?_eq_some found
      split at h
      next => exact reading.give mem h
      next =>
        obtain ⟨u, given, h⟩ := bind_eq_ok.1 h
        exact ih (reading.give mem given) h

theorem readOption (reading : c.Reading start s) {arg : String}
    (h : c.readOption s arg = .ok (.done t)) : c.Reading start t := by
  unfold CommandSpec.readOption at h
  split at h
  next body _ =>
    cases long : c.readLong s body with
    | error e => rw [long] at h; cases h
    | ok u =>
      rw [long] at h
      cases h
      exact reading.readLong long
  next first rest _ _ =>
    cases short : c.readShort s (first :: rest) with
    | error e => rw [short] at h; cases h
    | ok u =>
      rw [short] at h
      cases h
      exact reading.readShort short
  next => cases h

theorem readPositional (reading : c.Reading start s) {trailing : Bool} {arg : String}
    (h : c.readPositional trailing s arg = .ok t) : c.Reading start t := by
  unfold CommandSpec.readPositional at h
  split at h
  next p found =>
    obtain ⟨u, resolved, ⟨⟩⟩ := bind_eq_ok.1 h
    refine (reading.resolve resolved).await _ _ fun p some => ?_
    cases some
    exact List.mem_of_getElem? found
  next => split at h <;> cases h

/-- Whatever arguments are read, the settings are such as the command can reach. -/
theorem readFrom (reading : c.Reading start s) {trailing : Bool} {args : List String}
    {m : Matched σ} (h : c.readFrom trailing s args = .ok m) :
    c.Reaches start m.seen m.settings := by
  induction args generalizing s trailing with
  | nil =>
    obtain ⟨u, resolved, ⟨⟩⟩ := bind_eq_ok.1 h
    exact (reading.resolve resolved).reaches
  | cons arg rest ih =>
    unfold CommandSpec.readFrom at h
    split at h
    next =>
      obtain ⟨u, taken, h⟩ := bind_eq_ok.1 h
      exact ih (reading.readPositional taken) h
    next =>
      split at h
      next o pending =>
        split at h
        next => exact ih reading h
        next =>
          obtain ⟨step, read, h⟩ := bind_eq_ok.1 h
          split at h
          next => exact ih (reading.readOption read) h
          next =>
            refine ih (reading.await _ _ fun p some => ?_) h
            cases some
            exact (reading.awaits _ pending : o ∈ c.options)
      next =>
        split at h
        next =>
          obtain ⟨u, resolved, ⟨⟩⟩ := bind_eq_ok.1 h
          exact (reading.resolve resolved).reaches
        next =>
          split at h
          next => exact ih reading h
          next =>
            obtain ⟨step, read, h⟩ := bind_eq_ok.1 h
            split at h
            next => exact ih (reading.readOption read) h
            next =>
              obtain ⟨u, taken, h⟩ := bind_eq_ok.1 h
              exact ih (reading.readPositional taken) h

end Reading

theorem readFrom_reaches {trailing : Bool} {args : List String} {m : Matched σ}
    (h : c.readFrom trailing (.start start) args = .ok m) : c.Reaches start m.seen m.settings :=
  (reading_start c start).readFrom h

end CommandSpec

end DynamicRpc.CommandLine
