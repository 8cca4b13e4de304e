import DynamicRpc.Proofs.CommandLine.Overlay
import DynamicRpc.Proofs.CommandLine.Reading

/-!
A private key never comes without its certificate. The options of all commands set a key or a
certificate exactly if they are used under that name, so that the check of what was used makes the
flags a pair; and a pair over a pair, or over nothing, is a pair.
-/
namespace DynamicRpc.CommandLine

open Success

variable {σ α : Type}

/-! What options tell -/

/-- Settings hold a private key once the option for it was used and a certificate once that for it
was, whatever else an option does. -/
structure OptionSpec.Tells (tls : σ → TlsFlags) (o : OptionSpec σ) : Prop where
  key : ∀ {value s t}, o.action.Makes value s t →
    (tls t).key.isSome = ("key" == o.long || (tls s).key.isSome)
  cert : ∀ {value s t}, o.action.Makes value s t →
    (tls t).cert.isSome = ("cert" == o.long || (tls s).cert.isSome)

/-- A part that reads back what is put there. -/
def Part.Lawful (p : Part σ α) : Prop := ∀ s a, p.get (p.put s a) = a

namespace OptionSpec

variable {tls : σ → TlsFlags} {o : OptionSpec σ}

/-- An option of another name that leaves key and certificate alone. -/
theorem tells_of_apart (key : o.long ≠ "key") (cert : o.long ≠ "cert")
    (apart : ∀ {value s t}, o.action.Makes value s t →
      (tls t).key = (tls s).key ∧ (tls t).cert = (tls s).cert) : o.Tells tls where
  key x := by rw [(apart x).1, beq_false_of_ne key.symm, Bool.false_or]
  cert x := by rw [(apart x).2, beq_false_of_ne cert.symm, Bool.false_or]

section

variable {long placeholder : String} {short : Option Char}
  {set : String → σ → Except ValueFault σ} (key : long ≠ "key") (cert : long ≠ "cert")
  (apart : ∀ v s t, set v s = .ok t → (tls t).key = (tls s).key ∧ (tls t).cert = (tls s).cert)

include key cert apart

theorem tells_once : Tells tls ⟨long, short, placeholder, .once set⟩ := by
  refine tells_of_apart key cert fun x => ?_
  cases x with
  | once h => exact apart _ _ _ h

theorem tells_each : Tells tls ⟨long, short, placeholder, .each set⟩ := by
  refine tells_of_apart key cert fun x => ?_
  cases x with
  | each h => exact apart _ _ _ h

end

/-- An option tells the same of a part of larger settings. -/
theorem Tells.within {part : Part α σ} (lawful : part.Lawful) (h : o.Tells tls) :
    (o.within part).Tells (fun s => tls (part.get s)) where
  key x := by
    obtain ⟨u, inner, rfl⟩ := Action.makes_within x
    rw [lawful, h.key inner]
    rfl
  cert x := by
    obtain ⟨u, inner, rfl⟩ := Action.makes_within x
    rw [lawful, h.cert inner]
    rfl

end OptionSpec

/-- All options of a list tell of key and certificate. -/
def AllTell (tls : σ → TlsFlags) (os : List (OptionSpec σ)) : Prop := ∀ o ∈ os, o.Tells tls

namespace AllTell

theorem append {tls : σ → TlsFlags} {os os' : List (OptionSpec σ)} (h : AllTell tls os)
    (h' : AllTell tls os') : AllTell tls (os ++ os') :=
  fun o mem => (List.mem_append.1 mem).elim (h o) (h' o)

theorem within {tls : α → TlsFlags} {os : List (OptionSpec α)} {part : Part σ α}
    (lawful : part.Lawful) (h : AllTell tls os) :
    AllTell (fun s => tls (part.get s)) (os.map (·.within part)) := by
  intro o' mem
  obtain ⟨o, inner, rfl⟩ := List.mem_map.1 mem
  exact (h o inner).within lawful

end AllTell

theorem allTell_tlsOptions : AllTell id tlsOptions := by
  simp only [AllTell, tlsOptions, List.forall_mem_cons]
  refine ⟨?cacert, ?cert, ?key, ?servername, ?insecure, nofun⟩
  case cacert =>
    refine OptionSpec.tells_once (by decide) (by decide) fun v s t h => ?_
    obtain ⟨path, -, ⟨⟩⟩ := bind_eq_ok.1 h
    exact ⟨rfl, rfl⟩
  case cert =>
    constructor
    all_goals
      rintro _ s t ⟨h⟩
      obtain ⟨path, -, ⟨⟩⟩ := bind_eq_ok.1 h
      rfl
  case key =>
    constructor
    all_goals
      rintro _ s t ⟨h⟩
      obtain ⟨path, -, ⟨⟩⟩ := bind_eq_ok.1 h
      rfl
  case servername =>
    refine OptionSpec.tells_once (by decide) (by decide) fun v s t h => ?_
    cases h
    exact ⟨rfl, rfl⟩
  case insecure =>
    refine OptionSpec.tells_of_apart (by decide) (by decide) fun x => ?_
    cases x
    exact ⟨rfl, rfl⟩

theorem allTell_connectOptions : AllTell ConnectFlags.tls connectOptions := by
  refine .append ?_ (allTell_tlsOptions.within fun _ _ => rfl)
  simp only [AllTell, List.forall_mem_cons]
  refine ⟨?reflection, ?authority, nofun⟩
  case reflection =>
    refine OptionSpec.tells_once (by decide) (by decide) fun v s t h => ?_
    obtain ⟨dialect, -, ⟨⟩⟩ := bind_eq_ok.1 h
    exact ⟨rfl, rfl⟩
  case authority =>
    refine OptionSpec.tells_once (by decide) (by decide) fun v s t h => ?_
    cases h
    exact ⟨rfl, rfl⟩

/-! Commands -/

/-- A command whose options tell of key and certificate, whose positional arguments leave both
alone, and which wants one with the other. -/
structure CommandSpec.Pairs (tls : σ → TlsFlags) (c : CommandSpec σ) : Prop where
  options : AllTell tls c.options
  positionals : ∀ p ∈ c.positionals, ∀ v s t, p.set v s = .ok t → tls t = tls s
  requires : c.requires = tlsRequires

theorem pairs_callSpec : callSpec.Pairs fun s => s.connect.tls where
  options := by
    refine .append ?_ (allTell_connectOptions.within fun _ _ => rfl)
    simp only [AllTell, List.forall_mem_cons]
    refine ⟨?body, ?header, nofun⟩
    case body =>
      refine OptionSpec.tells_once (by decide) (by decide) fun v s t h => ?_
      obtain ⟨body, -, ⟨⟩⟩ := bind_eq_ok.1 h
      exact ⟨rfl, rfl⟩
    case header =>
      refine OptionSpec.tells_each (by decide) (by decide) fun v s t h => ?_
      obtain ⟨header, -, ⟨⟩⟩ := bind_eq_ok.1 h
      exact ⟨rfl, rfl⟩
  positionals := by
    simp only [callSpec, List.forall_mem_cons]
    refine ⟨?url, ?endpoint, nofun⟩
    case url =>
      rintro v s t ⟨⟩
      rfl
    case endpoint =>
      intro v s t h
      obtain ⟨_, -, ⟨⟩⟩ := bind_eq_ok.1 h
      rfl
  requires := rfl

theorem pairs_listSpec : listSpec.Pairs fun s => s.connect.tls where
  options := allTell_connectOptions.within fun _ _ => rfl
  positionals := by
    simp only [listSpec, List.forall_mem_cons]
    refine ⟨?_, nofun⟩
    rintro v s t ⟨⟩
    rfl
  requires := rfl

theorem pairs_describeSpec : describeSpec.Pairs fun s => s.connect.tls where
  options := allTell_connectOptions.within fun _ _ => rfl
  positionals := by
    simp only [describeSpec, List.forall_mem_cons]
    refine ⟨?_, ?_, nofun⟩
    all_goals
      rintro v s t ⟨⟩
      rfl
  requires := rfl

theorem pairs_relaySpec : relaySpec.Pairs RelayCommand.tls where
  options := by
    refine .append ?_ (allTell_tlsOptions.within fun _ _ => rfl)
    simp only [AllTell, List.forall_mem_cons]
    refine ⟨?config, ?listen, ?limit, ?disallowed, ?forward, ?origin, nofun⟩
    case config | listen | limit =>
      refine OptionSpec.tells_once (by decide) (by decide) fun v s t h => ?_
      obtain ⟨_, -, ⟨⟩⟩ := bind_eq_ok.1 h
      exact ⟨rfl, rfl⟩
    case disallowed =>
      refine OptionSpec.tells_each (by decide) (by decide) fun v s t h => ?_
      cases h
      exact ⟨rfl, rfl⟩
    case forward =>
      refine OptionSpec.tells_each (by decide) (by decide) fun v s t h => ?_
      obtain ⟨entry, -, ⟨⟩⟩ := bind_eq_ok.1 h
      exact ⟨rfl, rfl⟩
    case origin =>
      refine OptionSpec.tells_once (by decide) (by decide) fun v s t h => ?_
      cases h
      exact ⟨rfl, rfl⟩
  positionals := nofun
  requires := rfl

/-- The options of every command do not touch the flags. -/
theorem CommandSpec.Pairs.complete {tls : σ → TlsFlags} {c : CommandSpec σ} (h : c.Pairs tls) :
    c.complete.Pairs fun s => tls s.settings where
  options := by
    refine (h.options.within fun _ _ => rfl).append ?_
    simp only [AllTell, List.forall_mem_cons]
    refine ⟨?verbose, ⟨nofun, nofun⟩, nofun⟩
    refine OptionSpec.tells_of_apart (show "verbose" ≠ "key" by decide)
      (show "verbose" ≠ "cert" by decide) fun x => ?_
    cases x
    exact ⟨rfl, rfl⟩
  positionals := by
    intro p' mem v s t set
    obtain ⟨p, inner, rfl⟩ := List.mem_map.1 mem
    obtain ⟨u, hu, ⟨⟩⟩ := bind_eq_ok.1 set
    exact h.positionals p inner v s.settings u hu
  requires := h.requires

/-- What was used tells whether there is a key, and whether there is a certificate. -/
theorem CommandSpec.Pairs.told {tls : σ → TlsFlags} {c : CommandSpec σ} (h : c.Pairs tls)
    {start s : σ} {seen : List String} (empty : tls start = .empty) (x : c.Reaches start seen s) :
    (tls s).key.isSome = seen.contains "key" ∧ (tls s).cert.isSome = seen.contains "cert" := by
  induction x with
  | start =>
    rw [empty]
    exact ⟨rfl, rfl⟩
  | option before o mem value x ih =>
    have tells := h.options o mem
    rw [tells.key x, tells.cert x, ih.1, ih.2, List.contains_cons, List.contains_cons]
    exact ⟨rfl, rfl⟩
  | positional before p mem v x ih =>
    rw [h.positionals p mem v _ _ x]
    exact ih

/-- A key and a certificate are both among the flags, or neither is. -/
def TlsFlags.Paired (f : TlsFlags) : Prop := f.key.isSome = f.cert.isSome

/-- Whatever arguments a command takes, its flags are a pair. -/
theorem CommandSpec.Pairs.read {tls : σ → TlsFlags} {c : CommandSpec σ} (h : c.Pairs tls)
    {start : σ} (empty : tls start = .empty) {args : List String} {r : Counted σ}
    (ok : c.read start args = .ok r) : (tls r.settings).Paired := by
  obtain ⟨m, matched, ok⟩ := bind_eq_ok.1 ok
  obtain ⟨key, cert⟩ := h.complete.told empty (readFrom_reaches matched)
  dsimp only at ok
  split at ok
  next => cases ok
  next =>
    split at ok
    next => cases ok
    next both =>
      cases ok
      rw [h.requires] at both
      rw [TlsFlags.Paired, key, cert]
      simp only [tlsRequires, List.any_cons, List.any_nil] at both
      revert both
      generalize m.seen.contains "key" = a
      generalize m.seen.contains "cert" = b
      revert a b
      decide

namespace Command

/-- The flags of a command for TLS materials. -/
def tlsFlags : Command → TlsFlags
  | .call c => c.connect.tls
  | .list c => c.connect.tls
  | .describe c => c.connect.tls
  | .relay c => c.tls

theorem paired_of_read {name : String} {args : List String} {r : Counted Command}
    (h : Command.read name args = .ok r) : r.settings.tlsFlags.Paired := by
  unfold Command.read at h
  dsimp only at h
  split at h
  next =>
    obtain ⟨c, ok, ⟨⟩⟩ := bind_eq_ok.1 h
    exact pairs_callSpec.read rfl ok
  next =>
    split at h
    next =>
      obtain ⟨c, ok, ⟨⟩⟩ := bind_eq_ok.1 h
      exact pairs_listSpec.read rfl ok
    next =>
      split at h
      next =>
        obtain ⟨c, ok, ⟨⟩⟩ := bind_eq_ok.1 h
        exact pairs_describeSpec.read rfl ok
      next =>
        obtain ⟨c, ok, ⟨⟩⟩ := bind_eq_ok.1 h
        exact pairs_relaySpec.read rfl ok

end Command

theorem paired_of_invocation {args : List String} {i : Invocation}
    (h : Invocation.read args = .ok i) : i.command.tlsFlags.Paired := by
  obtain ⟨m, -, h⟩ := bind_eq_ok.1 h
  split at h
  next => cases h
  next name rest _ =>
    split at h
    next => cases h
    next =>
      obtain ⟨c, ok, ⟨⟩⟩ := bind_eq_ok.1 h
      exact Command.paired_of_read ok

/-! Options and configurations -/

/-- A pair of flags over a pair is a pair. -/
theorem TlsFlags.Paired.apply {f : TlsFlags} {o : Tls.Options} (flags : f.Paired)
    (options : o.Paired) : (f.apply o).Paired := by
  unfold TlsFlags.Paired at flags
  unfold Tls.Options.Paired at *
  unfold TlsFlags.apply
  cases key : f.key <;> cases cert : f.cert <;> simp_all

namespace RelayCommand

variable {f : RelayCommand} {files : Files} {c : Relay.Config}

/-- What flags are laid over is valid by itself. -/
theorem valid_of_base (h : f.base files = .ok c) : c.validate = .ok () := by
  unfold base at h
  split at h
  next path _ =>
    unfold Relay.Config.ofFile at h
    split at h
    · cases h
    · cases h
    · split at h
      next => cases h
      next =>
        split at h
        next => cases h
        next =>
          split at h
          next => cases h
          next valid =>
            cases h
            exact valid
  next =>
    cases h
    decide

end RelayCommand

/-- What comes of the TLS materials of a command. -/
def Command.Complete : Command → Prop
  | .call c => c.connect.clientOptions.tls.validate = .ok ()
  | .list c => c.connect.clientOptions.tls.validate = .ok ()
  | .describe c => c.connect.clientOptions.tls.validate = .ok ()
  | .relay c => ∀ files base, c.base files = .ok base → (c.overlay base).tls.validate = .ok () ∧
      c.configure files =
        if (c.overlay base).maxBodyBytes = 0 then .error (.invalid .noBody)
        else .ok (c.overlay base)

/-- Whatever arguments are accepted, they bring a key and a certificate or neither: the options of a
client are valid, and a relay whose configuration file loads has a configuration with both or
neither, which only an empty limit on bodies makes invalid. -/
theorem accepted_materials_are_complete (args : List String) (i : Invocation)
    (h : Invocation.read args = .ok i) : i.command.Complete := by
  have paired := paired_of_invocation h
  have client {f : ConnectFlags} (paired : f.tls.Paired) :
      f.clientOptions.tls.validate = .ok () :=
    Tls.Options.validate_eq_ok.2 (paired.apply rfl)
  cases command : i.command with
  | call c =>
    rw [command] at paired
    exact client paired
  | list c =>
    rw [command] at paired
    exact client paired
  | describe c =>
    rw [command] at paired
    exact client paired
  | relay c =>
    rw [command] at paired
    intro files base loads
    have below := Relay.Config.validate_eq_ok.1 (RelayCommand.valid_of_base loads)
    have together : (c.overlay base).tls.Paired := paired.apply below.2
    refine ⟨Tls.Options.validate_eq_ok.2 together, ?_⟩
    rw [RelayCommand.configure_eq, loads]
    change (c.overlay base).checked = _
    split
    next none => exact Relay.Config.checked_of_invalid (Relay.Config.validate_of_noBody none)
    next some =>
      exact Relay.Config.checked_of_valid (Relay.Config.validate_of_paired some together)

/-- Letters in a row, a value behind an equals sign and one on its own. -/
def mixedArguments : List String :=
  ["relay", "-kcrelay.json", "--key=b.key", "--max-body-bytes", "0", "--cert", "b.pem"]

theorem mixed_arguments_are_complete :
    ∃ i c base, Invocation.read mixedArguments = .ok i ∧ i.command = .relay c ∧
      c.tls = ⟨none, some "b.pem", some "b.key", none, true⟩ ∧
      c.base RelayCommand.smallLimit = .ok base ∧ (c.overlay base).tls.validate = .ok () ∧
      c.configure RelayCommand.smallLimit = .error (.invalid .noBody) := by
  let c : RelayCommand :=
    { RelayCommand.empty with
      config := some "relay.json"
      maxBodyBytes := some 0
      tls := ⟨none, some "b.pem", some "b.key", none, true⟩ }
  have stands : { Relay.Config.empty with maxBodyBytes := 1 }.StandsIn
      (RelayCommand.smallLimit "relay.json") :=
    RelayCommand.standsIn_filesOf (by decide +kernel) (by decide +kernel)
  have read : Invocation.read mixedArguments = .ok ⟨0, .relay c⟩ := rfl
  have loads : c.base RelayCommand.smallLimit =
      .ok { Relay.Config.empty with maxBodyBytes := 1 } :=
    stands.ofFile.trans (Relay.Config.checked_of_valid (by decide))
  have complete := accepted_materials_are_complete mixedArguments _ read _ _ loads
  exact ⟨_, c, _, read, rfl, rfl, loads, complete.1, complete.2⟩

end DynamicRpc.CommandLine
