import DynamicRpc.CommandLine.Command
import DynamicRpc.Proofs.Success

/-!
Flags of the relay over its configuration file. Over a file that is valid by itself a flag has the
last word, and the outcome is that of checking what flags and file come to together. A file that is
not valid by itself is refused before the flags are looked at, even if they replace what is wrong
with it.
-/
namespace DynamicRpc

/-! Valid configurations -/

/-- A private key and a certificate are both there, or neither is. -/
def Tls.Options.Paired (o : Tls.Options) : Prop := o.key.isSome = o.cert.isSome

theorem Tls.Options.validate_eq_ok {o : Tls.Options} : o.validate = .ok () ↔ o.Paired := by
  unfold validate Paired
  cases o.key <;> cases o.cert <;> simp

namespace Relay.Config

variable {c : Config} {content : FileContent}

theorem validate_of_noBody (none : c.maxBodyBytes = 0) : c.validate = .error .noBody :=
  if_pos none

theorem validate_of_paired (some : c.maxBodyBytes ≠ 0) (paired : c.tls.Paired) :
    c.validate = .ok () := by
  rw [validate, if_neg some, Tls.Options.validate_eq_ok.2 paired]

theorem validate_eq_ok : c.validate = .ok () ↔ c.maxBodyBytes ≠ 0 ∧ c.tls.Paired := by
  constructor
  · intro h
    unfold validate at h
    split at h
    next => cases h
    next some =>
      split at h
      next => cases h
      next valid => exact ⟨some, Tls.Options.validate_eq_ok.1 valid⟩
  · rintro ⟨some, paired⟩
    exact validate_of_paired some paired

/-- A configuration, if it is valid. -/
def checked (c : Config) : Except FileError Config :=
  match c.validate with
  | .ok () => .ok c
  | .error e => .error (.invalid e)

theorem checked_of_valid (valid : c.validate = .ok ()) : c.checked = .ok c := by
  rw [checked, valid]

theorem checked_of_invalid {e : ConfigError} (invalid : c.validate = .error e) :
    c.checked = .error (.invalid e) := by
  rw [checked, invalid]

/-- The text of a file reads as a configuration, whether or not that is valid. -/
inductive StandsIn (c : Config) : FileContent → Prop where
  | text (b : Bytes) (readable : (Text.ofBytes? b).isSome) (read : ofJsonText b = .ok c) :
    StandsIn c (.bytes b)

theorem StandsIn.ofFile (stands : c.StandsIn content) : ofFile content = c.checked := by
  cases stands with
  | text b readable read =>
    have text : ¬ (Text.ofBytes? b).isNone := by simpa [Option.isSome_iff_ne_none] using readable
    unfold Config.ofFile checked
    dsimp only
    rw [if_neg text, read]
    dsimp only
    cases c.validate <;> rfl

end Relay.Config

namespace CommandLine

/-- A flag decides if it is given, and the file does if not. -/
structure Decides {α : Type} (flag : Option α) (file result : α) : Prop where
  given : ∀ v, flag = some v → result = v
  silent : flag = none → result = file

theorem decides_iff {α : Type} {flag : Option α} {file result : α} :
    Decides flag file result ↔ result = flag.getD file := by
  cases flag with
  | none => exact ⟨fun h => h.silent rfl, fun h => ⟨nofun, fun _ => h⟩⟩
  | some v =>
    refine ⟨fun h => h.given v rfl, fun h => ⟨?_, nofun⟩⟩
    rintro _ ⟨⟩
    exact h

/-- The same for a value that a file need not have. -/
theorem decides_some_iff {α : Type} {flag file result : Option α} :
    Decides (flag.map some) file result ↔ result = (flag <|> file) := by
  rw [decides_iff]
  cases flag <;> rfl

theorem Decides.of_same {α : Type} {flag : Option α} {file file' result : α}
    (same : flag = none → file = file') (h : Decides flag file result) :
    Decides flag file' result :=
  ⟨h.given, fun silent => (h.silent silent).trans (same silent)⟩

namespace RelayCommand

variable {f : RelayCommand} {c c' r : Relay.Config} {files files' : Files} {path : String}

/-- What flags and a file come to together. -/
structure LaidOver (f : RelayCommand) (c r : Relay.Config) : Prop where
  listen : Decides f.listen c.listen r.listen
  maxBodyBytes : Decides f.maxBodyBytes c.maxBodyBytes r.maxBodyBytes
  allowedOrigin : Decides (f.allowedOrigin.map some) c.allowedOrigin r.allowedOrigin
  ca : Decides (f.tls.ca.map some) c.tls.ca r.tls.ca
  cert : Decides (f.tls.cert.map some) c.tls.cert r.tls.cert
  key : Decides (f.tls.key.map some) c.tls.key r.tls.key
  serverName : Decides (f.tls.serverName.map some) c.tls.serverName r.tls.serverName
  insecure : r.tls.insecure = true ↔ c.tls.insecure = true ∨ f.tls.insecure = true
  disallowedHeaders : r.disallowedHeaders = c.disallowedHeaders ++ f.disallowedHeaders
  forwardHeaders : r.forwardHeaders = c.forwardHeaders ++ f.forwardHeaders

theorem laidOver_iff : f.LaidOver c r ↔ r = f.overlay c := by
  constructor
  · intro h
    have insecure : r.tls.insecure = (c.tls.insecure || f.tls.insecure) := by
      rw [Bool.eq_iff_iff, Bool.or_eq_true]
      exact h.insecure
    have tls : r.tls = f.tls.apply c.tls := by
      rw [TlsFlags.apply, ← decides_some_iff.1 h.ca, ← decides_some_iff.1 h.cert,
        ← decides_some_iff.1 h.key, ← decides_some_iff.1 h.serverName, ← insecure]
    rw [overlay, ← decides_iff.1 h.listen, ← decides_iff.1 h.maxBodyBytes,
      ← decides_some_iff.1 h.allowedOrigin, ← h.disallowedHeaders, ← h.forwardHeaders, ← tls]
  · rintro rfl
    exact ⟨decides_iff.2 rfl, decides_iff.2 rfl, decides_some_iff.2 rfl, decides_some_iff.2 rfl,
      decides_some_iff.2 rfl, decides_some_iff.2 rfl, decides_some_iff.2 rfl,
      iff_of_eq (Bool.or_eq_true _ _), rfl, rfl⟩

/-- Two configurations that are the same wherever flags leave it to the file. -/
structure Indifferent (f : RelayCommand) (c c' : Relay.Config) : Prop where
  listen : f.listen = none → c.listen = c'.listen
  maxBodyBytes : f.maxBodyBytes = none → c.maxBodyBytes = c'.maxBodyBytes
  allowedOrigin : f.allowedOrigin = none → c.allowedOrigin = c'.allowedOrigin
  ca : f.tls.ca = none → c.tls.ca = c'.tls.ca
  cert : f.tls.cert = none → c.tls.cert = c'.tls.cert
  key : f.tls.key = none → c.tls.key = c'.tls.key
  serverName : f.tls.serverName = none → c.tls.serverName = c'.tls.serverName
  insecure : f.tls.insecure = false → c.tls.insecure = c'.tls.insecure
  disallowedHeaders : c.disallowedHeaders = c'.disallowedHeaders
  forwardHeaders : c.forwardHeaders = c'.forwardHeaders

/-- A value that a flag replaces is of no account. -/
theorem Indifferent.overlay (same : f.Indifferent c c') : f.overlay c = f.overlay c' := by
  have h : f.LaidOver c (f.overlay c) := laidOver_iff.2 rfl
  have unset {α : Type} {flag : Option α} (silent : flag.map some = none) : flag = none :=
    Option.map_eq_none_iff.1 silent
  refine laidOver_iff.1 ⟨h.listen.of_same same.listen, h.maxBodyBytes.of_same same.maxBodyBytes,
    h.allowedOrigin.of_same fun s => same.allowedOrigin (unset s),
    h.ca.of_same fun s => same.ca (unset s), h.cert.of_same fun s => same.cert (unset s),
    h.key.of_same fun s => same.key (unset s),
    h.serverName.of_same fun s => same.serverName (unset s), ?_,
    same.disallowedHeaders ▸ h.disallowedHeaders, same.forwardHeaders ▸ h.forwardHeaders⟩
  rw [h.insecure]
  cases given : f.tls.insecure with
  | true => simp
  | false => rw [same.insecure given]

/-! The outcome -/

theorem configure_eq (f : RelayCommand) (files : Files) :
    f.configure files = f.base files >>= fun c => (f.overlay c).checked := rfl

section

variable (named : f.config = some path) (stands : c.StandsIn (files path))

include named stands

theorem configure_of_standsIn :
    f.configure files = c.checked >>= fun c => (f.overlay c).checked := by
  rw [configure_eq, base, named]
  dsimp only
  rw [stands.ofFile]

theorem configure_of_valid (valid : c.validate = .ok ()) :
    f.configure files = (f.overlay c).checked := by
  rw [configure_of_standsIn named stands, Relay.Config.checked_of_valid valid]
  rfl

theorem configure_of_invalid {e : Relay.ConfigError} (invalid : c.validate = .error e) :
    f.configure files = .error (.invalid e) := by
  rw [configure_of_standsIn named stands, Relay.Config.checked_of_invalid invalid]
  rfl

end

/-- A file that reads as a configuration is refused if that is not valid, whatever the flags. If it
is, the outcome is that of checking what flags and file come to together, and any other valid file
has the same outcome that differs from it only in what flags replace. So what is laid over the file
decides alone exactly if the file is valid or is refused for the same reason. -/
theorem flags_decide_over_valid_files (f : RelayCommand) (files : Files) (path : String)
    (c : Relay.Config) (named : f.config = some path) (stands : c.StandsIn (files path)) :
    (∀ e, c.validate = .error e → f.configure files = .error (.invalid e)) ∧
    (c.validate = .ok () → ∃ r, f.LaidOver c r ∧ f.configure files = r.checked ∧
      ∀ files' c', c'.StandsIn (files' path) → c'.validate = .ok () → f.Indifferent c c' →
        f.configure files' = r.checked) ∧
    ∀ r, f.LaidOver c r →
      (f.configure files = r.checked ↔ c.validate = .ok () ∨ c.validate = r.validate) := by
  refine ⟨fun e => configure_of_invalid named stands, fun valid => ?_, fun r laid => ?_⟩
  · refine ⟨f.overlay c, laidOver_iff.2 rfl, configure_of_valid named stands valid, ?_⟩
    intro files' c' stands' valid' same
    rw [same.overlay]
    exact configure_of_valid named stands' valid'
  · obtain rfl := laidOver_iff.1 laid
    cases alone : c.validate with
    | ok _ => exact iff_of_true (configure_of_valid named stands alone) (.inl rfl)
    | error e =>
      rw [configure_of_invalid named stands alone, or_iff_right (nofun)]
      cases together : (f.overlay c).validate with
      | ok _ => simp [Relay.Config.checked_of_valid together]
      | error e' => simp [Relay.Config.checked_of_invalid together]

/-- Flags that bring a limit and a private key with its certificate. -/
def limitAndPair : RelayCommand :=
  { RelayCommand.empty with
    config := some "relay.json"
    maxBodyBytes := some 5
    tls := { TlsFlags.empty with key := some "b.key", cert := some "b.pem" } }

/-- The same text at every path. -/
def filesOf (text : String) : Files := fun _ => .bytes (Text.toBytes text)

def smallLimit : Files := filesOf "\x7b\"max_body_bytes\": 1\x7d"

def otherPair : Files := filesOf "\x7b\"tls\": \x7b\"key\": \"a.key\", \"cert\": \"a.pem\"\x7d\x7d"

def noLimit : Files := filesOf "\x7b\"max_body_bytes\": 0\x7d"

def loneCertificate : Files := filesOf "\x7b\"tls\": \x7b\"cert\": \"a.pem\"\x7d\x7d"

theorem standsIn_filesOf {text : String} (readable : (Text.ofBytes? (Text.toBytes text)).isSome)
    (read : (Relay.Config.ofJsonText (Text.toBytes text)).toOption = some c) :
    c.StandsIn (filesOf text path) :=
  .text _ readable (Success.eq_ok_of_toOption read)

theorem small_limit_yields :
    limitAndPair.config = some "relay.json" ∧ ∃ c r, c.StandsIn (smallLimit "relay.json") ∧
      c.maxBodyBytes = 1 ∧ limitAndPair.LaidOver c r ∧ r.maxBodyBytes = 5 ∧
      limitAndPair.configure smallLimit = .ok r ∧ limitAndPair.configure otherPair = .ok r := by
  have stands : { Relay.Config.empty with maxBodyBytes := 1 }.StandsIn (smallLimit "relay.json") :=
    standsIn_filesOf (by decide +kernel) (by decide +kernel)
  have stands' : { Relay.Config.empty with
      tls := ⟨some "a.key", some "a.pem", none, none, false⟩ }.StandsIn (otherPair "relay.json") :=
    standsIn_filesOf (by decide +kernel) (by decide +kernel)
  obtain ⟨-, valid, -⟩ := flags_decide_over_valid_files limitAndPair _ "relay.json" _ rfl stands
  obtain ⟨r, laid, outcome, same⟩ := valid (by decide)
  have fine : r.maxBodyBytes = 5 ∧ r.checked = .ok r := by
    obtain rfl := laidOver_iff.1 laid
    exact ⟨rfl, Relay.Config.checked_of_valid (by decide)⟩
  refine ⟨rfl, _, r, stands, rfl, laid, fine.1, outcome.trans fine.2, ?_⟩
  exact (same _ _ stands' (by decide) (by constructor <;> decide)).trans fine.2

/-- A limit or a lone certificate that flags replace is still checked in the file. -/
theorem replaced_values_are_checked :
    (∃ c r, c.StandsIn (noLimit "relay.json") ∧ limitAndPair.LaidOver c r ∧
      r.validate = .ok () ∧ limitAndPair.configure noLimit = .error (.invalid .noBody)) ∧
    ∃ c r, c.StandsIn (loneCertificate "relay.json") ∧ limitAndPair.LaidOver c r ∧
      r.validate = .ok () ∧
      limitAndPair.configure loneCertificate = .error (.invalid (.tls .certWithoutKey)) := by
  have zero : { Relay.Config.empty with maxBodyBytes := 0 }.StandsIn (noLimit "relay.json") :=
    standsIn_filesOf (by decide +kernel) (by decide +kernel)
  have lone : { Relay.Config.empty with
      tls := ⟨none, some "a.pem", none, none, false⟩ }.StandsIn (loneCertificate "relay.json") :=
    standsIn_filesOf (by decide +kernel) (by decide +kernel)
  refine ⟨⟨_, _, zero, laidOver_iff.2 rfl, by decide, ?_⟩,
    ⟨_, _, lone, laidOver_iff.2 rfl, by decide, ?_⟩⟩
  · exact configure_of_invalid rfl zero (by decide)
  · exact configure_of_invalid rfl lone (by decide)

end RelayCommand

end CommandLine

end DynamicRpc
