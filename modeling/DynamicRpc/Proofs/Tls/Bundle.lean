import DynamicRpc.Proofs.Success
import DynamicRpc.Tls.Setup

/-!
Bundles of roots. A bundle loads whole or not at all, before anything else is read and whether or
not certificates are checked, so what is wrong with it is reported alike in both modes. A bundle
that loads has a root, and so nothing that comes after it can fail for want of one.
-/
namespace DynamicRpc.Tls

open Success

variable {content : FileContent} {text : Bytes} {found : List Section} {f : LoadFault}
  {trusted : List TrustAnchor}

/-! What a file holds -/

/-- The sections that hold certificates. -/
def certificatesOf (found : List Section) : List Section := found.filter (·.kind = .certificate)

/-- A certificate can be trusted to sign for others. -/
def Section.Gives (s : Section) (a : TrustAnchor) : Prop := TrustAnchor.ofDer s.content = .ok a

instance (s : Section) (a : TrustAnchor) : Decidable (s.Gives a) :=
  inferInstanceAs (Decidable (TrustAnchor.ofDer s.content = .ok a))

/-- A file is no bundle: it cannot be read, its text is malformed, or of its certificates there are
none or one is no anchor. -/
inductive Unfit : FileContent → Prop where
  | unopened (reason : String) : Unfit (.unopened reason)
  | unread (reason : String) : Unfit (.unread reason)
  | malformed (text : Bytes) (p : PemFault) (read : (Pem.sections text).2 = some p) :
    Unfit (.bytes text)
  | empty (text : Bytes) (none : certificatesOf (Pem.sections text).1 = []) : Unfit (.bytes text)
  | unusable (text : Bytes) (s : Section) (mem : s ∈ certificatesOf (Pem.sections text).1)
    (refused : ¬ ∃ a, s.Gives a) : Unfit (.bytes text)

/-- What is reported of a file that is no bundle. Malformed text comes before everything that the
text holds, and of the certificates that are no anchors the first one counts. -/
inductive Flawed : FileContent → LoadFault → Prop where
  | unopened (reason : String) : Flawed (.unopened reason) (.unopened reason)
  | unread (reason : String) : Flawed (.unread reason) (.unread reason)
  | malformed (text : Bytes) (found : List Section) (p : PemFault)
    (read : Pem.sections text = (found, some p)) : Flawed (.bytes text) (.pem p)
  | empty (text : Bytes) (found : List Section) (read : Pem.sections text = (found, none))
    (none : certificatesOf found = []) : Flawed (.bytes text) .noCertificates
  | unusable (text : Bytes) (found earlier : List Section) (s : Section) (later : List Section)
    (c : CertificateFault) (read : Pem.sections text = (found, none))
    (split : certificatesOf found = earlier ++ s :: later) (usable : ∀ t ∈ earlier, ∃ a, t.Gives a)
    (refused : TrustAnchor.ofDer s.content = .error c) : Flawed (.bytes text) (.anchor c)

/-- A file is a bundle: every certificate of its text is an anchor, in order, and there is one. -/
inductive Sound : FileContent → List TrustAnchor → Prop where
  | bundle (text : Bytes) (found : List Section) (trusted : List TrustAnchor)
    (read : Pem.sections text = (found, none)) (some : trusted ≠ [])
    (each : List.Forall₂ Section.Gives (certificatesOf found) trusted) :
    Sound (.bytes text) trusted

/-- Certificates are all anchors, or there is a first one that is not. -/
theorem gives_or_refused (certificates : List Section) :
    (∃ trusted, List.Forall₂ Section.Gives certificates trusted) ∨
      ∃ earlier s later c, certificates = earlier ++ s :: later ∧
        (∀ t ∈ earlier, ∃ a, t.Gives a) ∧ TrustAnchor.ofDer s.content = .error c := by
  induction certificates with
  | nil => exact .inl ⟨[], .nil⟩
  | cons s rest ih =>
    cases given : TrustAnchor.ofDer s.content with
    | error c => exact .inr ⟨[], s, rest, c, rfl, by simp, given⟩
    | ok a =>
      rcases ih with ⟨trusted, each⟩ | ⟨earlier, t, later, c, rfl, usable, refused⟩
      · exact .inl ⟨a :: trusted, .cons given each⟩
      · refine .inr ⟨s :: earlier, t, later, c, rfl, ?_, refused⟩
        rw [List.forall_mem_cons]
        exact ⟨⟨a, given⟩, usable⟩

theorem flawed_or_sound (content : FileContent) :
    (∃ f, Flawed content f) ∨ ∃ trusted, Sound content trusted := by
  cases content with
  | unopened reason => exact .inl ⟨_, .unopened reason⟩
  | unread reason => exact .inl ⟨_, .unread reason⟩
  | bytes text =>
    rcases read : Pem.sections text with ⟨found, fault⟩
    cases fault with
    | some p => exact .inl ⟨_, .malformed text found p read⟩
    | none =>
      rcases gives_or_refused (certificatesOf found) with
        ⟨trusted, each⟩ | ⟨earlier, s, later, c, split, usable, refused⟩
      · by_cases none : trusted = []
        · subst none
          exact .inl ⟨_, .empty text found read (List.forall₂_nil_right_iff.1 each)⟩
        · exact .inr ⟨trusted, .bundle text found trusted read none each⟩
      · exact .inl ⟨_, .unusable text found earlier s later c read split usable refused⟩

theorem Flawed.unfit (h : Flawed content f) : Unfit content := by
  cases h with
  | unopened reason => exact .unopened reason
  | unread reason => exact .unread reason
  | malformed text found p read => exact .malformed text p (by rw [read])
  | empty text found read none => exact .empty text (by rw [read]; exact none)
  | unusable text found earlier s later c read split usable refused =>
    refine .unusable text s ?_ ?_
    · rw [read, split]
      exact List.mem_append_right _ List.mem_cons_self
    · rintro ⟨a, given⟩
      rw [Section.Gives, refused] at given
      cases given

theorem Sound.fit (h : Sound content trusted) : ¬ Unfit content := by
  obtain ⟨text, found, trusted, read, some, each⟩ := h
  intro unfit
  cases unfit with
  | malformed _ p fault =>
    rw [read] at fault
    cases fault
  | empty _ none =>
    rw [read] at none
    rw [none, List.forall₂_nil_left_iff] at each
    exact some each
  | unusable _ s mem refused =>
    rw [read] at mem
    obtain ⟨a, -, given⟩ := exists_of_forall₂_left each mem
    exact refused ⟨a, given⟩

/-- A file is no bundle exactly when there is something to report of it. -/
theorem unfit_iff : Unfit content ↔ ∃ f, Flawed content f := by
  refine ⟨fun unfit => ?_, fun ⟨_, flawed⟩ => flawed.unfit⟩
  rcases flawed_or_sound content with flawed | ⟨trusted, sound⟩
  · exact flawed
  · exact absurd unfit sound.fit

/-! Loading -/

theorem readAnchor_eq_ok {s : Section} {a : TrustAnchor} :
    readAnchor s.content = .ok a ↔ s.Gives a := by
  unfold readAnchor Section.Gives
  cases TrustAnchor.ofDer s.content <;> simp

theorem loadCertificates_of_malformed {p : PemFault} (read : Pem.sections text = (found, some p)) :
    loadCertificates (.bytes text) = .error (.pem p) := by
  have malformed : Pem.certificates text = .error p := by
    unfold Pem.certificates
    rw [read]
  unfold loadCertificates readMaterial
  simp only [bind, Except.bind, malformed]
  rfl

/-- A text without a fault gives what its certificates hold, if there are any. -/
theorem loadCertificates_of_read (read : Pem.sections text = (found, none)) :
    loadCertificates (.bytes text) =
      if certificatesOf found = [] then .error .noCertificates
      else .ok ((certificatesOf found).map (·.content)) := by
  have given : Pem.certificates text = .ok ((certificatesOf found).map (·.content)) := by
    unfold Pem.certificates
    rw [read]
    rfl
  unfold loadCertificates readMaterial
  simp only [bind, Except.bind, given]
  cases certificatesOf found <;> rfl

theorem loadBundle_of_read (read : Pem.sections text = (found, none))
    (some : certificatesOf found ≠ []) :
    loadBundle (.bytes text) = ((certificatesOf found).map (·.content)).mapM readAnchor := by
  unfold loadBundle
  rw [loadCertificates_of_read read, if_neg some]
  rfl

theorem Flawed.loads (h : Flawed content f) : loadBundle content = .error f := by
  cases h with
  | unopened reason => rfl
  | unread reason => rfl
  | malformed text found p read =>
    unfold loadBundle
    rw [loadCertificates_of_malformed read]
    rfl
  | empty text found read none =>
    unfold loadBundle
    rw [loadCertificates_of_read read, if_pos none]
    rfl
  | unusable text found earlier s later c read split usable refused =>
    have before : ∀ der ∈ earlier.map (·.content), ∃ a, readAnchor der = .ok a := by
      rw [List.forall_mem_map]
      intro t mem
      obtain ⟨a, given⟩ := usable t mem
      exact ⟨a, readAnchor_eq_ok.2 given⟩
    have fails : readAnchor s.content = .error (.anchor c) := by rw [readAnchor, refused]
    rw [loadBundle_of_read read (by simp [split]), split, List.map_append, List.map_cons]
    exact mapM_eq_error before fails

theorem Sound.loads (h : Sound content trusted) : loadBundle content = .ok trusted := by
  obtain ⟨text, found, trusted, read, some, each⟩ := h
  have listed : certificatesOf found ≠ [] := by
    intro none
    rw [none, List.forall₂_nil_left_iff] at each
    exact some each
  rw [loadBundle_of_read read listed, mapM_eq_ok, List.forall₂_map_left_iff]
  simpa only [readAnchor_eq_ok] using each

theorem Sound.nonempty (h : Sound content trusted) : trusted ≠ [] := by
  cases h with
  | bundle _ _ _ _ some _ => exact some

/-! Configurations -/

variable {files : Files} {platform : Platform} {o : Options} {path : String}

theorem atPath_eq_error {α : Type} {r : Except LoadFault α} {e : SetupError}
    (h : atPath path r = .error e) : ∃ f, e = .load path f := by
  cases r with
  | ok a => cases h
  | error f =>
    cases h
    exact ⟨f, rfl⟩

/-- What a client proves itself with has nothing to do with roots. -/
theorem Options.identity_ne_noRoots : o.identity files ≠ .error .noRoots := by
  unfold Options.identity
  split
  next key cert _ _ =>
    cases loaded : atPath cert (loadCertificates (files cert)) with
    | error e =>
      obtain ⟨f, rfl⟩ := atPath_eq_error loaded
      exact nofun
    | ok chain =>
      cases loaded : atPath key (loadPrivateKey (files key)) with
      | error e =>
        obtain ⟨f, rfl⟩ := atPath_eq_error loaded
        exact nofun
      | ok secret =>
        simp only [bind, Except.bind]
        cases Identity.ofParts chain secret <;> exact nofun
  next => exact nofun

namespace ClientConfig

theorem ofOptions_of_invalid {e : OptionsError} (invalid : o.validate = .error e) :
    ofOptions files platform o = ([], .error (.options e)) := by
  rw [ofOptions, invalid]

/-- What is wrong with a bundle is reported before anything else is read. -/
theorem ofOptions_of_flawed (ca : o.ca = some path) (valid : o.validate = .ok ())
    (flawed : Flawed (files path) f) :
    ofOptions files platform o = ([], .error (.load path f)) := by
  have bundle : o.bundle files = .error (.load path f) := by
    simp only [Options.bundle, ca, flawed.loads]
    rfl
  simp only [ofOptions, valid, bundle]

/-- With a bundle that loads only the identity is left to fail. -/
theorem ofOptions_of_sound (ca : o.ca = some path) (valid : o.validate = .ok ())
    (sound : Sound (files path) trusted) :
    (ofOptions files platform o).2 = (o.identity files).map fun identity =>
      ⟨if o.insecure then .anyone else .anchors trusted, identity⟩ := by
  have bundle : o.bundle files = .ok (some trusted) := by
    simp only [Options.bundle, ca, sound.loads]
    rfl
  have trust : (o.trust platform (some trusted)).2 =
      .ok (if o.insecure then .anyone else .anchors trusted) := by
    unfold Options.trust
    split
    next => rfl
    next => simp [sound.nonempty]
  simp only [ofOptions, valid, bundle, trust]
  cases o.identity files <;> rfl

/-- A client with a bundle is set up in one of three ways, and which one it is has nothing to do
with the mode. -/
theorem ofOptions_ways (files : Files) (platform : Platform) (ca : o.ca = some path) :
    (∃ e, ∀ insecure,
      ofOptions files platform { o with insecure } = ([], .error (.options e))) ∨
    (∃ f, ∀ insecure,
      ofOptions files platform { o with insecure } = ([], .error (.load path f))) ∨
    ∃ trusted, ∀ insecure,
      (ofOptions files platform { o with insecure }).2 = (o.identity files).map fun identity =>
        ⟨if insecure then .anyone else .anchors trusted, identity⟩ := by
  cases valid : o.validate with
  | error e => exact .inl ⟨e, fun _ => ofOptions_of_invalid valid⟩
  | ok =>
    rcases flawed_or_sound (files path) with ⟨f, flawed⟩ | ⟨trusted, sound⟩
    · exact .inr (.inl ⟨f, fun _ => ofOptions_of_flawed ca valid flawed⟩)
    · exact .inr (.inr ⟨trusted, fun insecure =>
        ofOptions_of_sound (o := { o with insecure }) ca valid sound⟩)

/-- How a client with a bundle at a path is set up, given whether certificates go unchecked. -/
structure SetUpAlike (files : Files) (o : Options) (path : String)
    (build : Bool → List String × Except SetupError ClientConfig) : Prop where
  /-- Options that are not valid are refused before a file is read. -/
  invalid : ∀ e, o.validate = .error e → ∀ insecure, build insecure = ([], .error (.options e))
  /-- A flaw of the bundle is what is reported. -/
  flawed : o.validate = .ok () → ∀ f, Flawed (files path) f →
    ∀ insecure, build insecure = ([], .error (.load path f))
  /-- There is a flaw exactly if the file is no bundle. -/
  unfit : Unfit (files path) ↔ ∃ f, Flawed (files path) f
  /-- A bundle without a flaw is trusted if certificates are checked, and only the identity is left
  to fail. -/
  sound : o.validate = .ok () → ¬ Unfit (files path) → ∃ trusted, Sound (files path) trusted ∧
    ∀ insecure, (build insecure).2 = (o.identity files).map fun identity =>
      ⟨if insecure then .anyone else .anchors trusted, identity⟩
  /-- Roots are never missing. -/
  rooted : ∀ insecure, (build insecure).2 ≠ .error .noRoots
  /-- The identity, and why there is none, is the same in both modes. -/
  identity : (build true).2.map (·.identity) = (build false).2.map (·.identity)

/-- Whether certificates are checked has no say in how a bundle loads, nor in what is wrong with it,
nor in the identity of the client. -/
theorem bundle_is_judged_alike (files : Files) (platform : Platform) (o : Options) (path : String)
    (ca : o.ca = some path) :
    SetUpAlike files o path fun insecure => ofOptions files platform { o with insecure } where
  invalid _ invalid _ := ofOptions_of_invalid invalid
  flawed valid _ flawed _ := ofOptions_of_flawed ca valid flawed
  unfit := unfit_iff
  sound valid fit := by
    rcases flawed_or_sound (files path) with ⟨f, flawed⟩ | ⟨trusted, sound⟩
    · exact absurd flawed.unfit fit
    · exact ⟨trusted, sound, fun insecure =>
        ofOptions_of_sound (o := { o with insecure }) ca valid sound⟩
  rooted insecure := by
    rcases ofOptions_ways files platform ca with ⟨e, way⟩ | ⟨f, way⟩ | ⟨trusted, way⟩
    · simp [way]
    · simp [way]
    · rw [way]
      cases identity : o.identity files with
      | error e =>
        rintro ⟨⟩
        exact Options.identity_ne_noRoots identity
      | ok identity => exact nofun
  identity := by
    rcases ofOptions_ways files platform ca with ⟨e, way⟩ | ⟨f, way⟩ | ⟨trusted, way⟩
    · rw [way, way]
    · rw [way, way]
    · rw [way, way]
      cases o.identity files <;> rfl

/-- A certificate of the first version. -/
def oldRoot : Section :=
  ⟨.certificate, [48, 20, 48, 13, 2, 1, 1, 48, 0, 48, 0, 48, 0, 48, 0, 48, 0, 48, 0, 3, 1, 0]⟩

def brokenRoot : Section := ⟨.certificate, [0, 0, 0]⟩

def oldRootText : String :=
  "-----BEGIN CERTIFICATE-----\nMBQwDQIBATAAMAAwADAAMAAwAAMBAA==\n-----END CERTIFICATE-----\n"

def brokenRootText : String :=
  "-----BEGIN CERTIFICATE-----\nAAAA\n-----END CERTIFICATE-----\n"

def rootFiles : Files := fun path =>
  if path = "old.pem" then .bytes (Text.toBytes oldRootText)
  else if path = "spoiled.pem" then .bytes (Text.toBytes (oldRootText ++ brokenRootText))
  else .missing

theorem oldRoot_gives : oldRoot.Gives ⟨[], [], none⟩ := by decide +kernel

theorem sound_old : Sound (rootFiles "old.pem") [⟨[], [], none⟩] :=
  .bundle _ [oldRoot] _ (by decide +kernel) (by simp) (.cons oldRoot_gives .nil)

theorem flawed_spoiled : Flawed (rootFiles "spoiled.pem") (.anchor (.encoding .trailing)) :=
  .unusable _ [oldRoot, brokenRoot] [oldRoot] brokenRoot [] _ (by decide +kernel) rfl
    (by simpa using ⟨_, oldRoot_gives⟩) (by decide +kernel)

/-- A root is trusted by itself, and one broken root beside it spoils the bundle in both modes. -/
theorem broken_root_spoils_bundle :
    let build := fun path insecure =>
      ofOptions rootFiles ⟨[], []⟩ { Options.empty with ca := some path, insecure }
    (∀ insecure, build "spoiled.pem" insecure =
      ([], .error (.load "spoiled.pem" (.anchor (.encoding .trailing))))) ∧
    ∃ trusted, Sound (rootFiles "old.pem") trusted ∧ ∀ insecure,
      (build "old.pem" insecure).2 = .ok ⟨if insecure then .anyone else .anchors trusted, none⟩ :=
  ⟨(bundle_is_judged_alike rootFiles ⟨[], []⟩ { Options.empty with ca := some "spoiled.pem" }
      "spoiled.pem" rfl).flawed rfl _ flawed_spoiled,
    (bundle_is_judged_alike rootFiles ⟨[], []⟩ { Options.empty with ca := some "old.pem" }
      "old.pem" rfl).sound rfl sound_old.fit⟩

end ClientConfig

end DynamicRpc.Tls
