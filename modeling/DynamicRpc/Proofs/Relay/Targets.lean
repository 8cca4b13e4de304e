import DynamicRpc.Proofs.Http.Uri
import DynamicRpc.Proofs.Relay.Checks

/-!
Where a relay sends requests. A target is taken if it reads as a URI with a web scheme, and with a
scheme there is always an authority; every other text is refused with a reason. The authority need
not name a host, as a colon in its place is enough.
-/
namespace DynamicRpc.Relay

open Http Success

variable {c : Config} {r : Relay} {q : Inbound} {e : RequestEnvelope} {text : String}
  {target : Uri}

/-! Targets -/

/-- A text that reads as a URI with a web scheme. -/
structure WebTarget (text : String) (target : Uri) : Prop where
  read : Uri.ofText text = .ok target
  scheme : target.scheme = some "http" ∨ target.scheme = some "https"

/-- What keeps a text from being a target, and the reason that is told. -/
inductive Untargetable (text : String) : String → Prop where
  | unread (fault : UriError) (h : Uri.ofText text = .error fault) :
    Untargetable text fault.message
  | bare (uri : Uri) (read : Uri.ofText text = .ok uri) (lone : uri.scheme = none) :
    Untargetable text "missing scheme"
  | foreign (uri : Uri) (scheme : String) (read : Uri.ofText text = .ok uri)
    (given : uri.scheme = some scheme) (other : scheme ≠ "http" ∧ scheme ≠ "https") :
    Untargetable text "scheme must be http or https"

theorem WebTarget.targetable (web : WebTarget text target) {reason : String} :
    ¬ Untargetable text reason := by
  intro bad
  cases bad with
  | unread fault h => cases h.symm.trans web.read
  | bare uri read lone =>
    cases read.symm.trans web.read
    rcases web.scheme with scheme | scheme <;> cases lone.symm.trans scheme
  | foreign uri scheme read given other =>
    cases read.symm.trans web.read
    rcases web.scheme with web | web <;> cases given.symm.trans web
    · exact other.1 rfl
    · exact other.2 rfl

/-- There is one reason for a text. -/
theorem Untargetable.unique {a b : String} (ha : Untargetable text a) (hb : Untargetable text b) :
    a = b := by
  cases ha with
  | unread fault h =>
    cases hb with
    | unread fault' h' => rw [Except.error.inj (h.symm.trans h')]
    | bare uri read => cases h.symm.trans read
    | foreign uri scheme read => cases h.symm.trans read
  | bare uri read lone =>
    cases hb with
    | unread fault h => cases h.symm.trans read
    | bare => rfl
    | foreign uri' scheme read' given =>
      cases read.symm.trans read'
      cases lone.symm.trans given
  | foreign uri scheme read given =>
    cases hb with
    | unread fault h => cases h.symm.trans read
    | bare uri' read' lone =>
      cases read.symm.trans read'
      cases lone.symm.trans given
    | foreign => rfl

/-- What stands for the host of a target: it is missing if a colon follows the user information. -/
structure Addressed (target : Uri) (authority : String) : Prop where
  given : target.authority = some authority
  filled : authority ≠ ""
  host : target.host = [] ↔ (Authority.withoutUser authority.toList).head? = some ':'

theorem WebTarget.addressed (web : WebTarget text target) :
    ∃ authority, Addressed target authority := by
  obtain ⟨scheme, given⟩ : ∃ scheme, target.scheme = some scheme := by
    rcases web.scheme with scheme | scheme <;> exact ⟨_, scheme⟩
  obtain ⟨authority, there, filled, last⟩ :=
    (Uri.reads_of_ofText web.read).authority_of_scheme given
  refine ⟨authority, there, filled, ?_⟩
  rw [Uri.host, there]
  exact Authority.host_eq_nil (by simpa using filled) last

/-- Reading a target ends with the target, or with what keeps the text from being one. -/
inductive Targeting (text : String) : Except RelayError Uri → Prop where
  | web (target : Uri) (web : WebTarget text target) : Targeting text (.ok target)
  | refused (reason : String) (bad : Untargetable text reason) :
    Targeting text (.error (.target text reason))

theorem readTarget_targeting (text : String) : Targeting text (readTarget text) := by
  unfold readTarget
  split
  next fault h => exact .refused _ (.unread fault h)
  next uri read =>
    split
    next lone => exact .refused _ (.bare uri read lone)
    next scheme given =>
      split
      next web =>
        simp only [Bool.or_eq_true, decide_eq_true_eq] at web
        have target : WebTarget text uri :=
          ⟨read, web.imp (given.trans <| congrArg some ·) (given.trans <| congrArg some ·)⟩
        obtain ⟨authority, there⟩ := target.addressed
        -- The check of the authority has nothing left to find.
        rw [there.given, Option.isSome_some, if_pos rfl]
        exact .web uri target
      next other =>
        simp only [Bool.or_eq_true, decide_eq_true_eq, not_or] at other
        exact .refused _ (.foreign uri scheme read given other)

theorem webTarget_of_readTarget (h : readTarget text = .ok target) : WebTarget text target := by
  have x := readTarget_targeting text
  rw [h] at x
  cases x with
  | web _ web => exact web

/-! Requests to targets -/

/-- A request that is prepared goes to the target of its envelope. -/
theorem target_of_prepare (hr : ofConfig c = .ok r) {out : Outbound}
    (h : r.prepare q = .ok out) :
    ∃ e, q.envelope? = some e ∧ WebTarget e.target out.target := by
  obtain ⟨e, _, read, _, _, _, target, _⟩ := prepare_eq_ok h
  have x := readEnvelope_reading (q := q) (ofConfig_eq_ok hr).2.1
  rw [read] at x
  cases x with
  | read _ _ there => exact ⟨e, there, webTarget_of_readTarget target⟩

/-- Where only the target can fail, a refusal is one of the target. -/
theorem untargetable_of_prepare (hr : ofConfig c = .ok r) (there : q.envelope? = some e)
    (earlier : ∀ k : Check, k ≠ .target → k.failure? c q = none) {err : RelayError}
    (h : r.prepare q = .error (.refused err)) :
    ∃ reason, Untargetable e.target reason ∧ err = .target e.target reason := by
  have x := prepare_preparing (q := q) hr
  rw [h] at x
  cases x with
  | refused k _ first =>
    have failed := failure_of_first first
    obtain rfl : k = .target := by
      by_contra other
      cases (earlier k other).symm.trans failed
    simp only [Check.failure?, there, Option.bind_some] at failed
    obtain ⟨_, read, rfl⟩ := refusal?_eq_some failed
    have y := readTarget_targeting e.target
    rw [read] at y
    cases y with
    | refused reason bad => exact ⟨reason, bad, rfl⟩

/-- What reaches the upstream has a web scheme and an authority. Once all other checks are passed,
a web target is what the upstream gets and any other text is answered as an invalid target; there is
no response only over too many names. -/
theorem only_web_targets_are_passed_on (hr : ofConfig c = .ok r) (u : Upstream) (q : Inbound) :
    (∀ a out, r.handle u q = some (a, some out) → ∃ e authority, q.envelope? = some e ∧
      WebTarget e.target out.target ∧ Addressed out.target authority) ∧
    ∀ e, q.envelope? = some e → (∀ k : Check, k ≠ .target → k.failure? c q = none) →
      (r.handle u q = none → c.Crowds q) ∧
      ∀ a sent, r.handle u q = some (a, sent) →
        (∀ target, WebTarget e.target target → ∃ out, sent = some out ∧ out.target = target) ∧
        ∀ reason, Untargetable e.target reason →
          sent = none ∧ a.status = 400 ∧ a.body = (RelayError.target e.target reason).message := by
  constructor
  · intro a out h
    obtain ⟨e, there, web⟩ := target_of_prepare hr (prepare_of_handle h)
    obtain ⟨authority, addressed⟩ := web.addressed
    exact ⟨e, authority, there, web, addressed⟩
  · intro e there earlier
    have x := prepare_preparing (q := q) hr
    unfold handle
    cases h : r.prepare q with
    | error stop =>
      cases stop with
      | overflow =>
        rw [h] at x
        cases x with
        | crowded crowds => exact ⟨fun _ => crowds, nofun⟩
      | refused err =>
        obtain ⟨reason, bad, rfl⟩ := untargetable_of_prepare hr there earlier h
        refine ⟨nofun, ?_⟩
        rintro _ _ ⟨⟩
        refine ⟨fun target web => absurd bad web.targetable, fun reason' bad' => ?_⟩
        rw [bad'.unique bad]
        exact ⟨rfl, rfl, rfl⟩
    | ok out =>
      obtain ⟨e', there', web⟩ := target_of_prepare hr h
      cases there.symm.trans there'
      dsimp only
      have sent_there : ∀ target, WebTarget e.target target →
          ∃ out', some out = some out' ∧ out'.target = target := by
        intro target web'
        cases web.read.symm.trans web'.read
        exact ⟨out, rfl, rfl⟩
      cases u out <;> refine ⟨nofun, ?_⟩ <;> rintro _ _ ⟨⟩ <;>
        exact ⟨sent_there, fun _ bad => absurd bad web.targetable⟩

/-! Requests without headers -/

def aimedAt (target : String) : Inbound :=
  ⟨"POST", sessionHeaders,
    [Text.toBytes (Base64.encode (RequestEnvelope.encode ⟨target, [], []⟩))], none⟩

/-- A scheme that is none of the web is told, and the upstream sees nothing. -/
theorem foreign_scheme_is_told : ∃ a, guardedRelay.handle unreachable (aimedAt "ftp://a/b") =
      some (a, none) ∧ a.status = 400 ∧
    a.body = "invalid target 'ftp://a/b': scheme must be http or https" := by
  have configured : ofConfig guardedConfig = .ok guardedRelay := rfl
  have there : (aimedAt "ftp://a/b").envelope? = some ⟨"ftp://a/b", [], []⟩ := by decide +kernel
  have earlier : ∀ k : Check, k ≠ .target →
      k.failure? guardedConfig (aimedAt "ftp://a/b") = none := by
    intro k
    cases k <;> decide +kernel
  have read : Uri.ofText "ftp://a/b" = .ok ⟨some "ftp", some "a", "/b", none⟩ :=
    eq_ok_of_toOption (by decide +kernel)
  have foreign : Untargetable "ftp://a/b" "scheme must be http or https" :=
    .foreign _ _ read rfl (by decide)
  obtain ⟨_, decides⟩ :=
    only_web_targets_are_passed_on configured unreachable (aimedAt "ftp://a/b")
  obtain ⟨crowded, decides⟩ := decides _ there earlier
  cases h : guardedRelay.handle unreachable (aimedAt "ftp://a/b") with
  | none =>
    obtain ⟨e, there', many⟩ := crowded h
    cases there.symm.trans there'
    exact absurd many (by decide +kernel)
  | some answer =>
    obtain ⟨silent, status, body⟩ := (decides answer.1 answer.2 h).2 _ foreign
    exact ⟨answer.1, by rw [← silent], status, body.trans (by decide +kernel)⟩

/-- A port alone is taken for an address, and the upstream gets a request to no host. -/
theorem port_passes_for_a_host : ∃ out,
    guardedRelay.handle unreachable (aimedAt "http://:80/x") =
      some (guardedRelay.respondError (.upstream "unreachable"), some out) ∧
    out.target = ⟨some "http", some ":80", "/x", none⟩ ∧ out.target.host = [] := by
  let headers := (HeaderMap.empty.appendAll? [(authorization, trusted)]).getD .empty
  have handled : guardedRelay.handle unreachable (aimedAt "http://:80/x") =
      some (guardedRelay.respondError (.upstream "unreachable"),
        some ⟨"POST", ⟨some "http", some ":80", "/x", none⟩, .http2, headers, []⟩) := by
    decide +kernel
  exact ⟨_, handled, rfl, by decide⟩

end DynamicRpc.Relay
