import DynamicRpc.Proofs.Http.HeaderName
import DynamicRpc.Proofs.Relay.Outbound

/-!
The trust boundary of the relay. An envelope comes from whoever can reach the relay, so there are
names under which it has no say: the disallowed ones, and the targets of forwarding that have a
source among the inbound headers. What goes out under these depends on the configuration and on the
inbound headers alone.
-/
namespace DynamicRpc.Relay

open Http Success

/-! Configured names -/

theorem configuredName_eq_ok {name : String} {n : HeaderName} :
    configuredName name = .ok n ↔ HeaderName.ofText? name = some n := by
  unfold configuredName
  cases HeaderName.ofText? name <;> simp

/-- The names of a policy are those of its configuration in lower case, in the same order. -/
theorem names_of_ofNames {disallowed : List String} {forward : List ForwardEntry} {p : Policy}
    (h : Policy.ofNames disallowed forward = .ok p) :
    List.Forall₂ (fun s n => HeaderName.ofText? s = some n) disallowed p.disallowed ∧
    List.Forall₂ (fun (f : ForwardEntry) e => HeaderName.ofText? f.source = some e.1 ∧
      HeaderName.ofText? f.target = some e.2) forward p.forward := by
  obtain ⟨names, hnames, h⟩ := bind_eq_ok.1 h
  obtain ⟨entries, hentries, h⟩ := bind_eq_ok.1 h
  rw [pure_eq_ok] at h
  subst h
  refine ⟨(mapM_eq_ok.1 hnames).imp fun _ _ => configuredName_eq_ok.1, ?_⟩
  refine (mapM_eq_ok.1 hentries).imp fun f e hf => ?_
  obtain ⟨source, hsource, hf⟩ := bind_eq_ok.1 hf
  obtain ⟨target, htarget, hf⟩ := bind_eq_ok.1 hf
  rw [pure_eq_ok] at hf
  subst hf
  exact ⟨configuredName_eq_ok.1 hsource, configuredName_eq_ok.1 htarget⟩

/-- A relay has the names, the limit and the origin of its configuration. -/
theorem ofConfig_eq_ok {c : Config} {r : Relay} (h : ofConfig c = .ok r) :
    Policy.ofNames c.disallowedHeaders c.forwardHeaders = .ok r.policy ∧
      r.maxBodyBytes = c.maxBodyBytes ∧
      r.allowedOrigin.map (·.bytes) = c.allowedOrigin.map Text.toBytes := by
  have last : ∀ origin : Option HeaderValue, (do
      return (⟨← Policy.ofNames c.disallowedHeaders c.forwardHeaders, c.maxBodyBytes, origin⟩ :
        Relay)) = .ok r →
      Policy.ofNames c.disallowedHeaders c.forwardHeaders = .ok r.policy ∧
        r.maxBodyBytes = c.maxBodyBytes ∧ r.allowedOrigin = origin := by
    intro origin h
    obtain ⟨p, hp, h⟩ := bind_eq_ok.1 h
    rw [pure_eq_ok] at h
    subst h
    exact ⟨hp, rfl, rfl⟩
  obtain ⟨_, _, h⟩ := bind_eq_ok.1 h
  dsimp only at h
  split at h
  next absent =>
    obtain ⟨policy, limit, origin⟩ := last none h
    exact ⟨policy, limit, by rw [origin, absent]; rfl⟩
  next text given =>
    split at h
    next v hv =>
      obtain ⟨policy, limit, origin⟩ := last _ h
      refine ⟨policy, limit, ?_⟩
      rw [origin, given, Option.map_some, Option.map_some, bytes_of_ofText? hv]
    next => cases h

theorem policy_of_ofConfig {c : Config} {r : Relay} (h : ofConfig c = .ok r) :
    Policy.ofNames c.disallowedHeaders c.forwardHeaders = .ok r.policy :=
  (ofConfig_eq_ok h).1

/-- Spellings that differ in the case of letters name the same header. -/
theorem ofText?_eq_of_equalIgnoringCase {a b : String} (h : Text.equalIgnoringCase a b = true) :
    HeaderName.ofText? a = HeaderName.ofText? b := by
  have lower : Text.lowerAscii a = Text.lowerAscii b := by
    simpa [Text.equalIgnoringCase] using h
  simp only [HeaderName.ofText?, lower]

/-! The checks on an envelope -/

theorem refused?_eq_none {p : Policy} {headers : List EnvelopeHeader} :
    p.refused? headers = none ↔
      ∀ h ∈ headers, ∀ n ∈ p.disallowed, HeaderName.ofText? h.key ≠ some n := by
  simp only [Policy.refused?, Option.map_eq_none_iff, List.find?_eq_none]
  refine forall₂_congr fun h _ => ?_
  cases hn : HeaderName.ofText? h.key with
  | none => simp [Policy.refuses, hn]
  | some n =>
    simp only [Policy.refuses, hn, List.contains_eq_mem, decide_eq_true_eq]
    exact ⟨fun h x hx he => h (Option.some.inj he ▸ hx), fun h hx => h n hx rfl⟩

/-- All that has to hold before an outbound request is made. -/
theorem prepare_eq_ok {r : Relay} {q : Inbound} {out : Outbound} (h : r.prepare q = .ok out) :
    ∃ e m, r.readEnvelope q = .ok e ∧ r.policy.refused? e.headers = none ∧
      prepare.collect e.headers = .ok m ∧
      r.policy.applyForwarding? q.headers m = some out.headers ∧
      readTarget e.target = .ok out.target ∧ out.body = e.body ∧
      out.method = "POST" ∧ out.version = .http2 := by
  obtain ⟨e, he, h⟩ := bind_eq_ok.1 h
  cases hrefused : r.policy.refused? e.headers with
  | some name => simp [hrefused, throw, throwThe, MonadExceptOf.throw] at h
  | none =>
    simp only [hrefused] at h
    obtain ⟨m, hm, h⟩ := bind_eq_ok.1 h
    obtain ⟨headers, hheaders, h⟩ := bind_eq_ok.1 h
    obtain ⟨target, htarget, h⟩ := bind_eq_ok.1 h
    rw [pure_eq_ok] at h
    subst h
    exact ⟨e, m, refusing_eq_ok.1 he, hrefused, hm, overflowing_eq_ok.1 hheaders,
      refusing_eq_ok.1 htarget, rfl, rfl, rfl⟩

/-- The upstream sees what was prepared, and only that. -/
theorem prepare_of_handle {r : Relay} {u : Upstream} {q : Inbound} {a : Response} {out : Outbound}
    (h : r.handle u q = some (a, some out)) : r.prepare q = .ok out := by
  unfold handle at h
  split at h
  · cases h
  · cases h
  next sent hsent =>
    split at h <;> cases h <;> exact hsent

/-- A header with a disallowed name ends a request before the upstream is called. -/
theorem handle_of_refused {r : Relay} {q : Inbound} {e : RequestEnvelope} {name : String}
    (he : r.readEnvelope q = .ok e) (h : r.policy.refused? e.headers = some name) (u : Upstream) :
    r.handle u q = some (r.respondError (.disallowedHeader name), none) := by
  have stopped : r.prepare q = .error (.refused (.disallowedHeader name)) := by
    simp [prepare, he, refusing, h, bind, Except.bind, throw, throwThe, MonadExceptOf.throw]
  simp [handle, stopped]

/-- What goes out under a name: the forwarded values if there are any, else the envelope's. -/
theorem values_of_prepare {r : Relay} {q : Inbound} {out : Outbound} (h : r.prepare q = .ok out) :
    ∃ e, r.readEnvelope q = .ok e ∧ r.policy.refused? e.headers = none ∧
      ∀ n, out.headers.values n =
        (forwarded? q.headers n r.policy.forward).getD (envelopeValues e.headers n) := by
  obtain ⟨e, m, he, hrefused, hm, hout, _⟩ := prepare_eq_ok h
  refine ⟨e, he, hrefused, fun n => ?_⟩
  rw [values_applyForwarding hout, values_collect hm]

theorem envelopeValues_of_refused?_eq_none {p : Policy} {headers : List EnvelopeHeader}
    {n : HeaderName} (h : p.refused? headers = none) (hn : n ∈ p.disallowed) :
    envelopeValues headers n = [] := by
  have absent : (headers.filter fun h => HeaderName.ofText? h.key = some n) = [] := by
    rw [List.filter_eq_nil_iff]
    intro e he
    simpa using refused?_eq_none.1 h e he n hn
  simp [envelopeValues, absent]

/-! The boundary -/

/-- The names under which an envelope has no say. -/
def Config.Reserves (c : Config) (inbound : HeaderMap) (n : HeaderName) : Prop :=
  (∃ name ∈ c.disallowedHeaders, HeaderName.ofText? name = some n) ∨
  ∃ f ∈ c.forwardHeaders, HeaderName.ofText? f.target = some n ∧
    ∃ source, HeaderName.ofText? f.source = some source ∧ inbound.values source ≠ []

/-- What a reserved name carries is decided without the envelope. -/
theorem values_of_reserved {c : Config} {r : Relay} (hr : ofConfig c = .ok r) {q : Inbound}
    {out : Outbound} (h : r.prepare q = .ok out) {n : HeaderName}
    (hn : c.Reserves q.headers n) :
    out.headers.values n = (forwarded? q.headers n r.policy.forward).getD [] := by
  obtain ⟨hdisallowed, hforward⟩ := names_of_ofNames (policy_of_ofConfig hr)
  obtain ⟨e, _, hrefused, hvalues⟩ := values_of_prepare h
  rw [hvalues]
  rcases hn with ⟨name, hname, hn⟩ | ⟨f, hf, htarget, source, hsource, present⟩
  · obtain ⟨n', hn', hkey⟩ := exists_of_forall₂_left hdisallowed hname
    obtain rfl : n' = n := by simpa [hn] using hkey.symm
    rw [envelopeValues_of_refused?_eq_none hrefused hn']
  · obtain ⟨entry, hentry, hkeys⟩ := exists_of_forall₂_left hforward hf
    obtain ⟨rfl⟩ : source = entry.1 := by simpa [hsource] using hkeys.1
    obtain ⟨rfl⟩ : n = entry.2 := by simpa [htarget] using hkeys.2
    have feeding : feeds q.headers entry.2 entry = true := by simp [feeds, present]
    obtain ⟨values, hsome⟩ := forwarded?_eq_some_of_mem hentry feeding
    simp [hsome]

/-- Two requests with the same inbound headers that both reach an upstream agree on every reserved
name, whatever their envelopes say; an envelope that spells a disallowed name never gets there. -/
theorem envelope_has_no_say {c : Config} {r : Relay} (hr : ofConfig c = .ok r) :
    (∀ (u₁ u₂ : Upstream) (q₁ q₂ : Inbound) (a₁ a₂ : Response) (out₁ out₂ : Outbound),
      q₁.headers = q₂.headers →
      r.handle u₁ q₁ = some (a₁, some out₁) → r.handle u₂ q₂ = some (a₂, some out₂) →
      ∀ n, c.Reserves q₁.headers n → out₁.headers.values n = out₂.headers.values n) ∧
    ∀ (q : Inbound) (e : RequestEnvelope), r.readEnvelope q = .ok e →
      ∀ h ∈ e.headers, ∀ name ∈ c.disallowedHeaders, Text.equalIgnoringCase h.key name = true →
      ∃ refused ∈ e.headers, ∀ u : Upstream,
        r.handle u q = some (r.respondError (.disallowedHeader refused.key), none) := by
  constructor
  · intro u₁ u₂ q₁ q₂ a₁ a₂ out₁ out₂ hq h₁ h₂ n hn
    rw [values_of_reserved hr (prepare_of_handle h₁) hn,
      values_of_reserved hr (prepare_of_handle h₂) (hq ▸ hn), hq]
  · intro q e he h hh name hname hkey
    obtain ⟨n, hn, hnamed⟩ :=
      exists_of_forall₂_left (names_of_ofNames (policy_of_ofConfig hr)).1 hname
    rw [← ofText?_eq_of_equalIgnoringCase hkey] at hnamed
    cases hrefused : r.policy.refused? e.headers with
    | none => exact absurd hnamed (refused?_eq_none.1 hrefused h hh n hn)
    | some key =>
      obtain ⟨refused, hfound, rfl⟩ := Option.map_eq_some_iff.1 hrefused
      exact ⟨refused, List.mem_of_find?_eq_some hfound, handle_of_refused he hrefused⟩

/-! A relay that forwards a session as the authorization of a request -/

def authorization : HeaderName := ⟨"authorization", by decide⟩

def guardedConfig : Config :=
  { Config.empty with
    disallowedHeaders := ["Cookie"], forwardHeaders := [⟨"X-Session", "Authorization"⟩] }

def guardedRelay : Relay :=
  ⟨⟨[⟨"cookie", by decide⟩], [(⟨"x-session", by decide⟩, authorization)]⟩, 5242880, none⟩

def trusted : HeaderValue := ⟨Text.toBytes "trusted", by decide⟩

def sessionHeaders : HeaderMap :=
  (HeaderMap.empty.appendAll?
    [(contentType, plainText), (⟨"x-session", by decide⟩, trusted)]).getD .empty

def carrying (headers : List EnvelopeHeader) : Inbound :=
  ⟨"POST", sessionHeaders,
    [Text.toBytes (Base64.encode (RequestEnvelope.encode ⟨"http://a/b", headers, []⟩))], none⟩

/-- The request that goes out with a trusted session and an accepted kind of content. -/
def trustedOutbound (accepted : HeaderValue) : Outbound :=
  ⟨"POST", ⟨some "http", some "a", "/b", none⟩, .http2,
    (HeaderMap.empty.appendAll?
      [(⟨"accept", by decide⟩, accepted), (authorization, trusted)]).getD .empty, []⟩

def unreachable : Upstream := fun _ => .error "unreachable"

/-- Two forged authorizations are replaced by the session, and a cookie in odd case is refused. -/
theorem forged_headers_go_unheard :
    guardedRelay.handle unreachable
        (carrying [⟨"accept", ["*"]⟩, ⟨"authorization", ["forged"]⟩]) =
      some (guardedRelay.respondError (.upstream "unreachable"),
        some (trustedOutbound ⟨[42], by decide⟩)) ∧
    guardedRelay.handle unreachable
        (carrying [⟨"Accept", [""]⟩, ⟨"AUTHORIZATION", ["a", "b"]⟩, ⟨"authorization", ["c"]⟩]) =
      some (guardedRelay.respondError (.upstream "unreachable"),
        some (trustedOutbound ⟨[], by decide⟩)) ∧
    (trustedOutbound ⟨[42], by decide⟩).headers.values authorization =
      (trustedOutbound ⟨[], by decide⟩).headers.values authorization ∧
    ∃ refused ∈ [(⟨"cOOKIE", []⟩ : EnvelopeHeader)],
      guardedRelay.handle unreachable (carrying [⟨"cOOKIE", []⟩]) =
        some (guardedRelay.respondError (.disallowedHeader refused.key), none) := by
  have forged : guardedRelay.handle unreachable
      (carrying [⟨"accept", ["*"]⟩, ⟨"authorization", ["forged"]⟩]) =
        some (guardedRelay.respondError (.upstream "unreachable"),
          some (trustedOutbound ⟨[42], by decide⟩)) := by decide +kernel
  have repeated : guardedRelay.handle unreachable
      (carrying [⟨"Accept", [""]⟩, ⟨"AUTHORIZATION", ["a", "b"]⟩, ⟨"authorization", ["c"]⟩]) =
        some (guardedRelay.respondError (.upstream "unreachable"),
          some (trustedOutbound ⟨[], by decide⟩)) := by decide +kernel
  have inbound : (carrying [⟨"accept", ["*"]⟩, ⟨"authorization", ["forged"]⟩]).headers =
      (carrying [⟨"Accept", [""]⟩, ⟨"AUTHORIZATION", ["a", "b"]⟩,
        ⟨"authorization", ["c"]⟩]).headers := rfl
  have read : guardedRelay.readEnvelope (carrying [⟨"cOOKIE", []⟩]) =
      .ok ⟨"http://a/b", [⟨"cOOKIE", []⟩], []⟩ := eq_ok_of_toOption (by decide +kernel)
  have reserved : guardedConfig.Reserves sessionHeaders authorization :=
    .inr ⟨_, List.mem_singleton_self _, by decide, _, rfl, by decide +kernel⟩
  have configured : ofConfig guardedConfig = .ok guardedRelay := rfl
  obtain ⟨same, refuse⟩ := envelope_has_no_say configured
  obtain ⟨refused, hrefused, h⟩ :=
    refuse _ _ read _ (List.mem_singleton_self _) "Cookie" (by decide) (by decide)
  exact ⟨forged, repeated,
    same _ _ _ _ _ _ _ _ inbound forged repeated authorization reserved,
    refused, hrefused, h unreachable⟩

end DynamicRpc.Relay
