import DynamicRpc.Proofs.Relay.Carrying

/-!
When there is a response. A name takes room in the text of an envelope, so a limit on the text
bounds the names; but the default limit is far above what a collection of headers can hold, and a
request within it may get no response.
-/
namespace DynamicRpc.Relay

open Http Success

variable {c : Config} {r : Relay} {q : Inbound} {e : RequestEnvelope}

/-! The room that names take -/

theorem toBytes_ne_nil {s : String} (filled : s ≠ "") : Text.toBytes s ≠ [] := by
  intro none
  have same := Text.ofBytes?_toBytes s
  rw [none] at same
  exact filled (Option.some.inj same).symm

/-- Keys and lengths, a letter and a value: a header that brings a name takes seven bytes. -/
theorem EnvelopeHeader.seven_le_size {h : EnvelopeHeader} {n : HeaderName}
    (brings : h.name? = some n) : 7 ≤ 2 + h.size := by
  rw [EnvelopeHeader.name?] at brings
  split at brings
  next => cases brings
  next some =>
    have filled : h.key ≠ "" := by
      intro empty
      rw [empty] at brings
      cases brings
    have letter := List.length_pos_iff.2 (toBytes_ne_nil filled)
    have value : 2 ≤ (h.values.map fun v => 2 + (Text.toBytes v).length).sum := by
      obtain ⟨v, rest, values⟩ := List.exists_cons_of_ne_nil some
      rw [values, List.map_cons, List.sum_cons]
      omega
    rw [EnvelopeHeader.size, if_neg filled]
    omega

theorem names_le_size (headers : List EnvelopeHeader) :
    7 * (headers.filterMap (·.name?)).length ≤ (headers.map fun h => 2 + h.size).sum := by
  induction headers with
  | nil => exact Nat.le_refl _
  | cons h rest ih =>
    rw [List.map_cons, List.sum_cons]
    cases brings : h.name? with
    | none =>
      simp only [List.filterMap_cons, brings]
      omega
    | some n =>
      have seven := EnvelopeHeader.seven_le_size brings
      simp only [List.filterMap_cons, brings, List.length_cons]
      omega

/-- A text of a few bytes brings a few names. -/
theorem names_le_text (there : q.envelope? = some e) :
    28 * (e.headers.filterMap (·.name?)).length ≤ 3 * q.text.length := by
  obtain ⟨wire, hwire, decoded⟩ := Option.bind_eq_some_iff.1 there
  have headers : 7 * (e.headers.filterMap (·.name?)).length ≤ wire.length :=
    Nat.le_trans (names_le_size e.headers)
      (RequestEnvelope.size_le (eq_ok_of_toOption decoded))
  have symbols := Base64.length_of_decode (eq_ok_of_toOption hwire)
  have filtered := List.length_filter_le (!isLineBreak ·) q.text
  omega

theorem outboundNames_le (c : Config) (inbound : HeaderMap) (headers : List EnvelopeHeader) :
    (c.outboundNames inbound headers).dedup.length ≤
      (headers.filterMap (·.name?)).length + c.forwardHeaders.length := by
  have distinct := (List.dedup_sublist (c.outboundNames inbound headers)).length_le
  have forwarded := List.length_filterMap_le (·.name? inbound) c.forwardHeaders
  rw [Config.outboundNames, List.length_append] at distinct
  exact Nat.le_trans distinct (Nat.add_le_add_left forwarded _)

/-! Responses -/

/-- Headers can only overflow once the envelope is read. -/
theorem read_of_overflow (limit : r.maxBodyBytes = c.maxBodyBytes)
    (h : r.prepare q = .error .overflow) :
    q.text.length ≤ c.maxBodyBytes ∧ ∃ e, q.envelope? = some e := by
  have x := readEnvelope_reading (q := q) limit
  cases read : r.readEnvelope q with
  | error e =>
    rw [prepare, read] at h
    cases h
  | ok e =>
    rw [read] at x
    cases x with
    | read _ passed there =>
      have body := passed .body (by decide)
      simp only [Check.failure?] at body
      split at body
      next => cases body
      next within => exact ⟨Nat.not_lt.1 within, e, there⟩

theorem prepare_of_no_response {u : Upstream} (h : r.handle u q = none) :
    r.prepare q = .error .overflow := by
  unfold handle at h
  split at h
  next overflow => exact overflow
  next => cases h
  next => split at h <;> cases h

theorem crowds_of_no_response (hr : ofConfig c = .ok r) {u : Upstream}
    (h : r.handle u q = none) : c.Crowds q := by
  have x := prepare_preparing (q := q) hr
  rw [prepare_of_no_response h] at x
  cases x with
  | crowded crowds => exact crowds

/-- There is no response only if the envelope and the forwarded headers bring so many names that a
collection may take no more; a request that passes all checks and brings more than a collection can
hold never gets one; and where the limit on the text is small enough, every request gets a
response. -/
theorem names_decide_response (hr : ofConfig c = .ok r) (u : Upstream) :
    (∀ q, r.handle u q = none → c.Crowds q) ∧
    (∀ q e, q.envelope? = some e → firstFailure? c q = none →
      HeaderMap.maxNames < (c.outboundNames q.headers e.headers).dedup.length →
      r.handle u q = none) ∧
    (3 * c.maxBodyBytes + 28 * c.forwardHeaders.length < 28 * HeaderMap.guardedNames →
      ∀ q, ∃ a sent, r.handle u q = some (a, sent)) := by
  refine ⟨fun q => crowds_of_no_response hr,
    fun q e there passed many => no_response_of_crowded hr there passed many u, ?_⟩
  intro small q
  cases h : r.handle u q with
  | some answer => exact ⟨answer.1, answer.2, rfl⟩
  | none =>
    -- Seven bytes for each name, and four symbols for three bytes: the limit leaves no room.
    obtain ⟨e, there, many⟩ := crowds_of_no_response hr h
    have within := (read_of_overflow (ofConfig_eq_ok hr).2.1 (prepare_of_no_response h)).1
    have names := names_le_text there
    have brought := outboundNames_le c q.headers e.headers
    omega

/-! A relay with a small limit -/

/-- The names of a text of this length fit into a collection, and one that is forwarded. -/
def modestConfig : Config := { guardedConfig with maxBodyBytes := 60000 }

theorem modest_relay_responds : ∃ r, ofConfig modestConfig = .ok r ∧
    ∀ q, ∃ a sent, r.handle unreachable q = some (a, sent) := by
  have configured : ofConfig modestConfig = .ok { guardedRelay with maxBodyBytes := 60000 } := rfl
  obtain ⟨_, _, responds⟩ := names_decide_response configured unreachable
  exact ⟨_, configured, responds (by decide +kernel)⟩

/-! All words in one envelope -/

/-- An envelope within the default limit, with proper headers and a proper target, has no
response, whatever the upstream. -/
theorem words_get_no_response : ∃ r, ofConfig .empty = .ok r ∧
    (carrying (naming words)).Carries (namingEnvelope words) Config.empty.maxBodyBytes ∧
    Config.empty.Takes (namingEnvelope words) webTarget ∧
    ∀ u, r.handle u (carrying (naming words)) = none := by
  obtain ⟨r, hr⟩ : ∃ r, ofConfig .empty = .ok r := ⟨_, rfl⟩
  have names : (Config.empty.outboundNames sessionHeaders (naming words)).map (·.text) = words := by
    rw [Config.outboundNames, List.map_append, text_names_naming (List.Subset.refl _)]
    exact List.append_nil _
  have count : (Config.empty.outboundNames sessionHeaders (naming words)).dedup.length =
      HeaderMap.maxNames + 1 := by
    rw [length_dedup_of_texts names nodup_words, length_words]
  exact ⟨r, hr, carrying_naming (List.Sublist.refl _), takes_naming rfl (List.Subset.refl _),
    no_response_of_naming hr rfl rfl (List.Sublist.refl _) (count ▸ Nat.lt_succ_self _)⟩

end DynamicRpc.Relay
