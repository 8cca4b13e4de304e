import DynamicRpc.Proofs.Http.HeaderName
import DynamicRpc.Proofs.Relay.Carrying

/-!
What an envelope turns into. The upstream gets one request with the target and the body of the
envelope; a name that nothing is forwarded to has all values that the envelope gives it, in whatever
spelling, in their order.
-/
namespace DynamicRpc.Relay

open Http Success

variable {c : Config} {r : Relay} {q : Inbound} {e : RequestEnvelope} {target : Uri}
  {inbound m m' : HeaderMap} {n : HeaderName}

/-! Values of an envelope -/

/-- The bytes that the headers of an envelope spell for a name, in whatever case, in order. -/
def spelledValues (headers : List EnvelopeHeader) (n : HeaderName) : List Bytes :=
  (headers.filter fun h => Text.equalIgnoringCase h.key n.text).flatMap fun h =>
    h.values.map Text.toBytes

/-- Proper values are collected as they are spelled. -/
theorem bytes_filterMap_ofText? {values : List String}
    (valid : ∀ v ∈ values, HeaderValue.ofText? v ≠ none) :
    (values.filterMap HeaderValue.ofText?).map (·.bytes) = values.map Text.toBytes := by
  induction values with
  | nil => rfl
  | cons v rest ih =>
    rw [List.forall_mem_cons] at valid
    obtain ⟨w, hw⟩ := Option.ne_none_iff_exists'.1 valid.1
    rw [List.filterMap_cons_some hw, List.map_cons, List.map_cons, ih valid.2, bytes_of_ofText? hw]

theorem bytes_envelopeValues {headers : List EnvelopeHeader}
    (valid : ∀ h ∈ headers, ∀ v ∈ h.values, HeaderValue.ofText? v ≠ none) (n : HeaderName) :
    (envelopeValues headers n).map (·.bytes) = spelledValues headers n := by
  induction headers with
  | nil => rfl
  | cons h rest ih =>
    rw [List.forall_mem_cons] at valid
    have tail := ih valid.2
    simp only [envelopeValues, spelledValues, List.filter_cons, HeaderName.ofText?_eq_some,
      decide_eq_true_eq] at tail ⊢
    split
    next same =>
      rw [List.flatMap_cons, List.flatMap_cons, List.map_append, tail,
        bytes_filterMap_ofText? valid.1]
    next => exact tail

/-! Names of an outbound request -/

theorem names_forwardOne {names : List HeaderName} {entry : HeaderName × HeaderName}
    (h : Policy.forwardOne inbound m entry = some m') (among : m.names ⊆ names)
    (brought : inbound.values entry.1 ≠ [] → entry.2 ∈ names) : m'.names ⊆ names := by
  unfold Policy.forwardOne at h
  split at h
  next =>
    cases h
    exact among
  next present =>
    refine HeaderMap.names_appendAll h (List.Subset.trans (m.names_remove entry.2) among) ?_
    intro p hp
    obtain ⟨v, _, rfl⟩ := List.mem_map.1 hp
    exact brought present

theorem names_forwardAll {names : List HeaderName} {entries : List (HeaderName × HeaderName)}
    (h : entries.foldlM (Policy.forwardOne inbound) m = some m') (among : m.names ⊆ names)
    (brought : ∀ entry ∈ entries, inbound.values entry.1 ≠ [] → entry.2 ∈ names) :
    m'.names ⊆ names := by
  induction entries generalizing m with
  | nil =>
    cases h
    exact among
  | cons entry rest ih =>
    obtain ⟨m₁, first, h⟩ := Option.bind_eq_some_iff.1 h
    rw [List.forall_mem_cons] at brought
    exact ih h (names_forwardOne first among brought.1) brought.2

/-- Nothing is forwarded to a name that no entry brings. -/
theorem forwarded?_eq_none (hr : ofConfig c = .ok r)
    (kept : n ∉ c.forwardHeaders.filterMap (·.name? inbound)) :
    forwarded? inbound n r.policy.forward = none := by
  rw [forwarded?, Option.map_eq_none_iff, List.getLast?_eq_none_iff, List.filter_eq_nil_iff]
  intro entry mem feeding
  simp only [feeds, Bool.and_eq_true, decide_eq_true_eq, Bool.not_eq_true',
    List.isEmpty_eq_false_iff] at feeding
  obtain ⟨rfl, present⟩ := feeding
  exact kept (by simpa [Config.outboundNames] using
    mem_outboundNames_of_forward hr ([] : List EnvelopeHeader) mem present)

/-! Delivery -/

/-- A request brings an envelope to its target, by POST over HTTP/2. -/
structure Delivers (c : Config) (inbound : HeaderMap) (e : RequestEnvelope) (target : Uri)
    (out : Outbound) : Prop where
  method : out.method = "POST"
  version : out.version = .http2
  target : out.target = target
  body : out.body = e.body
  /-- Names that nothing is forwarded to have the values of the envelope. -/
  values : ∀ n, n ∉ c.forwardHeaders.filterMap (·.name? inbound) →
    (out.headers.values n).map (·.bytes) = spelledValues e.headers n
  /-- There are no names without values. -/
  filled : ∀ n ∈ out.headers.names, out.headers.values n ≠ []

/-- What is prepared from an envelope that a relay takes delivers it. -/
theorem delivers_of_prepare (hr : ofConfig c = .ok r) (taken : c.Takes e target)
    (read : r.readEnvelope q = .ok e) {out : Outbound} (h : r.prepare q = .ok out) :
    Delivers c q.headers e target out := by
  obtain ⟨e', m, hread, _, collected, forwarded, parsed, body, method, version⟩ := prepare_eq_ok h
  cases read.symm.trans hread
  cases taken.readTarget.symm.trans parsed
  refine ⟨method, version, rfl, body, fun n kept => ?_, fun n hn => ?_⟩
  · rw [values_applyForwarding forwarded, forwarded?_eq_none hr kept, Option.getD_none,
      values_collect collected, bytes_envelopeValues taken.values]
  · have made := collect_collecting e.headers
      (List.subset_append_left _ (c.forwardHeaders.filterMap (·.name? q.headers)))
    rw [collected] at made
    cases made with
    | done _ among _ =>
      rw [values_applyForwarding forwarded, values_collect collected]
      refine values_of_outboundNames hr taken.valid ?_
      exact names_forwardAll forwarded among
        (fun _ mem present => mem_outboundNames_of_forward hr e.headers mem present) hn

/-- However the text of an envelope with proper headers and a proper target is broken up: unless
the envelope and the forwarded headers bring many names, there is a response, and with each response
the upstream has seen one request, which delivers the envelope. -/
theorem envelope_is_delivered (hr : ofConfig c = .ok r)
    (machine : c.maxBodyBytes < Wire.memorySize) (carried : q.Carries e c.maxBodyBytes)
    (taken : c.Takes e target) (u : Upstream) :
    (r.handle u q = none →
      HeaderMap.guardedNames ≤ (c.outboundNames q.headers e.headers).dedup.length) ∧
    ∀ a sent, r.handle u q = some (a, sent) →
      ∃ out, sent = some out ∧ Delivers c q.headers e target out := by
  have read := carried.readEnvelope machine (ofConfig_eq_ok hr).2.1
  have passed := taken.passes hr carried machine
  have x := prepare_preparing (q := q) hr
  unfold handle
  cases h : r.prepare q with
  | error stop =>
    rw [h] at x
    cases x with
    | crowded crowds =>
      obtain ⟨e', there, many⟩ := crowds
      cases (carried.envelope? machine).symm.trans there
      exact ⟨fun _ => many, nofun⟩
    | refused k err first => cases passed.symm.trans first
  | ok out =>
    have delivers := delivers_of_prepare hr taken read h
    dsimp only
    cases u out <;> refine ⟨nofun, ?_⟩ <;> rintro _ _ ⟨⟩ <;> exact ⟨out, rfl, delivers⟩

/-! An envelope in pieces -/

def tag : HeaderName := ⟨"x-tag", by decide⟩

/-- An envelope that spells a name in two ways, with an empty value and a header of no values. -/
def taggedEnvelope : RequestEnvelope :=
  ⟨"http://a/b", [⟨"X-Tag", ["a", ""]⟩, ⟨"empty", []⟩, ⟨"x-tAG", ["b"]⟩], [0, 255]⟩

/-- The request with this envelope, broken into lines and chunks. -/
def brokenUp : Inbound :=
  let text := Text.toBytes (Base64.encode taggedEnvelope.encode)
  ⟨"POST", sessionHeaders,
    [text.take 5, [13, 10] ++ (text.drop 5).take 10 ++ [10], [], text.drop 15 ++ [13]], none⟩

theorem tagged_is_delivered : ∃ a out,
    guardedRelay.handle unreachable brokenUp = some (a, some out) ∧
    (out.headers.values tag).map (·.bytes) = [[97], [], [98]] ∧ out.body = [0, 255] := by
  have configured : ofConfig guardedConfig = .ok guardedRelay := rfl
  have carried : brokenUp.Carries taggedEnvelope guardedConfig.maxBodyBytes :=
    ⟨rfl, by decide +kernel, rfl, by decide +kernel, by decide +kernel⟩
  have taken : guardedConfig.Takes taggedEnvelope webTarget :=
    ⟨by decide +kernel, by decide +kernel, by decide +kernel, webTarget_parsed, .inl rfl, nofun⟩
  obtain ⟨crowded, delivered⟩ :=
    envelope_is_delivered configured (by decide) carried taken unreachable
  cases h : guardedRelay.handle unreachable brokenUp with
  | none => exact absurd (crowded h) (by decide +kernel)
  | some answer =>
    obtain ⟨out, sent, delivers⟩ := delivered answer.1 answer.2 h
    refine ⟨answer.1, out, by rw [← sent], ?_, delivers.body⟩
    rw [delivers.values tag (by decide +kernel)]
    decide +kernel

/-! An envelope that is not delivered -/

/-- Forwards the session under two names. -/
def twiceConfig : Config :=
  { Config.empty with
    forwardHeaders := [⟨"x-session", "authorization"⟩, ⟨"x-session", "x-user"⟩] }

/-- Fewer words than a collection can hold. -/
def fewWords : List String := words.take (HeaderMap.maxNames - 1)

theorem fewWords_sublist : fewWords.Sublist words := List.take_sublist _ _

theorem length_fewWords : fewWords.length = HeaderMap.maxNames - 1 := by
  rw [fewWords, List.length_take, length_words]
  decide

theorem twiceConfig_valid : ∃ r, ofConfig twiceConfig = .ok r := by
  refine valid_of_forwardHeaders (List.forall_mem_cons.2 ⟨?_, List.forall_mem_singleton.2 ?_⟩)
  · exact ⟨_, _, session_named, rfl⟩
  · exact ⟨_, _, session_named, rfl⟩

theorem text_outboundNames_twice :
    (twiceConfig.outboundNames sessionHeaders (naming fewWords)).map (·.text) =
      fewWords ++ ["authorization", "x-user"] := by
  rw [Config.outboundNames, List.map_append, text_names_naming fewWords_sublist.subset]
  have forwarded : (twiceConfig.forwardHeaders.filterMap (·.name? sessionHeaders)).map (·.text) =
      ["authorization", "x-user"] := by decide +kernel
  rw [forwarded]

theorem nodup_outboundNames_twice : (fewWords ++ ["authorization", "x-user"]).Nodup := by
  rw [List.nodup_append]
  refine ⟨nodup_words.sublist fewWords_sublist, by decide, ?_⟩
  rintro w hw _ other rfl
  -- A word has three letters, neither of the others has.
  obtain ⟨x, _, y, _, z, _, same⟩ := exists_letters_of_mem (fewWords_sublist.subset hw)
  have short : w.toList.length = 3 := by
    rw [← same, String.toList_ofList]
    rfl
  have long : ∀ v ∈ ["authorization", "x-user"], v.toList.length ≠ 3 := by decide
  exact long w other short

/-- A proper envelope with fewer names than a collection can hold does not reach its target, nor
does its request get a response. -/
theorem named_envelope_is_lost : ∃ r, ofConfig twiceConfig = .ok r ∧
    (carrying (naming fewWords)).Carries (namingEnvelope fewWords) twiceConfig.maxBodyBytes ∧
    twiceConfig.Takes (namingEnvelope fewWords) webTarget ∧
    (namingEnvelope fewWords).headers.length < HeaderMap.maxNames ∧
    ∀ u, r.handle u (carrying (naming fewWords)) = none := by
  obtain ⟨r, hr⟩ := twiceConfig_valid
  have own : (namingEnvelope fewWords).headers.length < HeaderMap.maxNames := by
    simp only [namingEnvelope, naming, List.length_map, length_fewWords]
    decide
  have count : (twiceConfig.outboundNames sessionHeaders (naming fewWords)).dedup.length =
      HeaderMap.maxNames + 1 := by
    rw [length_dedup_of_texts text_outboundNames_twice nodup_outboundNames_twice,
      List.length_append, length_fewWords]
    rfl
  exact ⟨r, hr, carrying_naming fewWords_sublist, takes_naming rfl fewWords_sublist.subset, own,
    no_response_of_naming hr rfl rfl fewWords_sublist (count ▸ Nat.lt_succ_self _)⟩

end DynamicRpc.Relay
