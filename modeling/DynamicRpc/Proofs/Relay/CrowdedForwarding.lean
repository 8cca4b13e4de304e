import DynamicRpc.Proofs.Relay.Checks
import Mathlib.Data.List.ProdSigma

/-!
A request without a response. Forwarding adds headers to an outbound request, and nothing limits how
many names a configuration forwards to: with more of them than a collection of headers can hold, a
request that passes all checks gets no response at all, be its envelope as small as it may.
-/
namespace DynamicRpc.Relay

open Http Success

/-! Collections that overflow -/

/-- What is forwarded to a name is something. -/
theorem forwarded?_ne_nil {inbound : HeaderMap} {n : HeaderName}
    {entries : List (HeaderName × HeaderName)} {values : List HeaderValue}
    (h : forwarded? inbound n entries = some values) : values ≠ [] := by
  obtain ⟨e, last, rfl⟩ := Option.map_eq_some_iff.1 h
  have feeding := (List.mem_filter.1 (List.mem_of_getLast? last)).2
  simp only [feeds, Bool.and_eq_true, Bool.not_eq_true', List.isEmpty_eq_false_iff] at feeding
  exact feeding.2

/-! Names that are brought -/

variable {c : Config} {r : Relay} {q : Inbound} {e : RequestEnvelope} {n : HeaderName}

/-- A header with a value that is kept brings its name. -/
theorem envelopeValues_ne_nil {headers : List EnvelopeHeader} {h : EnvelopeHeader}
    (mem : h ∈ headers) (brings : h.name? = some n) (valid : h.invalid? = none) :
    envelopeValues headers n ≠ [] := by
  rw [EnvelopeHeader.name?] at brings
  split at brings
  next => cases brings
  next filled =>
    obtain ⟨v, hv⟩ := List.exists_mem_of_ne_nil _ filled
    have kept : ∃ w, HeaderValue.ofText? v = some w := by
      rw [EnvelopeHeader.invalid?, brings, if_neg (Option.some_ne_none n)] at valid
      split at valid
      next => cases valid
      next all => exact Option.ne_none_iff_exists'.1 fun none => all ⟨v, hv, none⟩
    obtain ⟨w, hw⟩ := kept
    refine List.ne_nil_of_mem (a := w) (List.mem_flatMap.2 ⟨h, ?_, ?_⟩)
    · exact List.mem_filter.2 ⟨mem, by simpa using brings⟩
    · exact List.mem_filterMap.2 ⟨v, hv, hw⟩

/-- All names that are brought are names of what goes out. -/
theorem values_of_outboundNames (hr : ofConfig c = .ok r) {inbound : HeaderMap}
    {headers : List EnvelopeHeader} (valid : ∀ h ∈ headers, h.invalid? = none)
    (brought : n ∈ c.outboundNames inbound headers) :
    (forwarded? inbound n r.policy.forward).getD (envelopeValues headers n) ≠ [] := by
  cases found : forwarded? inbound n r.policy.forward with
  | some values => exact forwarded?_ne_nil found
  | none =>
    rcases List.mem_append.1 brought with own | entry
    · obtain ⟨h, mem, brings⟩ := List.mem_filterMap.1 own
      exact envelopeValues_ne_nil mem brings (valid h mem)
    · obtain ⟨f, hf, brings⟩ := List.mem_filterMap.1 entry
      rw [ForwardEntry.name?] at brings
      split at brings
      next present =>
        obtain ⟨source, spelled, present⟩ := present
        obtain ⟨e, mem, same, target⟩ :=
          exists_of_forall₂_left (names_of_ofNames (policy_of_ofConfig hr)).2 hf
        cases spelled.symm.trans same
        cases brings.symm.trans target
        have feeding : feeds inbound e.2 e = true := by simp [feeds, present]
        obtain ⟨values, some⟩ := forwarded?_eq_some_of_mem mem feeding
        cases found.symm.trans some
      next => cases brings

/-- A request that passes all checks and brings more names than a collection can hold gets no
response. -/
theorem no_response_of_crowded (hr : ofConfig c = .ok r) (there : q.envelope? = some e)
    (passed : firstFailure? c q = none)
    (many : HeaderMap.maxNames < (c.outboundNames q.headers e.headers).dedup.length)
    (u : Upstream) : r.handle u q = none := by
  have x := prepare_preparing (q := q) hr
  unfold handle
  cases h : r.prepare q with
  | error stop =>
    rw [h] at x
    cases x with
    | crowded => rfl
    | refused k e first => cases passed.symm.trans first
  | ok out =>
    obtain ⟨e', m, hread, _, collected, forwarded, _⟩ := prepare_eq_ok h
    have read := readEnvelope_reading (q := q) (ofConfig_eq_ok hr).2.1
    have made := collect_collecting e'.headers (List.Subset.refl _)
    rw [hread] at read
    rw [collected] at made
    cases read with
    | read _ _ there' =>
      cases there.symm.trans there'
      cases made with
      | done _ _ valid =>
        have held : (c.outboundNames q.headers e.headers).dedup ⊆ out.headers.names := by
          intro n hn
          refine HeaderMap.mem_names_of_values ?_
          rw [values_applyForwarding forwarded, values_collect collected]
          exact values_of_outboundNames hr (List.findSome?_eq_none_iff.1 valid)
            (List.mem_dedup.1 hn)
        have le := ((List.nodup_dedup _).subperm held).length_le
        have full := out.headers.length_names_le_maxNames
        omega

/-! A configuration with too many names -/

/-- Letters that names can have. -/
def letters : List Char := "abcdefghijklmnopqrstuvwxyz0123".toList

/-- Words of three letters, one more than a collection can hold. -/
def words : List String :=
  ((letters ×ˢ letters ×ˢ letters).map fun w => String.ofList [w.1, w.2.1, w.2.2]).take
    (HeaderMap.maxNames + 1)

theorem length_words : words.length = HeaderMap.maxNames + 1 := by
  have all : (letters ×ˢ letters ×ˢ letters).length = 27000 := by
    rw [List.length_product, List.length_product]
    rfl
  rw [words, List.length_take, List.length_map, all]
  decide

theorem nodup_words : words.Nodup := by
  have distinct : letters.Nodup := by decide
  refine ((distinct.product (distinct.product distinct)).map ?_).sublist (List.take_sublist _ _)
  rintro ⟨a, b, c⟩ ⟨a', b', c'⟩ same
  have chars := congrArg String.toList same
  simp only [String.toList_ofList, List.cons.injEq, and_true] at chars
  obtain ⟨rfl, rfl, rfl⟩ := chars
  rfl

theorem exists_letters_of_mem {w : String} (h : w ∈ words) :
    ∃ a ∈ letters, ∃ b ∈ letters, ∃ c ∈ letters, String.ofList [a, b, c] = w := by
  obtain ⟨⟨a, b, c⟩, mem, rfl⟩ := List.mem_map.1 (List.mem_of_mem_take h)
  simp only [List.mem_product] at mem
  exact ⟨a, mem.1, b, mem.2.1, c, mem.2.2, rfl⟩

theorem lowerAscii_word {w : String} (h : w ∈ words) : Text.lowerAscii w = w := by
  obtain ⟨a, ha, b, hb, c, hc, rfl⟩ := exists_letters_of_mem h
  have lower : ∀ x ∈ letters, x.toLower = x := by
    have all : letters.all (fun x => x.toLower = x) = true := by decide
    simpa using all
  simp only [Text.lowerAscii, String.toList_ofList, List.map_cons, List.map_nil, lower a ha,
    lower b hb, lower c hc]

theorem isHeaderName_word {w : String} (h : w ∈ words) : isHeaderName w = true := by
  obtain ⟨a, ha, b, hb, c, hc, rfl⟩ := exists_letters_of_mem h
  have plain : ∀ x ∈ letters, isNameChar x = true ∧ x.utf8Size = 1 := by
    have all : letters.all (fun x => isNameChar x ∧ x.utf8Size = 1) = true := by decide
    simpa using all
  simp [isHeaderName, plain a ha, plain b hb, plain c hc, maxNameLength]

/-- A word is a header name that is spelled as it is kept. -/
theorem ofText?_word {w : String} (h : w ∈ words) :
    HeaderName.ofText? w = some ⟨w, isHeaderName_word h⟩ := by
  simp only [HeaderName.ofText?, lowerAscii_word h, isHeaderName_word h, dite_true]

/-- A configuration of entries that are all named well is that of a relay. -/
theorem valid_of_forwardHeaders {entries : List ForwardEntry}
    (named : ∀ f ∈ entries, ∃ a b, HeaderName.ofText? f.source = some a ∧
      HeaderName.ofText? f.target = some b) :
    ∃ r, ofConfig { Config.empty with forwardHeaders := entries } = .ok r := by
  have each : ∀ f ∈ entries, ∃ entry : HeaderName × HeaderName,
      (do return (← configuredName f.source, ← configuredName f.target)) =
        (.ok entry : Except ConfigError _) := by
    intro f hf
    obtain ⟨a, b, source, target⟩ := named f hf
    exact ⟨(a, b), bind_eq_ok.2 ⟨a, configuredName_eq_ok.2 source,
      bind_eq_ok.2 ⟨b, configuredName_eq_ok.2 target, rfl⟩⟩⟩
  obtain ⟨forward, h⟩ := exists_mapM_eq_ok each
  have policy : Policy.ofNames [] entries = .ok ⟨[], forward⟩ :=
    bind_eq_ok.2 ⟨[], rfl, bind_eq_ok.2 ⟨forward, h, rfl⟩⟩
  exact ⟨_, bind_eq_ok.2 ⟨(), rfl, bind_eq_ok.2 ⟨none, rfl, bind_eq_ok.2 ⟨_, policy, rfl⟩⟩⟩⟩

theorem session_named :
    HeaderName.ofText? "x-session" = some ⟨"x-session", by decide⟩ := rfl

end DynamicRpc.Relay
