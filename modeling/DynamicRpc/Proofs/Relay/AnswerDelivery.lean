import DynamicRpc.Proofs.Relay.EnvelopeDelivery

/-!
What an answer turns into. The body of a response is the text of an envelope that can be read back:
it has the status and the body of the answer, and its headers and its trailers each with every name
once, in the order of the answer, and all values of the name.
-/
namespace DynamicRpc.Relay

open Http Success

variable {r : Relay} {u : Upstream} {q : Inbound} {m : HeaderMap}

/-- An answer of readable text. Its status is a field of 32 bits and its envelope fits into
memory. -/
structure Answer.Readable (a : Answer) : Prop where
  status : a.status < 0x100000000
  headers : ∀ row ∈ a.headers.rows, ∀ v ∈ row.2, Text.ofBytes? v.bytes ≠ none
  trailers : ∀ row ∈ a.trailers.rows, ∀ v ∈ row.2, Text.ofBytes? v.bytes ≠ none
  fits : (envelopeOf a).encode.length < Wire.memorySize

/-- Headers of an envelope that are those of a collection. -/
structure Tells (headers : List EnvelopeHeader) (m : HeaderMap) : Prop where
  names : headers.map (·.key) = m.names.map (·.text)
  once : (headers.map (·.key)).Nodup
  lower : ∀ h ∈ headers, Text.lowerAscii h.key = h.key
  values : ∀ n, spelledValues headers n = (m.values n).map (·.bytes)
  /-- Lines of headers are told in the order of their first names, the values of each in theirs. -/
  lines : ∀ pairs, HeaderMap.empty.appendAll? pairs = some m →
    headers.map (·.key) = (pairs.map (·.1)).eraseDups.map (·.text) ∧
      ∀ n, spelledValues headers n = (pairs.filter (·.1 = n)).map (·.2.bytes)

/-! Collections in an envelope -/

theorem text_injective : Function.Injective HeaderName.text := by
  rintro ⟨a, ha⟩ ⟨b, hb⟩ same
  cases same
  rfl

theorem keys_ofHeaderMap (m : HeaderMap) :
    (EnvelopeHeader.ofHeaderMap m).map (·.key) = m.names.map (·.text) := by
  rw [EnvelopeHeader.ofHeaderMap, HeaderMap.names, List.map_map, List.map_map]
  rfl

/-- A name in an envelope is spelled as it is kept. -/
theorem equalIgnoringCase_text {a b : HeaderName} :
    Text.equalIgnoringCase a.text b.text = true ↔ a = b := by
  rw [← HeaderName.ofText?_eq_some, HeaderName.ofText?_text, Option.some.injEq]

theorem spelledValues_ofHeaderMap
    (readable : ∀ row ∈ m.rows, ∀ v ∈ row.2, Text.ofBytes? v.bytes ≠ none) (n : HeaderName) :
    spelledValues (EnvelopeHeader.ofHeaderMap m) n = (m.values n).map (·.bytes) := by
  have told : ∀ row ∈ m.rows,
      (row.2.map fun v => Text.ofBytesLenient v.bytes).map Text.toBytes = row.2.map (·.bytes) := by
    intro row hrow
    rw [List.map_map]
    exact List.map_congr_left fun v hv => Text.toBytes_ofBytesLenient (readable row hrow v hv)
  rw [← m.flatMap_filter_rows n, spelledValues, EnvelopeHeader.ofHeaderMap, List.filter_map,
    List.flatMap_map, List.map_flatMap]
  -- An envelope compares names as texts, a collection as names.
  have same : (fun h : EnvelopeHeader => Text.equalIgnoringCase h.key n.text) ∘
      (fun row : HeaderName × List HeaderValue =>
        ⟨row.1.text, row.2.map fun v => Text.ofBytesLenient v.bytes⟩) =
      fun row => decide (row.1 = n) := by
    funext row
    rw [Bool.eq_iff_iff, decide_eq_true_eq]
    exact equalIgnoringCase_text
  rw [same]
  exact List.flatMap_congr fun row hrow => told row (List.mem_filter.1 hrow).1

/-- A collection is told by its headers in an envelope. -/
theorem tells_ofHeaderMap
    (readable : ∀ row ∈ m.rows, ∀ v ∈ row.2, Text.ofBytes? v.bytes ≠ none) :
    Tells (EnvelopeHeader.ofHeaderMap m) m where
  names := keys_ofHeaderMap m
  once := by
    rw [keys_ofHeaderMap]
    exact m.nodup.map text_injective
  lower := by
    intro h hh
    obtain ⟨row, _, rfl⟩ := List.mem_map.1 hh
    exact row.1.lowerAscii_text
  values := spelledValues_ofHeaderMap readable
  lines := by
    intro pairs added
    refine ⟨by rw [keys_ofHeaderMap, HeaderMap.names_appendAll_empty added], fun n => ?_⟩
    rw [spelledValues_ofHeaderMap readable, HeaderMap.values_appendAll added,
      HeaderMap.values_empty, List.nil_append, List.map_map]
    rfl

/-! Responses -/

theorem decodeText_encode (b : Bytes) : decodeText (Text.toBytes (Base64.encode b)) = .ok b := by
  rw [decodeText, filter_encode, Base64.toBytes_encode, Base64.decode_eq_ok]

/-- A response of this status has the envelope of an answer for its body. -/
theorem body_of_ok {a : Response} {sent : Option Outbound}
    (h : r.handle u q = some (a, sent)) (ok : a.status = 200) :
    ∃ out answer, sent = some out ∧ u out = .ok answer ∧
      a.body = Base64.encode (envelopeOf answer).encode := by
  have failed : ∀ e : RelayError, (r.respondError e).status ≠ 200 := by
    intro e
    change e.status ≠ 200
    cases e <;> simp [RelayError.status]
  unfold handle at h
  split at h
  next => cases h
  next e _ =>
    cases h
    exact absurd ok (failed e)
  next out _ =>
    split at h
    next reason _ =>
      cases h
      exact absurd ok (failed (.upstream reason))
    next answer heard =>
      cases h
      exact ⟨out, answer, rfl, heard, rfl⟩

/-- A request that goes out and is answered gets a response of status 200; and whatever the request,
such a response to an answer of readable text reads as an envelope with the status and the body of
the answer, and with its headers and its trailers, each where they belong. -/
theorem answer_is_told (r : Relay) (u : Upstream) (q : Inbound) :
    (∀ out answer, r.prepare q = .ok out → u out = .ok answer →
      ∃ a, r.handle u q = some (a, some out) ∧ a.status = 200) ∧
    ∀ a sent, r.handle u q = some (a, sent) → a.status = 200 →
      ∃ out answer, sent = some out ∧ u out = .ok answer ∧ (answer.Readable →
        ∃ wire e, decodeText (Text.toBytes a.body) = .ok wire ∧
          ResponseEnvelope.decode wire = .ok e ∧ e.status = answer.status ∧ e.body = answer.body ∧
          Tells e.headers answer.headers ∧ Tells e.trailers answer.trailers) := by
  constructor
  · intro out answer prepared heard
    refine ⟨r.respond 200 (some (Base64.encode (envelopeOf answer).encode)), ?_, rfl⟩
    simp only [handle, prepared, heard]
  · intro a sent h ok
    obtain ⟨out, answer, sent, heard, body⟩ := body_of_ok h ok
    refine ⟨out, answer, sent, heard, fun readable => ?_⟩
    refine ⟨(envelopeOf answer).encode, envelopeOf answer, ?_, ?_, rfl, rfl, ?_, ?_⟩
    · rw [body, decodeText_encode]
    · exact ResponseEnvelope.decode_encode readable.status readable.fits
    · exact tells_ofHeaderMap readable.headers
    · exact tells_ofHeaderMap readable.trailers

/-! An answer with repeated names -/

def cookie : HeaderName := ⟨"set-cookie", by decide⟩

/-- Two cookies, with a header of an empty value between them. -/
def cookieLines : List (HeaderName × HeaderValue) :=
  [(cookie, ⟨[97], by decide⟩), (⟨"x-empty", by decide⟩, ⟨[], by decide⟩),
    (cookie, ⟨[98], by decide⟩)]

/-- An answer with these lines and a trailer. -/
def cookieAnswer : Answer :=
  ⟨404, (HeaderMap.empty.appendAll? cookieLines).getD .empty, [0, 255],
    (HeaderMap.empty.appendAll? [(⟨"grpc-status", by decide⟩, ⟨[48], by decide⟩)]).getD .empty⟩

theorem cookieAnswer_lines :
    HeaderMap.empty.appendAll? cookieLines = some cookieAnswer.headers := by decide +kernel

theorem cookieAnswer_readable : cookieAnswer.Readable where
  status := by decide
  headers := by decide +kernel
  trailers := by decide +kernel
  fits := by decide +kernel

theorem cookies_are_told : ∃ a sent wire e,
    guardedRelay.handle (fun _ => .ok cookieAnswer) (carrying []) = some (a, sent) ∧
    decodeText (Text.toBytes a.body) = .ok wire ∧ ResponseEnvelope.decode wire = .ok e ∧
    e.status = 404 ∧ e.body = [0, 255] ∧ e.headers.map (·.key) = ["set-cookie", "x-empty"] ∧
    spelledValues e.headers cookie = [[97], [98]] ∧ e.trailers.map (·.key) = ["grpc-status"] := by
  have handled : ((guardedRelay.handle (fun _ => .ok cookieAnswer) (carrying [])).map fun a =>
      a.1.status) = some 200 := by decide +kernel
  obtain ⟨⟨a, sent⟩, h, ok⟩ := Option.map_eq_some_iff.1 handled
  obtain ⟨_, ends⟩ := answer_is_told guardedRelay (fun _ => .ok cookieAnswer) (carrying [])
  obtain ⟨out, answer, _, heard, told⟩ := ends a sent h ok
  cases heard
  obtain ⟨wire, e, text, decoded, status, body, headers, trailers⟩ := told cookieAnswer_readable
  obtain ⟨keys, cookies⟩ := headers.lines _ cookieAnswer_lines
  refine ⟨a, sent, wire, e, h, text, decoded, status, body, ?_, ?_, ?_⟩
  · rw [keys]
    decide +kernel
  · rw [cookies]
    decide +kernel
  · rw [trailers.names]
    decide +kernel

end DynamicRpc.Relay
