import DynamicRpc.Proofs.Base64
import DynamicRpc.Proofs.Relay.CrowdedForwarding
import DynamicRpc.Proofs.Relay.EnvelopeText

/-!
Requests that carry an envelope. The text of an envelope may be broken into lines and chunks
anywhere, and is read as the envelope that was written; if the relay takes its headers and its
target, all checks pass.
-/
namespace DynamicRpc.Relay

open Http Success

/-- A request that has the text of an envelope for its body, within a limit. -/
structure Inbound.Carries (q : Inbound) (e : RequestEnvelope) (limit : Nat) : Prop where
  method : q.method = "POST"
  type : isPlainText q.headers = true
  complete : q.failure = none
  /-- Line breaks apart, the body is the base64 text of the envelope. -/
  text : q.text.filter (!isLineBreak ·) = Text.toBytes (Base64.encode e.encode)
  within : q.text.length ≤ limit

/-- An envelope with proper headers, none of them disallowed, to a target on the web. -/
structure Config.Takes (c : Config) (e : RequestEnvelope) (target : Uri) : Prop where
  names : ∀ h ∈ e.headers, HeaderName.ofText? h.key ≠ none
  values : ∀ h ∈ e.headers, ∀ v ∈ h.values, HeaderValue.ofText? v ≠ none
  allowed : ∀ h ∈ e.headers, ∀ name ∈ c.disallowedHeaders,
    Text.equalIgnoringCase h.key name = false
  parsed : Uri.ofText e.target = .ok target
  web : target.scheme = some "http" ∨ target.scheme = some "https"
  host : target.authority ≠ none

variable {c : Config} {r : Relay} {q : Inbound} {e : RequestEnvelope} {target : Uri} {limit : Nat}

namespace Inbound.Carries

/-- The text of an envelope is no shorter than what it stands for. -/
theorem length_le (carried : q.Carries e limit) : e.encode.length ≤ limit := by
  have filtered := List.length_filter_le (!isLineBreak ·) q.text
  rw [carried.text, Base64.toBytes_encode, Base64.length_encodeBytes] at filtered
  have := carried.within
  omega

theorem wire? (carried : q.Carries e limit) : decodeText q.text = .ok e.encode := by
  rw [decodeText, Base64.decode_eq_ok, carried.text, Base64.toBytes_encode]

theorem decoded (carried : q.Carries e limit) (machine : limit < Wire.memorySize) :
    RequestEnvelope.decode e.encode = .ok e :=
  RequestEnvelope.decode_encode (Nat.lt_of_le_of_lt carried.length_le machine)

theorem envelope? (carried : q.Carries e limit) (machine : limit < Wire.memorySize) :
    q.envelope? = some e := by
  rw [Inbound.envelope?, Inbound.wire?, carried.wire?]
  exact congrArg Except.toOption (carried.decoded machine)

/-- A relay reads the envelope that a request carries. -/
theorem readEnvelope (carried : q.Carries e c.maxBodyBytes)
    (machine : c.maxBodyBytes < Wire.memorySize) (limit : r.maxBodyBytes = c.maxBodyBytes) :
    r.readEnvelope q = .ok e := by
  rw [readEnvelope_of_accepted limit carried.method carried.type,
    if_neg (Nat.not_lt.2 carried.within), carried.complete, carried.wire?]
  dsimp only
  rw [carried.decoded machine]

end Inbound.Carries

namespace Config.Takes

theorem valid (taken : c.Takes e target) : ∀ h ∈ e.headers, h.invalid? = none := by
  intro h hh
  rw [EnvelopeHeader.invalid?, if_neg (taken.names h hh), if_neg]
  rintro ⟨v, hv, none⟩
  exact taken.values h hh v hv none

theorem readTarget (taken : c.Takes e target) : readTarget e.target = .ok target := by
  have host : target.authority.isSome := Option.isSome_iff_ne_none.2 taken.host
  rw [Relay.readTarget, taken.parsed]
  rcases taken.web with scheme | scheme <;> simp [scheme, host]

/-- A request passes all checks if the relay takes the envelope that it carries. -/
theorem passes (taken : c.Takes e target) (hr : ofConfig c = .ok r)
    (carried : q.Carries e c.maxBodyBytes) (machine : c.maxBodyBytes < Wire.memorySize) :
    firstFailure? c q = none := by
  have x := readEnvelope_reading (q := q) (ofConfig_eq_ok hr).2.1
  rw [carried.readEnvelope machine (ofConfig_eq_ok hr).2.1] at x
  -- The envelope is there, so only its headers and its target can still fail.
  have allowed : e.headers.find? c.disallows = none := by
    rw [List.find?_eq_none]
    intro h hh disallowed
    obtain ⟨name, mem, same⟩ := List.any_eq_true.1 disallowed
    exact Bool.false_ne_true ((taken.allowed h hh name mem).symm.trans same)
  have valid : e.headers.findSome? (·.invalid?) = none :=
    List.findSome?_eq_none_iff.2 taken.valid
  cases x with
  | read _ passed there =>
    rw [firstFailure?_of_read passed there, allowed, valid, taken.readTarget]

end Config.Takes

/-- A target that relays take. -/
def webTarget : Uri := ⟨some "http", some "a", "/b", none⟩

theorem webTarget_parsed : Uri.ofText "http://a/b" = .ok webTarget :=
  eq_ok_of_toOption (by decide +kernel)

/-! Envelopes with many names -/

/-- Headers with a name and an empty value each. -/
def naming (names : List String) : List EnvelopeHeader := names.map fun w => ⟨w, [""]⟩

variable {ws : List String}

theorem length_writeVarint_of_small {n : Nat} (small : n < 128) :
    (Wire.writeVarint n).length = 1 := by
  rw [Wire.writeVarint, if_pos small]
  rfl

theorem length_encode_word {w : String} (h : w ∈ words) :
    (EnvelopeHeader.encode ⟨w, [""]⟩).length = 7 := by
  obtain ⟨x, hx, y, hy, z, hz, rfl⟩ := exists_letters_of_mem h
  have ascii : ∀ x ∈ letters, x.toNat < 128 := by
    have all : letters.all (fun x => x.toNat < 128) = true := by decide
    simpa using all
  have bytes : (Text.toBytes (String.ofList [x, y, z])).length = 3 := by
    rw [Text.toBytes_ofList_ascii (by simp [ascii x hx, ascii y hy, ascii z hz])]
    rfl
  have filled : (String.ofList [x, y, z]).isEmpty = false := by simp
  have value :
      (Wire.writeKey 2 .delimited ++ Wire.writeDelimited (Text.toBytes "")).length = 2 := by
    decide +kernel
  simp only [EnvelopeHeader.encode, Wire.writeTextField, filled, Bool.false_eq_true, if_false,
    List.flatMap_cons, List.flatMap_nil, List.append_nil, List.length_append, Wire.writeDelimited,
    bytes] at value ⊢
  rw [value, Wire.writeKey, length_writeVarint_of_small (by decide),
    length_writeVarint_of_small (by decide)]

/-- A header that is named by a word takes nine bytes of an envelope. -/
theorem length_encodeAll_naming (h : ws ⊆ words) :
    (EnvelopeHeader.encodeAll 2 (naming ws)).length = 9 * ws.length := by
  induction ws with
  | nil => rfl
  | cons w rest ih =>
    rw [List.cons_subset] at h
    have first : (Wire.writeKey 2 .delimited ++
        Wire.writeDelimited (EnvelopeHeader.encode ⟨w, [""]⟩)).length = 9 := by
      rw [Wire.writeKey, Wire.writeDelimited, List.length_append, List.length_append,
        length_encode_word h.1, length_writeVarint_of_small (by decide),
        length_writeVarint_of_small (by decide)]
    have others := ih h.2
    rw [EnvelopeHeader.encodeAll, naming] at others ⊢
    rw [List.map_cons, List.flatMap_cons, List.length_append, first, others, List.length_cons]
    omega

/-- The envelope of such headers. -/
def namingEnvelope (names : List String) : RequestEnvelope := ⟨"http://a/b", naming names, []⟩

theorem length_encode_naming (h : ws ⊆ words) :
    (namingEnvelope ws).encode.length = 12 + 9 * ws.length := by
  rw [RequestEnvelope.encode, List.length_append, List.length_append]
  simp only [namingEnvelope, length_encodeAll_naming h]
  have target : (Wire.writeTextField 1 "http://a/b").length = 12 := by decide +kernel
  rw [target]
  rfl

/-- Base64 text has no line breaks of its own. -/
theorem filter_encode (b : Bytes) : (Text.toBytes (Base64.encode b)).filter (!isLineBreak ·) =
    Text.toBytes (Base64.encode b) := by
  rw [Base64.toBytes_encode, List.filter_eq_self]
  intro s hs
  have printable := (Base64.encodeBytes_printable b s hs).1
  have ends : s ≠ 10 ∧ s ≠ 13 := by
    constructor <;> rintro rfl <;> exact absurd printable (by decide)
  simp [isLineBreak, ends]

/-- All words fit into an envelope within the default limit. -/
theorem carrying_naming (h : ws.Sublist words) :
    (carrying (naming ws)).Carries (namingEnvelope ws) 5242880 where
  method := rfl
  type := show isPlainText sessionHeaders = true by decide +kernel
  complete := rfl
  text := by
    rw [Inbound.text, carrying, List.flatten_cons, List.flatten_nil, List.append_nil]
    exact filter_encode _
  within := by
    have few := h.length_le
    rw [length_words, HeaderMap.maxNames] at few
    rw [Inbound.text, carrying, List.flatten_cons, List.flatten_nil, List.append_nil,
      Base64.toBytes_encode, Base64.length_encodeBytes]
    have length := length_encode_naming h.subset
    rw [namingEnvelope] at length
    omega

theorem takes_naming (unrestricted : c.disallowedHeaders = []) (h : ws ⊆ words) :
    c.Takes (namingEnvelope ws) webTarget where
  names := by
    intro header mem
    obtain ⟨w, hw, rfl⟩ := List.mem_map.1 mem
    rw [ofText?_word (h hw)]
    exact Option.some_ne_none _
  values := by
    intro header mem v hv
    obtain ⟨w, hw, rfl⟩ := List.mem_map.1 mem
    rw [List.mem_singleton.1 hv]
    decide
  allowed := by
    rw [unrestricted]
    exact fun _ _ => nofun
  parsed := webTarget_parsed
  web := .inl rfl
  host := by decide

/-- The names that such headers bring. -/
theorem text_names_naming (h : ws ⊆ words) :
    ((naming ws).filterMap (·.name?)).map (·.text) = ws := by
  have brought : ∀ w ∈ ws, ((EnvelopeHeader.mk w [""]).name?).map (·.text) = some w := by
    intro w hw
    rw [EnvelopeHeader.name?, if_neg (by simp), ofText?_word (h hw)]
    rfl
  rw [naming, List.filterMap_map, List.map_filterMap]
  exact (List.filterMap_congr brought).trans List.filterMap_some

/-- Names with different texts are all different. -/
theorem length_dedup_of_texts {names : List HeaderName} (texts : names.map (·.text) = ws)
    (distinct : ws.Nodup) : names.dedup.length = ws.length := by
  have nodup : names.Nodup := by
    refine .of_map (·.text) ?_
    rw [texts]
    exact distinct
  rw [nodup.dedup, ← texts, List.length_map]

/-- Such an envelope gets no response where it brings too many names. -/
theorem no_response_of_naming (hr : ofConfig c = .ok r) (unrestricted : c.disallowedHeaders = [])
    (limit : c.maxBodyBytes = 5242880) (h : ws.Sublist words)
    (many : HeaderMap.maxNames < (c.outboundNames sessionHeaders (naming ws)).dedup.length)
    (u : Upstream) : r.handle u (carrying (naming ws)) = none := by
  have carried : (carrying (naming ws)).Carries (namingEnvelope ws) c.maxBodyBytes :=
    limit ▸ carrying_naming h
  have machine : c.maxBodyBytes < Wire.memorySize := by
    rw [limit]
    decide
  exact no_response_of_crowded hr (carried.envelope? machine)
    ((takes_naming unrestricted h.subset).passes hr carried machine) many u

end DynamicRpc.Relay
