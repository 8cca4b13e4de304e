import DynamicRpc.Proofs.Wire.Consumption
import DynamicRpc.Proofs.Wire.Reading
import DynamicRpc.Relay.Envelope
import Mathlib.Algebra.GroupWithZero.Nat

/-!
Envelopes and their wire format. An envelope that was written is read as it was, whatever of it is
empty; and however an envelope is written, each of its headers takes bytes, so that a short text has
few headers.
-/
namespace DynamicRpc.Relay

open Wire Success

/-! Parts of what is written -/

theorem length_le_flatMap {α : Type} (write : α → Bytes) {xs : List α} {x : α} (h : x ∈ xs) :
    (write x).length ≤ (xs.flatMap write).length := by
  rw [List.flatMap_def]
  exact (List.sublist_flatten_of_mem (List.mem_map_of_mem h)).length_le

theorem length_le_writeDelimited (b : Bytes) : b.length ≤ (writeDelimited b).length := by
  rw [writeDelimited, List.length_append]
  exact Nat.le_add_left _ _

theorem length_le_writeTextField (number : Nat) (t : String) :
    (Text.toBytes t).length ≤ (writeTextField number t).length := by
  unfold writeTextField
  split
  next none =>
    rw [String.isEmpty_iff.1 none]
    exact Nat.le_refl _
  next =>
    rw [List.length_append]
    exact Nat.le_trans (length_le_writeDelimited _) (Nat.le_add_left _ _)

theorem length_le_writeBytesField (number : Nat) (b : Bytes) :
    b.length ≤ (writeBytesField number b).length := by
  unfold writeBytesField
  split
  next none =>
    obtain rfl := List.isEmpty_iff.1 none
    exact Nat.le_refl _
  next =>
    rw [List.length_append]
    exact Nat.le_trans (length_le_writeDelimited _) (Nat.le_add_left _ _)

/-- An element of a repeated field is no longer than all of them. -/
theorem length_le_delimited {α : Type} (number : Nat) (write : α → Bytes) {xs : List α} {x : α}
    (h : x ∈ xs) : (write x).length ≤
      (xs.flatMap fun x => writeKey number .delimited ++ writeDelimited (write x)).length := by
  have part := length_le_flatMap (fun x => writeKey number .delimited ++ writeDelimited (write x)) h
  rw [List.length_append] at part
  exact Nat.le_trans (length_le_writeDelimited _) (Nat.le_trans (Nat.le_add_left _ _) part)

/-! Reading what was written -/

namespace EnvelopeHeader

variable {h : EnvelopeHeader}

theorem takes_encode (depth : Nat) (fits : h.encode.length < memorySize) :
    Takes merge depth .empty h.encode h := by
  rw [encode, List.length_append] at fits
  have key : Takes merge depth .empty (writeTextField 1 h.key) ⟨h.key, []⟩ := by
    have short := length_le_writeTextField 1 h.key
    refine .textField (by decide) (by decide) (fun rest => ?_) (fun none => by rw [none]; rfl)
    simp only [merge, readText_writeDelimited (Nat.lt_of_le_of_lt short (by omega))]
    rfl
  refine key.append (.flatMap (EnvelopeHeader.mk h.key) (fun v hv done => ?_) [])
  have short := length_le_delimited 2 Text.toBytes hv
  refine .field (by decide) (by decide) fun rest => ?_
  simp only [merge, readText_writeDelimited (Nat.lt_of_le_of_lt short (by omega))]
  rfl

/-- A header in an envelope is read as it was written. -/
theorem readMessage_encode (fits : h.encode.length < memorySize) (rest : Bytes) :
    readMessage merge maxDepth .delimited .empty (writeDelimited h.encode ++ rest) =
      .ok (h, rest) :=
  (takes_encode 99 fits).readMessage fits rest

/-- A list of headers is read as it was written, into whatever message it belongs to. -/
theorem takes_encodeAll {σ : Type} {message : Merge σ} {number : Nat} (positive : 0 < number)
    (small : number < 0x20000000) (state : List EnvelopeHeader → σ) {hs : List EnvelopeHeader}
    (fits : (encodeAll number hs).length < memorySize)
    (each : ∀ (h : EnvelopeHeader) done rest, h.encode.length < memorySize →
      message maxDepth number .delimited (state done) (writeDelimited h.encode ++ rest) =
        .ok (state (done ++ [h]), rest)) :
    Takes message maxDepth (state []) (encodeAll number hs) (state hs) := by
  refine .flatMap state (fun h hh done => ?_) []
  have short : h.encode.length < memorySize :=
    Nat.lt_of_le_of_lt (length_le_delimited number encode hh) fits
  exact .field positive small fun rest => each h done rest short

end EnvelopeHeader

/-- An envelope that was written is read as it was. -/
theorem RequestEnvelope.decode_encode {e : RequestEnvelope} (fits : e.encode.length < memorySize) :
    decode e.encode = .ok e := by
  rw [encode, List.length_append, List.length_append] at fits
  have target : Takes merge maxDepth .empty (writeTextField 1 e.target) ⟨e.target, [], []⟩ := by
    have short := length_le_writeTextField 1 e.target
    refine .textField (by decide) (by decide) (fun rest => ?_) (fun none => by rw [none]; rfl)
    simp only [merge, readText_writeDelimited (Nat.lt_of_le_of_lt short (by omega))]
    rfl
  have headers : Takes merge maxDepth ⟨e.target, [], []⟩ (EnvelopeHeader.encodeAll 2 e.headers)
      ⟨e.target, e.headers, []⟩ := by
    refine EnvelopeHeader.takes_encodeAll (by decide) (by decide)
      (fun hs => RequestEnvelope.mk e.target hs []) (by omega) fun h done rest short => ?_
    simp only [merge, EnvelopeHeader.readMessage_encode short]
    rfl
  have body : Takes merge maxDepth ⟨e.target, e.headers, []⟩ (writeBytesField 3 e.body) e := by
    have short := length_le_writeBytesField 3 e.body
    refine .bytesField (by decide) (by decide) (fun rest => ?_) (fun none => by rw [← none])
    simp only [merge, readBytes_writeDelimited (Nat.lt_of_le_of_lt short (by omega))]
    rfl
  exact ((target.append headers).append body).decodeMessage

/-- An answer that was written is read as it was. -/
theorem ResponseEnvelope.decode_encode {e : ResponseEnvelope} (small : e.status < 0x100000000)
    (fits : e.encode.length < memorySize) : decode e.encode = .ok e := by
  rw [encode, List.length_append, List.length_append, List.length_append] at fits
  have status : Takes merge maxDepth .empty
      (if e.status = 0 then [] else writeKey 1 .varint ++ writeVarint e.status)
      ⟨e.status, [], [], []⟩ := by
    split
    next zero =>
      rw [zero]
      exact .nil _
    next =>
      refine .field (by decide) (by decide) fun rest => ?_
      simp only [merge, readVarint_writeVarint (Nat.lt_trans small (by decide)), bind, Except.bind,
        expect, if_true, Nat.mod_eq_of_lt small]
      rfl
  have headers : Takes merge maxDepth ⟨e.status, [], [], []⟩
      (EnvelopeHeader.encodeAll 2 e.headers) ⟨e.status, e.headers, [], []⟩ := by
    refine EnvelopeHeader.takes_encodeAll (by decide) (by decide)
      (fun hs => ResponseEnvelope.mk e.status hs [] []) (by omega) fun h done rest short => ?_
    simp only [merge, EnvelopeHeader.readMessage_encode short]
    rfl
  have body : Takes merge maxDepth ⟨e.status, e.headers, [], []⟩ (writeBytesField 3 e.body)
      ⟨e.status, e.headers, e.body, []⟩ := by
    have short := length_le_writeBytesField 3 e.body
    refine .bytesField (by decide) (by decide) (fun rest => ?_) (fun none => by rw [none])
    simp only [merge, readBytes_writeDelimited (Nat.lt_of_le_of_lt short (by omega))]
    rfl
  have trailers : Takes merge maxDepth ⟨e.status, e.headers, e.body, []⟩
      (EnvelopeHeader.encodeAll 4 e.trailers) e := by
    refine EnvelopeHeader.takes_encodeAll (by decide) (by decide)
      (ResponseEnvelope.mk e.status e.headers e.body) (by omega) fun h done rest short => ?_
    simp only [merge, EnvelopeHeader.readMessage_encode short]
    rfl
  exact (((status.append headers).append body).append trailers).decodeMessage

/-! What headers cost -/

namespace EnvelopeHeader

/-- A key and a length come before a name and before each value. -/
def size (h : EnvelopeHeader) : Nat :=
  (if h.key = "" then 0 else 2 + (Text.toBytes h.key).length) +
    (h.values.map fun v => 2 + (Text.toBytes v).length).sum

theorem costs : Costs merge size := by
  intro depth number w h b h' rest read
  unfold merge at read
  split at read
  next =>
    obtain ⟨⟨key, more⟩, text, read⟩ := bind_eq_ok.1 (inField_eq_ok.1 read)
    cases read
    have cost := length_of_readText text
    simp only [size]
    split <;> omega
  next =>
    obtain ⟨⟨value, more⟩, text, read⟩ := bind_eq_ok.1 (inField_eq_ok.1 read)
    cases read
    have cost := length_of_readText text
    simp only [size, List.map_append, List.map_cons, List.map_nil, List.sum_append, List.sum_cons,
      List.sum_nil]
    omega
  next =>
    obtain ⟨more, skipped, read⟩ := bind_eq_ok.1 read
    cases read
    have cost := length_of_skipField skipped
    omega

end EnvelopeHeader

namespace RequestEnvelope

/-- A key and a length come before each header. -/
def size (e : RequestEnvelope) : Nat := (e.headers.map fun h => 2 + h.size).sum

theorem costs : Costs merge size := by
  intro depth number w e b e' rest read
  unfold merge at read
  split at read
  next =>
    obtain ⟨⟨target, more⟩, text, read⟩ := bind_eq_ok.1 (inField_eq_ok.1 read)
    cases read
    have cost := length_of_readText text
    simp only [size]
    omega
  next =>
    obtain ⟨⟨h, more⟩, message, read⟩ := bind_eq_ok.1 (inField_eq_ok.1 read)
    cases read
    have cost := EnvelopeHeader.costs.readMessage message
    have none : EnvelopeHeader.empty.size = 0 := rfl
    simp only [size, List.map_append, List.map_cons, List.map_nil, List.sum_append, List.sum_cons,
      List.sum_nil]
    omega
  next =>
    obtain ⟨⟨body, more⟩, bytes, read⟩ := bind_eq_ok.1 (inField_eq_ok.1 read)
    cases read
    have cost := length_of_readBytes bytes
    simp only [size]
    omega
  next =>
    obtain ⟨more, skipped, read⟩ := bind_eq_ok.1 read
    cases read
    have cost := length_of_skipField skipped
    omega

/-- The headers of an envelope are no larger than what it was read from. -/
theorem size_le {b : Bytes} {e : RequestEnvelope} (h : decode b = .ok e) : e.size ≤ b.length := by
  have le := costs.decodeMessage h
  rwa [show empty.size = 0 from rfl, Nat.zero_add] at le

end RequestEnvelope

end DynamicRpc.Relay
