import DynamicRpc.Proofs.Success
import DynamicRpc.Proofs.Text.Utf8
import DynamicRpc.Wire.Basic

/-!
Reading what was written. Each reader gives back what its writer was given and leaves alone what
follows; so fields that were written one after the other are read one after the other, in a message
of its own or nested in another. Lengths travel as varints, so all of this is about bytes that fit
into memory.
-/
namespace DynamicRpc.Wire

open Success

/-! Varints -/

/-- How many numbers fit into so many bytes and one more, of which the last may only be 0 or 1. -/
def roomOf : Nat → Nat
  | 0 => 2
  | n + 1 => 128 * roomOf n

/-- No byte string in memory is as long as this. -/
def memorySize : Nat := 18446744073709551616

theorem roomOf_nine : roomOf 9 = memorySize := by decide

theorem varintFrom_writeVarint {limit n : Nat} (h : n < roomOf limit) (rest : Bytes) :
    varintFrom (limit + 1) (writeVarint n ++ rest) = some (n, rest) := by
  induction limit generalizing n with
  | zero =>
    have two : n < 2 := h
    have byte : (UInt8.ofNat n).toNat = n := toNat_byte (by omega)
    have low : UInt8.ofNat n < 128 := by
      rw [UInt8.lt_iff_toNat_lt, byte]
      exact Nat.lt_trans two (by decide)
    have last : ¬ UInt8.ofNat n ≥ 2 := by
      rw [ge_iff_le, UInt8.le_iff_toNat_le, byte]
      exact Nat.not_le.2 two
    rw [writeVarint, if_pos (by omega)]
    simp [varintFrom, low, last, byte]
  | succ limit ih =>
    rw [writeVarint]
    split
    next small =>
      have byte : (UInt8.ofNat n).toNat = n := toNat_byte (by omega)
      have low : UInt8.ofNat n < 128 := by
        rw [UInt8.lt_iff_toNat_lt, byte]
        exact small
      simp [varintFrom, low, byte]
    next large =>
      have byte : (UInt8.ofNat (n % 128 + 128)).toNat = n % 128 + 128 := toNat_byte (by omega)
      have high : ¬ UInt8.ofNat (n % 128 + 128) < 128 := by
        rw [UInt8.lt_iff_toNat_lt, byte]
        exact Nat.not_lt.2 (Nat.le_add_left _ _)
      have room : n < 128 * roomOf limit := h
      have more := ih (n := n / 128) (by omega)
      rw [List.cons_append, varintFrom, if_neg high, more]
      simp only [byte, Option.some.injEq, Prod.mk.injEq, and_true]
      omega

theorem readVarint_writeVarint {n : Nat} (h : n < memorySize) (rest : Bytes) :
    readVarint (writeVarint n ++ rest) = .ok (n, rest) := by
  rw [← roomOf_nine] at h
  rw [readVarint, maxVarintBytes, varintFrom_writeVarint h]

theorem writeVarint_ne_nil (n : Nat) : writeVarint n ≠ [] := by
  rw [writeVarint]
  split <;> exact List.cons_ne_nil _ _

/-! Keys and payloads -/

theorem readKey_writeKey {number : Nat} (positive : 0 < number) (small : number < 0x20000000)
    (w : WireType) (rest : Bytes) :
    readKey (writeKey number w ++ rest) = .ok (number, w, rest) := by
  have type : w.number < 8 := by cases w <;> decide
  have key : number * 8 + w.number < 0x100000000 := by omega
  have low : (number * 8 + w.number) % 8 = w.number := by omega
  have high : (number * 8 + w.number) / 8 = number := by omega
  have read : readVarint (writeKey number w ++ rest) = .ok (number * 8 + w.number, rest) :=
    readVarint_writeVarint (Nat.lt_trans key (by decide)) rest
  simp only [readKey, read, bind, Except.bind, low, high, WireType.ofNumber?_number]
  rw [if_neg (Nat.not_le.2 key), if_neg (Nat.ne_of_gt positive)]

theorem readDelimited_writeDelimited {b : Bytes} (fits : b.length < memorySize) (rest : Bytes) :
    readDelimited (writeDelimited b ++ rest) = .ok (b, rest) := by
  rw [readDelimited, writeDelimited, List.append_assoc, readVarint_writeVarint fits]
  simp [bind, Except.bind, takeBytes]

theorem readBytes_writeDelimited {b : Bytes} (fits : b.length < memorySize) (rest : Bytes) :
    readBytes .delimited (writeDelimited b ++ rest) = .ok (b, rest) :=
  readDelimited_writeDelimited fits rest

theorem readText_writeDelimited {s : String} (fits : (Text.toBytes s).length < memorySize)
    (rest : Bytes) :
    readText .delimited (writeDelimited (Text.toBytes s) ++ rest) = .ok (s, rest) := by
  simp only [readText, readBytes_writeDelimited fits, bind, Except.bind, Text.ofBytes?_toBytes]
  rfl

/-! Fields -/

variable {σ : Type} {merge : Merge σ} {depth : Nat} {s s' s'' : σ} {b b' : Bytes}

/-- Reading some fields takes a partial message to another, whatever follows them. -/
def Takes (merge : Merge σ) (depth : Nat) (s : σ) (b : Bytes) (s' : σ) : Prop :=
  ∃ count ≤ b.length, ∀ limit fuel rest, limit ≤ rest.length →
    mergeFields merge depth limit (count + fuel) s (b ++ rest) =
      mergeFields merge depth limit fuel s' rest

namespace Takes

theorem nil (s : σ) : Takes merge depth s [] s :=
  ⟨0, Nat.le_refl _, fun _ fuel _ _ => by rw [Nat.zero_add, List.nil_append]⟩

theorem append (h : Takes merge depth s b s') (h' : Takes merge depth s' b' s'') :
    Takes merge depth s (b ++ b') s'' := by
  obtain ⟨count, le, read⟩ := h
  obtain ⟨count', le', read'⟩ := h'
  refine ⟨count + count', ?_, fun limit fuel rest within => ?_⟩
  · rw [List.length_append]
    exact Nat.add_le_add le le'
  · have within' : limit ≤ (b' ++ rest).length := by
      rw [List.length_append]
      omega
    rw [Nat.add_assoc, List.append_assoc, read _ _ _ within', read' _ _ _ within]

/-- A field is read when its payload is. -/
theorem field {number : Nat} {w : WireType} (positive : 0 < number) (small : number < 0x20000000)
    (read : ∀ rest, merge depth number w s (b ++ rest) = .ok (s', rest)) :
    Takes merge depth s (writeKey number w ++ b) s' := by
  have some : 0 < (writeKey number w).length := List.length_pos_iff.2 (writeVarint_ne_nil _)
  refine ⟨1, ?_, fun limit fuel rest within => ?_⟩
  · rw [List.length_append]
    omega
  · have more : ¬ (writeKey number w ++ b ++ rest).length ≤ limit := by
      rw [List.length_append, List.length_append]
      omega
    rw [Nat.add_comm, mergeFields, if_neg more, List.append_assoc,
      readKey_writeKey positive small w]
    simp only [bind, Except.bind, read]

/-- A text that is not written is the one that was there before. -/
theorem textField {number : Nat} {t : String} (positive : 0 < number) (small : number < 0x20000000)
    (read : ∀ rest, merge depth number .delimited s (writeDelimited (Text.toBytes t) ++ rest) =
      .ok (s', rest)) (absent : t = "" → s = s') :
    Takes merge depth s (writeTextField number t) s' := by
  unfold writeTextField
  split
  next none =>
    rw [absent (String.isEmpty_iff.1 none)]
    exact nil _
  next => exact field positive small read

/-- Bytes that are not written are those that were there before. -/
theorem bytesField {number : Nat} {t : Bytes} (positive : 0 < number) (small : number < 0x20000000)
    (read : ∀ rest, merge depth number .delimited s (writeDelimited t ++ rest) = .ok (s', rest))
    (absent : t = [] → s = s') : Takes merge depth s (writeBytesField number t) s' := by
  unfold writeBytesField
  split
  next none =>
    rw [absent (List.isEmpty_iff.1 none)]
    exact nil _
  next => exact field positive small read

/-- A repeated field is read element by element, each put behind those before it. -/
theorem flatMap {α : Type} {write : α → Bytes} (state : List α → σ) {xs : List α}
    (each : ∀ x ∈ xs, ∀ done, Takes merge depth (state done) (write x) (state (done ++ [x])))
    (done : List α) : Takes merge depth (state done) (xs.flatMap write) (state (done ++ xs)) := by
  induction xs generalizing done with
  | nil =>
    rw [List.append_nil]
    exact nil _
  | cons x rest ih =>
    rw [List.forall_mem_cons] at each
    have others := ih each.2 (done ++ [x])
    rw [List.append_assoc, List.singleton_append] at others
    exact (each.1 done).append others

/-- A whole message is read when its fields are. -/
theorem decodeMessage (h : Takes merge maxDepth s b s') : decodeMessage merge s b = .ok s' := by
  obtain ⟨count, le, read⟩ := h
  have all := read 0 (b.length - count) [] (Nat.le_refl _)
  rw [List.append_nil, Nat.add_sub_cancel' le] at all
  have done : mergeFields merge maxDepth 0 (b.length - count) s' [] = .ok (s', []) := by
    cases b.length - count <;> rfl
  rw [Wire.decodeMessage, all, done]
  rfl

/-- A nested message is read when its fields are. -/
theorem readMessage (h : Takes merge depth s b s') (fits : b.length < memorySize) (rest : Bytes) :
    readMessage merge (depth + 1) .delimited s (writeDelimited b ++ rest) = .ok (s', rest) := by
  obtain ⟨count, le, read⟩ := h
  have length : (b ++ rest).length = count + (b.length + rest.length - count) := by
    rw [List.length_append]
    omega
  have done : ∀ fuel, mergeFields merge depth rest.length fuel s' rest = .ok (s', rest) := by
    intro fuel
    cases fuel with
    | zero => rfl
    | succ fuel => rw [mergeFields, if_pos (Nat.le_refl _)]
  have within : withinLength (fun limit b => mergeFields merge depth limit b.length s b)
      (writeDelimited b ++ rest) = .ok (s', rest) := by
    rw [withinLength, writeDelimited, List.append_assoc, readVarint_writeVarint fits]
    simp only [bind, Except.bind]
    rw [if_neg (by simp), List.length_append, Nat.add_sub_cancel_left, ← List.length_append,
      length, read _ _ _ (Nat.le_refl _), done]
    simp
    rfl
  rw [Wire.readMessage]
  exact within

end Takes

end DynamicRpc.Wire
