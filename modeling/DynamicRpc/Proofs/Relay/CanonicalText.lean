import DynamicRpc.Proofs.Base64
import DynamicRpc.Relay.Envelope
import Mathlib.Algebra.GroupWithZero.Nat

/-!
The one written form of base64 text. Symbols come first, then what pads them to groups of four, and
the last symbol has no bits to spare; the writer produces all texts of this form and no others. The
text of an envelope may have line breaks anywhere besides, and no other liberty.
-/
namespace DynamicRpc.Base64

/-- Symbols, and up to two pads that make the last group a full one. For each pad, the last symbol
has two bits that belong to no byte; they are zero. -/
structure Canonical (text : Bytes) : Prop where
  full : text.length % 4 = 0
  parts : ∃ (ns : List Nat) (k : Nat), text = ns.map symbol ++ List.replicate k pad ∧
    (∀ n ∈ ns, n < 64) ∧ k ≤ 2 ∧ ∀ n ∈ ns.getLast?, n % 4 ^ k = 0

example : (List.range 64).map symbol = Text.toBytes
    "ABCDEFGHIJKLMNOPQRSTUVWXYZabcdefghijklmnopqrstuvwxyz0123456789+/" := by decide +kernel

/-- A group of four before other symbols changes nothing about the spare bits. If no symbols follow
it, no pads do. -/
theorem spare_of_group {x y z w k : Nat} {ns : List Nat} (full : (ns.length + k) % 4 = 0)
    (few : k ≤ 2) : (∀ n ∈ (x :: y :: z :: w :: ns).getLast?, n % 4 ^ k = 0) ↔
      ∀ n ∈ ns.getLast?, n % 4 ^ k = 0 := by
  cases ns with
  | nil =>
    have none : k = 0 := by
      rw [List.length_nil] at full
      omega
    simp [none, Nat.mod_one]
  | cons m rest => simp only [List.getLast?_cons_cons]

theorem length_encodeBytes_mod (b : Bytes) : (encodeBytes b).length % 4 = 0 := by
  rw [length_encodeBytes, Nat.mul_mod_right]

/-- The writer keeps to the form. -/
theorem canonical_encodeBytes (b : Bytes) : Canonical (encodeBytes b) := by
  refine ⟨length_encodeBytes_mod b, ?_⟩
  fun_induction encodeBytes b with
  | case1 => exact ⟨[], 0, rfl, List.forall_mem_nil _, Nat.zero_le _, by simp⟩
  | case2 a =>
    have := a.toNat_lt
    refine ⟨[a.toNat / 4, a.toNat % 4 * 16], 2, rfl, ?_, Nat.le_refl _, ?_⟩
    · simp only [List.forall_mem_cons]
      exact ⟨by omega, by omega, List.forall_mem_nil _⟩
    · rintro _ ⟨⟩
      exact Nat.mul_mod_left _ 16
  | case3 a b =>
    have := a.toNat_lt
    have := b.toNat_lt
    refine ⟨[a.toNat / 4, a.toNat % 4 * 16 + b.toNat / 16, b.toNat % 16 * 4], 1, rfl, ?_,
      by decide, ?_⟩
    · simp only [List.forall_mem_cons]
      exact ⟨by omega, by omega, by omega, List.forall_mem_nil _⟩
    · rintro _ ⟨⟩
      exact Nat.mul_mod_left _ 4
  | case4 a b c rest ih =>
    have := a.toNat_lt
    have := b.toNat_lt
    have := c.toNat_lt
    obtain ⟨ns, k, text, small, few, zero⟩ := ih
    have full : (ns.length + k) % 4 = 0 := by simpa [text] using length_encodeBytes_mod rest
    refine ⟨a.toNat / 4 :: (a.toNat % 4 * 16 + b.toNat / 16) ::
      (b.toNat % 16 * 4 + c.toNat / 64) :: (c.toNat % 64) :: ns, k, by rw [text]; rfl, ?_, few,
      (spare_of_group full few).2 zero⟩
    simp only [List.forall_mem_cons]
    exact ⟨by omega, by omega, by omega, by omega, small⟩

/-- Numbers below 64 with the right number of pads are what some bytes are written as. -/
theorem exists_encodeBytes : ∀ (ns : List Nat) (k : Nat), (ns.length + k) % 4 = 0 →
    (∀ n ∈ ns, n < 64) → k ≤ 2 → (∀ n ∈ ns.getLast?, n % 4 ^ k = 0) →
    ∃ b, ns.map symbol ++ List.replicate k pad = encodeBytes b
  | [], k, full, _, few, _ => by
    obtain rfl : k = 0 := by
      rw [List.length_nil] at full
      omega
    exact ⟨[], rfl⟩
  | [_], k, full, _, few, _ => by
    rw [List.length_singleton] at full
    omega
  | [x, y], k, full, small, few, zero => by
    obtain rfl : k = 2 := by
      simp only [List.length_cons, List.length_nil] at full
      omega
    have spare : y % 16 = 0 := zero y rfl
    exact ⟨_, (encodeBytes_two (small x (by simp)) (small y (by simp)) spare).symm⟩
  | [x, y, z], k, full, small, few, zero => by
    obtain rfl : k = 1 := by
      simp only [List.length_cons, List.length_nil] at full
      omega
    have spare : z % 4 = 0 := zero z rfl
    exact ⟨_, (encodeBytes_three (small x (by simp)) (small y (by simp)) (small z (by simp))
      spare).symm⟩
  | x :: y :: z :: w :: ns, k, full, small, few, zero => by
    have count : (ns.length + k) % 4 = 0 := by
      simp only [List.length_cons] at full
      omega
    simp only [List.forall_mem_cons] at small
    obtain ⟨hx, hy, hz, hw, others⟩ := small
    obtain ⟨b, text⟩ := exists_encodeBytes ns k count others few ((spare_of_group count few).1 zero)
    refine ⟨bytesOf x y z w ++ b, ?_⟩
    rw [encodeBytes_bytesOf hx hy hz hw, ← text]
    rfl

/-- What the writer produces are the texts of the one form. -/
theorem canonical_iff {text : Bytes} : Canonical text ↔ ∃ b, text = encodeBytes b := by
  constructor
  · rintro ⟨full, ns, k, rfl, small, few, zero⟩
    rw [List.length_append, List.length_map, List.length_replicate] at full
    exact exists_encodeBytes ns k full small few zero
  · rintro ⟨b, rfl⟩
    exact canonical_encodeBytes b

end DynamicRpc.Base64

namespace DynamicRpc.Relay

/-- A text is read as some bytes if and only if, line breaks apart, it is what these bytes are
written as; and it is refused if and only if it is not of the one form that is ever written. -/
theorem text_is_read_in_one_form (text b : Bytes) :
    (decodeText text = .ok b ↔ text.filter (!isLineBreak ·) = Text.toBytes (Base64.encode b)) ∧
    ((∃ e, decodeText text = .error e) ↔ ¬ Base64.Canonical (text.filter (!isLineBreak ·))) := by
  have read : ∀ b, decodeText text = .ok b ↔
      text.filter (!isLineBreak ·) = Base64.encodeBytes b := fun b => Base64.decode_eq_ok
  refine ⟨by rw [read, Base64.toBytes_encode], ?_⟩
  rw [Base64.canonical_iff]
  cases h : decodeText text with
  | ok bytes => exact iff_of_false nofun fun none => none ⟨bytes, (read bytes).1 h⟩
  | error e =>
    refine iff_of_true ⟨e, rfl⟩ ?_
    rintro ⟨bytes, written⟩
    cases h.symm.trans ((read bytes).2 written)

end DynamicRpc.Relay
