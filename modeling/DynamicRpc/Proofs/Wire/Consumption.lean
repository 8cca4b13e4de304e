import DynamicRpc.Proofs.Success
import DynamicRpc.Proofs.Text.Utf8
import DynamicRpc.Wire.Basic

/-!
What reading costs. No reader gives back bytes that it was not given, and what it reads out of a
payload was there; so whatever a message holds had its bytes in the text that it was read from,
however that was written.
-/
namespace DynamicRpc.Wire

open Success

variable {b rest payload : Bytes} {n number depth : Nat} {w : WireType}

theorem length_of_varintFrom {limit : Nat} (h : varintFrom limit b = some (n, rest)) :
    rest.length < b.length := by
  induction limit generalizing b n with
  | zero => cases h
  | succ limit ih =>
    cases b with
    | nil => cases h
    | cons a more =>
      rw [varintFrom] at h
      split at h
      next =>
        split at h <;> cases h
        exact Nat.lt_succ_self _
      next =>
        split at h
        next found =>
          cases h
          exact Nat.lt_succ_of_lt (ih found)
        next => cases h

theorem length_of_readVarint (h : readVarint b = .ok (n, rest)) : rest.length < b.length := by
  unfold readVarint at h
  split at h
  next found =>
    cases h
    exact length_of_varintFrom found
  next => cases h

theorem length_of_readKey (h : readKey b = .ok (number, w, rest)) : rest.length < b.length := by
  obtain ⟨⟨key, more⟩, read, h⟩ := bind_eq_ok.1 h
  have shorter := length_of_readVarint read
  dsimp only at h
  split at h
  next => cases h
  next =>
    split at h
    next => cases h
    next =>
      split at h <;> cases h
      exact shorter

theorem length_of_takeBytes (h : takeBytes n b = .ok (payload, rest)) :
    payload.length + rest.length = b.length := by
  unfold takeBytes at h
  split at h <;> cases h
  rw [List.length_take, List.length_drop]
  omega

theorem length_of_readDelimited (h : readDelimited b = .ok (payload, rest)) :
    payload.length + rest.length < b.length := by
  obtain ⟨⟨n, more⟩, read, h⟩ := bind_eq_ok.1 h
  rw [length_of_takeBytes h]
  exact length_of_readVarint read

theorem length_of_readBytes (h : readBytes w b = .ok (payload, rest)) :
    payload.length + rest.length < b.length := by
  obtain ⟨_, _, h⟩ := bind_eq_ok.1 h
  exact length_of_readDelimited h

theorem length_of_readText {s : String} (h : readText w b = .ok (s, rest)) :
    (Text.toBytes s).length + rest.length < b.length := by
  obtain ⟨⟨raw, more⟩, read, h⟩ := bind_eq_ok.1 h
  dsimp only at h
  split at h
  next found =>
    cases h
    rw [Text.toBytes_of_ofBytes? found]
    exact length_of_readBytes read
  next => cases h

mutual

theorem length_of_skipPayload (depth number : Nat) (w : WireType) (b rest : Bytes) (fuel : Nat)
    (h : skipPayload depth number w b fuel = .ok rest) : rest.length ≤ b.length := by
  cases fuel with
  | zero => cases h
  | succ fuel =>
    unfold skipPayload at h
    split at h
    next => cases h
    next =>
      cases w with
      | varint =>
        obtain ⟨⟨n, more⟩, read, h⟩ := bind_eq_ok.1 h
        cases h
        exact Nat.le_of_lt (length_of_readVarint read)
      | fixed32 | fixed64 =>
        obtain ⟨⟨payload, more⟩, read, h⟩ := bind_eq_ok.1 h
        cases h
        exact length_of_takeBytes read ▸ Nat.le_add_left _ _
      | delimited =>
        obtain ⟨⟨payload, more⟩, read, h⟩ := bind_eq_ok.1 h
        cases h
        exact Nat.le_of_lt (Nat.lt_of_le_of_lt (Nat.le_add_left _ _) (length_of_readDelimited read))
      | startGroup => exact length_of_skipGroup depth number b rest fuel h
      | endGroup => cases h
  termination_by fuel

theorem length_of_skipGroup (depth number : Nat) (b rest : Bytes) (fuel : Nat)
    (h : skipGroup depth number b fuel = .ok rest) : rest.length ≤ b.length := by
  cases fuel with
  | zero => cases h
  | succ fuel =>
    unfold skipGroup at h
    obtain ⟨⟨n, w, more⟩, read, h⟩ := bind_eq_ok.1 h
    have shorter := length_of_readKey read
    dsimp only at h
    split at h
    next =>
      split at h <;> cases h
      exact Nat.le_of_lt shorter
    next =>
      obtain ⟨more', skipped, h⟩ := bind_eq_ok.1 h
      have first := length_of_skipPayload (depth - 1) n w more more' fuel skipped
      have others := length_of_skipGroup depth number more' rest fuel h
      omega
  termination_by fuel

end

theorem length_of_skipField (h : skipField depth number w b = .ok rest) :
    rest.length ≤ b.length :=
  length_of_skipPayload depth number w b rest _ h

/-! Messages -/

theorem inField_eq_ok {α : Type} {name : String} {r : Result α} {a : α} :
    inField name r = .ok a ↔ r = .ok a := by
  cases r <;> simp [inField]

variable {σ : Type} {merge : Merge σ} {size : σ → Nat} {s s' : σ}

/-- No field adds more to the size of a message than the bytes of its payload and one for its
key. -/
def Costs (merge : Merge σ) (size : σ → Nat) : Prop :=
  ∀ depth number w s b s' rest, merge depth number w s b = .ok (s', rest) →
    size s' + rest.length ≤ size s + b.length + 1

namespace Costs

theorem mergeFields (costs : Costs merge size) {limit fuel : Nat}
    (h : mergeFields merge depth limit fuel s b = .ok (s', rest)) :
    size s' + rest.length ≤ size s + b.length := by
  induction fuel generalizing s b with
  | zero =>
    cases h
    exact Nat.le_refl _
  | succ fuel ih =>
    rw [Wire.mergeFields] at h
    split at h
    next =>
      cases h
      exact Nat.le_refl _
    next =>
      obtain ⟨⟨number, w, more⟩, read, h⟩ := bind_eq_ok.1 h
      obtain ⟨⟨s₁, more'⟩, merged, h⟩ := bind_eq_ok.1 h
      have key := length_of_readKey read
      have field := costs _ _ _ _ _ _ _ merged
      have others := ih h
      omega

/-- A message is no larger than what it was read from. -/
theorem decodeMessage (costs : Costs merge size) (h : decodeMessage merge s b = .ok s') :
    size s' ≤ size s + b.length := by
  obtain ⟨⟨s₁, more⟩, read, h⟩ := bind_eq_ok.1 h
  cases h
  exact Nat.le_trans (Nat.le_add_right _ _) (costs.mergeFields read)

/-- A nested message also takes a byte for its length. -/
theorem readMessage (costs : Costs merge size)
    (h : readMessage merge depth w s b = .ok (s', rest)) :
    size s' + rest.length < size s + b.length := by
  obtain ⟨_, _, h⟩ := bind_eq_ok.1 h
  split at h
  next => cases h
  next =>
    obtain ⟨⟨n, more⟩, read, h⟩ := bind_eq_ok.1 h
    dsimp only at h
    split at h
    next => cases h
    next =>
      obtain ⟨⟨s₁, more'⟩, merged, h⟩ := bind_eq_ok.1 h
      have length := length_of_readVarint read
      have fields := costs.mergeFields merged
      dsimp only at h
      split at h <;> cases h
      omega

end Costs

end DynamicRpc.Wire
