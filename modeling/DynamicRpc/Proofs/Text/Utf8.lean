import DynamicRpc.Text.Utf8

/-!
Text through its bytes. Reading is the inverse of writing, and characters of seven bits are written
as one byte each.
-/
namespace DynamicRpc

/-- A byte whose number is known. -/
theorem toNat_byte {n : Nat} (h : n < 256) : (UInt8.ofNat n).toNat = n := by
  rw [UInt8.toNat_ofNat', Nat.mod_eq_of_lt h]

namespace Text

theorem ofBytes?_toBytes (s : String) : ofBytes? (toBytes s) = some s := by
  have valid : s.toByteArray.IsValidUTF8 := s.isValidUTF8
  simp [ofBytes?, toBytes, String.fromUTF8?, String.fromUTF8, valid]

/-- Text that is read has the bytes that were read. -/
theorem toBytes_of_ofBytes? {b : Bytes} {s : String} (h : ofBytes? b = some s) : toBytes s = b := by
  unfold ofBytes? String.fromUTF8? at h
  split at h <;> cases h
  rfl

/-- Well-formed bytes are read as they are by the lenient reader too. -/
theorem toBytes_ofBytesLenient {b : Bytes} (h : ofBytes? b ≠ none) :
    toBytes (ofBytesLenient b) = b := by
  obtain ⟨s, hs⟩ := Option.ne_none_iff_exists'.1 h
  rw [ofBytesLenient, hs]
  exact toBytes_of_ofBytes? hs

theorem toBytes_eq (s : String) : toBytes s = s.toList.flatMap String.utf8EncodeChar := by
  rw [toBytes, String.toUTF8, ← String.utf8Encode_toList]
  simp [List.utf8Encode]

theorem toBytes_ofList_ascii {cs : List Char} (h : ∀ c ∈ cs, c.toNat < 128) :
    toBytes (String.ofList cs) = cs.map fun c => UInt8.ofNat c.toNat := by
  rw [toBytes_eq, String.toList_ofList]
  induction cs with
  | nil => rfl
  | cons c rest ih =>
    have one : String.utf8EncodeChar c = [UInt8.ofNat c.toNat] := by
      have small := h c List.mem_cons_self
      simp only [String.utf8EncodeChar, Char.toNat] at small ⊢
      rw [if_pos (by omega)]
    rw [List.flatMap_cons, one, ih fun c hc => h c (List.mem_cons_of_mem _ hc)]
    rfl

end Text

end DynamicRpc
