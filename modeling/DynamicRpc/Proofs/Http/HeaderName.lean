import DynamicRpc.Http.Header

/-!
Header names and their spellings. A name is kept in lower case, so it is spelled by exactly those
texts that differ from it in the case of letters. A value is spelled by one text only.
-/
namespace DynamicRpc.Http

theorem not_capital_of_isNameChar {x : Char} (h : isNameChar x = true) :
    ¬ (65 ≤ x.val ∧ x.val ≤ 90) := by
  have letters : x.isLower = (decide (97 ≤ x.val) && decide (x.val ≤ 122)) := rfl
  have digits : x.isDigit = (decide (48 ≤ x.val) && decide (x.val ≤ 57)) := rfl
  have signs : "!#$%&'*+-.^_\x60|~".toList.all (fun y => ¬ (65 ≤ y.val ∧ y.val ≤ 90)) = true := by
    decide
  simp only [isNameChar, letters, digits, Bool.or_eq_true, Bool.and_eq_true, decide_eq_true_eq,
    List.contains_eq_mem] at h
  rintro ⟨above, below⟩
  rcases h with (⟨letter, _⟩ | ⟨_, digit⟩) | sign
  · exact absurd (UInt32.le_trans letter below) (by decide)
  · exact absurd (UInt32.le_trans above digit) (by decide)
  · exact of_decide_eq_true (List.all_eq_true.1 signs x sign) ⟨above, below⟩

theorem toLower_of_isNameChar {x : Char} (h : isNameChar x = true) : x.toLower = x :=
  dif_neg (not_capital_of_isNameChar h)

theorem text_of_ofText? {s : String} {n : HeaderName} (h : HeaderName.ofText? s = some n) :
    n.text = Text.lowerAscii s := by
  simp only [HeaderName.ofText?] at h
  split at h <;> cases h
  rfl

namespace HeaderName

/-- A name is in lower case. -/
theorem lowerAscii_text (n : HeaderName) : Text.lowerAscii n.text = n.text := by
  have chars := n.wellFormed
  simp only [isHeaderName, Bool.and_eq_true, List.all_eq_true] at chars
  have lower : n.text.toList.map Char.toLower = n.text.toList :=
    (List.map_congr_left fun x hx => toLower_of_isNameChar (chars.2 x hx)).trans (List.map_id' _)
  rw [Text.lowerAscii, lower, String.ofList_toList]

theorem ofText?_text (n : HeaderName) : ofText? n.text = some n := by
  simp only [ofText?, lowerAscii_text, n.wellFormed, dite_true]

/-- The spellings of a name differ from it in the case of letters only. -/
theorem ofText?_eq_some {s : String} {n : HeaderName} :
    ofText? s = some n ↔ Text.equalIgnoringCase s n.text = true := by
  rw [Text.equalIgnoringCase, decide_eq_true_eq, lowerAscii_text]
  constructor
  · intro h
    exact (text_of_ofText? h).symm
  · intro same
    simp only [ofText?, same, n.wellFormed, dite_true]

end HeaderName

theorem bytes_of_ofText? {s : String} {v : HeaderValue} (h : HeaderValue.ofText? s = some v) :
    v.bytes = Text.toBytes s := by
  unfold HeaderValue.ofText? HeaderValue.ofBytes? at h
  split at h <;> cases h
  rfl

end DynamicRpc.Http
