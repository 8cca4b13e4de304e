import DynamicRpc.Http.Uri
import DynamicRpc.Proofs.Success
import Mathlib.Data.List.DropRight
import Mathlib.Data.List.TakeWhile

/-!
How a text reads as a URI: as a star, as a path, as an authority, or as a scheme, an authority and a
path, so that a scheme never comes without an authority. What stands in an authority is found from
its end: the user information goes up to the last at sign, the port begins behind the last colon.
-/
namespace DynamicRpc.Http

open Success

namespace Uri

variable {cs authority rest : List Char} {u : Uri}

/-- An authority ends before the first slash, question mark or hash sign, and not in an at sign. -/
theorem splitAuthority_eq_ok (h : splitAuthority cs = .ok (authority, rest)) :
    authority = cs.takeWhile (!endsAuthority ·) ∧ rest = cs.dropWhile (!endsAuthority ·) ∧
      authority.getLast? ≠ some '@' := by
  obtain ⟨scan, _, h⟩ := bind_eq_ok.1 h
  split at h
  next accepted =>
    cases h
    simp only [Bool.and_eq_true, bne_iff_ne] at accepted
    exact ⟨rfl, rfl, accepted.2⟩
  next => cases h

theorem splitAuthority_eq_self (h : splitAuthority cs = .ok (authority, [])) : authority = cs := by
  obtain ⟨front, back, _⟩ := splitAuthority_eq_ok h
  have whole := List.takeWhile_append_dropWhile (p := (!endsAuthority ·)) (l := cs)
  rwa [← front, ← back, List.append_nil] at whole

/-- A scheme is the longest text before `://` that can be one. -/
theorem splitScheme?_eq_some {name before : List Char}
    (allowed : ∀ c ∈ before, isSchemeChar c = true)
    (h : splitScheme? (before ++ ':' :: '/' :: '/' :: rest) = some (name, authority)) :
    name = before ∧ authority = rest := by
  have colon : ¬ isSchemeChar ':' = true := by decide
  rw [splitScheme?, List.dropWhile_append_of_pos allowed, List.dropWhile_cons_of_neg colon,
    List.takeWhile_append_of_pos allowed, List.takeWhile_cons_of_neg colon, List.append_nil] at h
  obtain ⟨_, same⟩ := Option.ite_none_left_eq_some.1 h
  cases same
  exact ⟨rfl, rfl⟩

/-- What a text reads as. -/
inductive Reads : List Char → Uri → Prop where
  | star : Reads ['*'] ⟨none, none, "*", none⟩
  | path (rest : List Char) (path : String) (query : Option String) :
    Reads ('/' :: rest) ⟨none, none, path, query⟩
  | authority (cs : List Char) (split : splitAuthority cs = .ok (cs, [])) :
    Reads cs ⟨none, some (String.ofList cs), "", none⟩
  | full (cs name rest authority tail : List Char) (path : String) (query : Option String)
    (scheme : splitScheme? cs = some (name, rest))
    (split : splitAuthority rest = .ok (authority, tail)) (filled : authority ≠ []) :
    Reads cs ⟨some (schemeName (String.ofList name)), some (String.ofList authority), path, query⟩

theorem reads_of_ofChars (h : ofChars cs = .ok u) : Reads cs u := by
  unfold ofChars at h
  split at h
  next => cases h
  next =>
    cases h
    exact .star
  next =>
    obtain ⟨⟨path, query⟩, _, h⟩ := bind_eq_ok.1 h
    cases h
    exact .path _ path query
  next =>
    split at h
    next =>
      obtain ⟨⟨authority, rest⟩, split, h⟩ := bind_eq_ok.1 h
      dsimp only at h
      split at h
      next empty =>
        cases h
        cases List.isEmpty_iff.1 empty
        cases splitAuthority_eq_self split
        exact .authority _ split
      next => split at h <;> cases h
    next name rest scheme =>
      dsimp only at h
      split at h
      next => cases h
      next =>
        split at h
        next => cases h
        next =>
          obtain ⟨⟨authority, tail⟩, split, h⟩ := bind_eq_ok.1 h
          dsimp only at h
          split at h
          next => cases h
          next filled =>
            obtain ⟨⟨path, query⟩, _, h⟩ := bind_eq_ok.1 h
            cases h
            exact .full _ name rest authority tail _ query scheme split (by simpa using filled)

theorem reads_of_ofText {s : String} (h : ofText s = .ok u) : Reads s.toList u := by
  unfold ofText at h
  split at h
  next => cases h
  next => exact reads_of_ofChars h

/-- The host of a URI, if it has an authority. -/
def host (u : Uri) : List Char :=
  match u.authority with
  | some authority => Authority.host authority.toList
  | none => []

/-- What a URI with a scheme has of an authority. -/
theorem Reads.authority_of_scheme {scheme : String} (reads : Reads cs u)
    (given : u.scheme = some scheme) : ∃ authority, u.authority = some authority ∧
      authority ≠ "" ∧ authority.toList.getLast? ≠ some '@' := by
  cases reads with
  | star => cases given
  | path => cases given
  | authority => cases given
  | full _ name rest authority tail path query _ split filled =>
    refine ⟨String.ofList authority, rfl, ?_, ?_⟩
    · simpa using filled
    · rw [String.toList_ofList]
      exact (splitAuthority_eq_ok split).2.2

/-- An authority goes up to where it ends. -/
theorem Reads.authority_within {authority : String} (reads : Reads cs u)
    (given : u.authority = some authority) : ∀ c ∈ authority.toList, endsAuthority c = false := by
  have within {text front back : List Char} (split : splitAuthority text = .ok (front, back)) :
      ∀ c ∈ front, endsAuthority c = false := by
    intro c hc
    rw [(splitAuthority_eq_ok split).1] at hc
    simpa using List.mem_takeWhile_imp hc
  cases reads with
  | star => cases given
  | path => cases given
  | authority _ split =>
    cases given
    rw [String.toList_ofList]
    exact within split
  | full _ _ _ _ _ _ _ _ split =>
    cases given
    rw [String.toList_ofList]
    exact within split

end Uri

namespace Authority

variable {cs : List Char} {c : Char}

theorem withoutUser_eq (cs : List Char) : withoutUser cs = cs.rtakeWhile (· ≠ '@') := rfl

theorem not_mem_withoutUser (cs : List Char) : '@' ∉ withoutUser cs := by
  intro mem
  rw [withoutUser_eq] at mem
  exact absurd (List.mem_rtakeWhile_imp mem) (by decide)

theorem mem_of_mem_withoutUser (h : c ∈ withoutUser cs) : c ∈ cs :=
  (List.rtakeWhile_suffix (· ≠ '@') cs).subset h

/-- A host is made of what follows the user information, and closed if it is opened. -/
theorem mem_host (h : c ∈ host cs) : c ∈ withoutUser cs ∨ c = ']' := by
  unfold host at h
  split at h
  next rest found =>
    rw [found]
    rcases List.mem_cons.1 h with rfl | h
    · exact .inl List.mem_cons_self
    · rcases List.mem_append.1 h with h | h
      · exact .inl (List.mem_cons_of_mem _ (List.takeWhile_subset _ h))
      · exact .inr (List.mem_singleton.1 h)
  next => exact .inl (List.takeWhile_subset _ h)

/-- There is no host where a colon follows the user information. -/
theorem host_eq_nil (filled : cs ≠ []) (last : cs.getLast? ≠ some '@') :
    host cs = [] ↔ (withoutUser cs).head? = some ':' := by
  have some_left : withoutUser cs ≠ [] := by
    rw [withoutUser_eq, ne_eq, List.rtakeWhile_eq_nil_iff]
    intro ends
    have same := ends filled
    simp only [ne_eq, decide_not, Bool.not_eq_true', decide_eq_false_iff_not, not_not] at same
    exact last (by rw [List.getLast?_eq_some_getLast filled, same])
  unfold host
  split
  next rest found => simp [found]
  next =>
    obtain ⟨c, rest, found⟩ := List.exists_cons_of_ne_nil some_left
    rw [found]
    by_cases colon : c = ':'
    · simp [colon]
    · simp [colon]

/-! Ports -/

theorem rtakeWhile_append {p : Char → Bool} (front : List Char) {back : List Char}
    (behind : ∀ c ∈ back, p c = true) :
    (front ++ back).rtakeWhile p = front.rtakeWhile p ++ back := by
  rw [List.rtakeWhile, List.reverse_append,
    List.takeWhile_append_of_pos (fun c hc => behind c (List.mem_reverse.1 hc)),
    List.reverse_append, List.reverse_reverse]
  rfl

/-- What stands behind the last of some characters. -/
theorem rtakeWhile_behind {p : Char → Bool} (front : List Char) {back : List Char}
    (stop : p c = false) (behind : ∀ x ∈ back, p x = true) :
    (front ++ c :: back).rtakeWhile p = back := by
  rw [List.append_cons, rtakeWhile_append _ behind,
    List.rtakeWhile_concat_neg _ _ _ (by simp [stop]), List.nil_append]

theorem port?_eq (cs : List Char) : port? cs =
    if ':' ∈ cs ∧ isPort (cs.rtakeWhile (· ≠ ':')) = true then some (cs.rtakeWhile (· ≠ ':'))
    else none := by
  unfold port?
  rw [ite_and]
  simp only [List.contains_iff_mem]
  rfl

theorem isPort_of_digits (digits : isDigits cs = true) :
    isPort cs = decide (digitsValue cs < 65536) := by
  unfold isPort
  split
  next => cases digits
  next => simp only [digits, Bool.true_and]

/-- A port is made of digits and the plus sign. -/
theorem mem_isPort (port : isPort cs = true) (h : c ∈ cs) : c.isDigit = true ∨ c = '+' := by
  have all {text : List Char} (digits : isDigits text = true) (h : c ∈ text) :
      c.isDigit = true := by
    rw [isDigits, Bool.and_eq_true, List.all_eq_true] at digits
    exact digits.2 c h
  unfold isPort at port
  rw [Bool.and_eq_true] at port
  split at port
  next =>
    rcases List.mem_cons.1 h with rfl | h
    · exact .inr rfl
    · exact .inl (all port.1 h)
  next => exact .inl (all port.1 h)

theorem mem_port? {port : List Char} (some_port : port? cs = some port) (h : c ∈ port) :
    c.isDigit = true ∨ c = '+' := by
  rw [port?_eq, Option.ite_none_right_eq_some, Option.some_inj] at some_port
  obtain ⟨⟨_, number⟩, rfl⟩ := some_port
  exact mem_isPort number h

end Authority

end DynamicRpc.Http
