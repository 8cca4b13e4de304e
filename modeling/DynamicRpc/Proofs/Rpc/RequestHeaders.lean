import DynamicRpc.Proofs.Http.HeaderMap
import DynamicRpc.Proofs.Http.HeaderName
import DynamicRpc.Rpc.RequestHeaders
import Mathlib.Data.List.TakeDrop
import Mathlib.Data.List.TakeWhile

/-!
What a user writes for a call. A method path is split at its last slash, and put together again it
is what was written; one of plain names reads as it stands. Headers are added to metadata one by
one, up to the first that is not fit for it, and only many names keep them from finding room.
-/
namespace DynamicRpc.Text

/-- A text that is split at a character is its two parts with the character between them. -/
theorem splitLast?_eq_some {c : Char} {s before after : String}
    (h : splitLast? c s = some (before, after)) :
    s.toList = before.toList ++ c :: after.toList := by
  unfold splitLast? at h
  rw [List.span_eq_takeWhile_dropWhile] at h
  have whole := List.takeWhile_append_dropWhile (p := (· ≠ c)) (l := s.toList.reverse)
  have stop := List.head?_dropWhile_not (· ≠ c) s.toList.reverse
  cases rest : s.toList.reverse.dropWhile (· ≠ c) with
  | nil =>
    rw [rest] at h
    cases h
  | cons x xs =>
    rw [rest] at h whole stop
    have head : x = c := by simpa using stop
    cases h
    have parts := congrArg List.reverse whole
    rw [List.reverse_reverse, List.reverse_append, List.reverse_cons, head,
      List.append_assoc] at parts
    rw [String.toList_ofList, String.toList_ofList]
    exact parts.symm

end DynamicRpc.Text

namespace DynamicRpc.Http

/-- Letters, digits, the underscore and the dot: what names of services and methods are made of. -/
def isIdentifierChar (c : Char) : Bool := c.isAlpha || c.isDigit || c = '_' || c = '.'

theorem isPathChar_of_plain {c : Char} (plain : c = '/' ∨ isIdentifierChar c) :
    Uri.isPathChar c ∧ c ≠ '?' ∧ c ≠ '#' := by
  refine ⟨?_, ?_, ?_⟩
  · rcases plain with rfl | plain
    · rfl
    · simp only [isIdentifierChar, Bool.or_eq_true, decide_eq_true_eq] at plain
      rcases plain with ((letter | digit) | rfl) | rfl
      · simp [Uri.isPathChar, Uri.isAlphanumeric, letter]
      · simp [Uri.isPathChar, Uri.isAlphanumeric, digit]
      · rfl
      · rfl
  · rintro rfl
    exact absurd plain (by decide)
  · rintro rfl
    exact absurd plain (by decide)

/-- A path of plain names reads as it stands. -/
theorem readMethodPath?_of_plain {path : String}
    (plain : ∀ c ∈ path.toList, c = '/' ∨ isIdentifierChar c) :
    readMethodPath? path = some (path, none) := by
  have fragment : Uri.dropFragment path.toList = path.toList :=
    List.takeWhile_eq_self_iff.2 fun c hc => by simpa using (isPathChar_of_plain (plain c hc)).2.2
  have whole : path.toList.takeWhile (· ≠ '?') = path.toList :=
    List.takeWhile_eq_self_iff.2 fun c hc => by simpa using (isPathChar_of_plain (plain c hc)).2.1
  have rest : path.toList.dropWhile (· ≠ '?') = [] :=
    List.dropWhile_eq_nil_iff.2 fun c hc => by simpa using (isPathChar_of_plain (plain c hc)).2.1
  have fit : path.toList.all Uri.isPathChar :=
    List.all_eq_true.2 fun c hc => (isPathChar_of_plain (plain c hc)).1
  rw [readMethodPath?, Uri.readPath, fragment]
  simp only [whole, fit, rest, if_true, String.ofList_toList]
  rfl

end DynamicRpc.Http

namespace DynamicRpc.Rpc

open Http

/-- What is split into a service and a method is the two with a slash between them, behind slashes
that do not count. -/
theorem splitMethodPath?_eq_some {text service method : String}
    (h : splitMethodPath? text = some (service, method)) :
    String.ofList (text.toList.dropWhile (· = '/')) = service ++ "/" ++ method := by
  unfold splitMethodPath? at h
  split at h
  next before after split =>
    have parts := Text.splitLast?_eq_some split
    split at h
    next => cases h
    next =>
      cases h
      rw [String.toList_ofList] at parts
      apply String.toList_injective
      rw [String.toList_ofList, parts, String.toList_append, String.toList_append]
      exact List.append_cons _ _ _
  next => cases h

/-! Headers -/

theorem ofText?_of_metadataKey? {name : String} {n : HeaderName}
    (key : metadataKey? name = some n) : HeaderName.ofText? name = some n := by
  unfold metadataKey? at key
  split at key
  next text =>
    rw [Option.ite_none_left_eq_some] at key
    rw [text, key.2]
  next => cases key

namespace RequestHeaders

variable {headers : RequestHeaders} {h : String × String} {n : HeaderName} {v : HeaderValue}
  {m : HeaderMap} {e : HeaderError}

/-- A header that can be sent: it is left out, or it has a name and a value for metadata. -/
def Fit (h : String × String) : Prop :=
  isHost h.1 ∨ (∃ n, metadataKey? h.1 = some n) ∧ ∃ v, HeaderValue.ofText? h.2 = some v

/-- The names that headers bring into metadata. -/
def keys (headers : RequestHeaders) : List HeaderName :=
  headers.filterMap fun h => if isHost h.1 then none else metadataKey? h.1

/-- What a header adds to metadata, if it is fit. -/
def pair? (h : String × String) : Option (HeaderName × HeaderValue) :=
  if isHost h.1 then none
  else do return (← metadataKey? h.1, ← HeaderValue.ofText? h.2)

def pairs (headers : RequestHeaders) : List (HeaderName × HeaderValue) := headers.filterMap pair?

/-! One header -/

/-- A header that is sent, with its name and its value. -/
structure Sent (h : String × String) (n : HeaderName) (v : HeaderValue) : Prop where
  other : isHost h.1 = false
  key : metadataKey? h.1 = some n
  value : HeaderValue.ofText? h.2 = some v

/-- What is wrong with a header that is not fit. -/
inductive Faulty (h : String × String) : HeaderError → Prop where
  | key (other : isHost h.1 = false) (bad : metadataKey? h.1 = none) : Faulty h (.key h.1)
  | value (n : HeaderName) (other : isHost h.1 = false) (key : metadataKey? h.1 = some n)
    (bad : HeaderValue.ofText? h.2 = none) : Faulty h (.value h.1)

theorem Sent.fit (sent : Sent h n v) : Fit h := .inr ⟨⟨n, sent.key⟩, v, sent.value⟩

theorem Sent.spells_iff (sent : Sent h n v) (x : HeaderName) :
    Text.equalIgnoringCase h.1 x.text = true ↔ n = x := by
  rw [← HeaderName.ofText?_eq_some, ofText?_of_metadataKey? sent.key, Option.some_inj]

theorem Faulty.not_fit (bad : Faulty h e) : ¬ Fit h := by
  rintro (host | ⟨⟨n, key⟩, v, value⟩)
  · cases bad with
    | key other => exact Bool.false_ne_true (other.symm.trans host)
    | value _ other => exact Bool.false_ne_true (other.symm.trans host)
  · cases bad with
    | key _ bad => cases bad.symm.trans key
    | value _ _ _ bad => cases bad.symm.trans value

theorem Sent.pair (sent : Sent h n v) : pair? h = some (n, v) := by
  simp [pair?, sent.other, sent.key, sent.value]

theorem pair_of_host (host : isHost h.1 = true) : pair? h = none := if_pos host

/-- A header is left out, sent or faulty. -/
theorem host_or_sent_or_faulty (h : String × String) :
    isHost h.1 = true ∨ (∃ n v, Sent h n v) ∨ ∃ e, Faulty h e := by
  cases other : isHost h.1 with
  | true => exact .inl rfl
  | false =>
    cases key : metadataKey? h.1 with
    | none => exact .inr (.inr ⟨_, .key other key⟩)
    | some n =>
      cases value : HeaderValue.ofText? h.2 with
      | none => exact .inr (.inr ⟨_, .value n other key value⟩)
      | some v => exact .inr (.inl ⟨n, v, other, key, value⟩)

theorem fit_iff : Fit h ↔ isHost h.1 = true ∨ ∃ n v, Sent h n v := by
  rcases host_or_sent_or_faulty h with host | sent | ⟨e, bad⟩
  · exact iff_of_true (.inl host) (.inl host)
  · obtain ⟨n, v, sent⟩ := sent
    exact iff_of_true sent.fit (.inr ⟨n, v, sent⟩)
  · refine iff_of_false bad.not_fit fun fit => bad.not_fit ?_
    rcases fit with host | ⟨n, v, sent⟩
    · exact .inl host
    · exact sent.fit

theorem addTo_of_faulty (m : HeaderMap) (bad : Faulty h e) :
    addTo m h = .error (.refused e) := by
  cases bad with
  | key other bad => simp only [addTo, other, bad, Bool.false_eq_true, if_false]
  | value n other key bad => simp only [addTo, other, key, bad, Bool.false_eq_true, if_false]

/-! All headers -/

/-- The values that headers bring to a name, in their order. -/
def brought (headers : RequestHeaders) (n : HeaderName) : List Bytes :=
  (headers.filter fun h => !isHost h.1 && Text.equalIgnoringCase h.1 n.text).map
    fun h => Text.toBytes h.2

theorem brought_cons_host (host : isHost h.1 = true) (rest : RequestHeaders) (x : HeaderName) :
    brought (h :: rest) x = brought rest x := by
  rw [brought, List.filter_cons_of_neg (by simp [host]), brought]

theorem brought_cons_sent (sent : Sent h n v) (rest : RequestHeaders) (x : HeaderName) :
    brought (h :: rest) x = (if n = x then [v.bytes] else []) ++ brought rest x := by
  have spells := sent.spells_iff x
  by_cases same : n = x
  · rw [if_pos same, brought, List.filter_cons_of_pos (by simp [sent.other, spells.2 same]),
      bytes_of_ofText? sent.value]
    rfl
  · rw [if_neg same, brought, List.filter_cons_of_neg (by simp [mt spells.1 same])]
    rfl

/-- Fit headers add their pairs, and these bring their names and values. -/
theorem keys_eq_names (fit : ∀ h ∈ headers, Fit h) : headers.keys = headers.pairs.map (·.1) := by
  rw [keys, pairs, List.map_filterMap]
  refine List.filterMap_congr fun h mem => ?_
  rcases fit_iff.1 (fit h mem) with host | ⟨n, v, sent⟩
  · simp [host, pair_of_host host]
  · simp [sent.other, sent.key, sent.pair]

theorem brought_eq_values (fit : ∀ h ∈ headers, Fit h) (x : HeaderName) :
    headers.brought x = ((headers.pairs.filter (·.1 = x)).map (·.2)).map (·.bytes) := by
  induction headers with
  | nil => rfl
  | cons h rest ih =>
    rw [List.forall_mem_cons] at fit
    rcases fit_iff.1 fit.1 with host | ⟨n, v, sent⟩
    · rw [brought_cons_host host, ih fit.2, pairs, pairs,
        List.filterMap_cons_none (pair_of_host host)]
    · rw [brought_cons_sent sent, ih fit.2, pairs, pairs, List.filterMap_cons_some sent.pair]
      by_cases same : n = x <;> simp [same]

theorem addAll_of_fit (fit : ∀ h ∈ headers, Fit h) (m : HeaderMap) :
    headers.foldlM addTo m = Stop.overflowing (m.appendAll? headers.pairs) := by
  induction headers generalizing m with
  | nil => rfl
  | cons h rest ih =>
    rw [List.forall_mem_cons] at fit
    rw [List.foldlM_cons]
    rcases fit_iff.1 fit.1 with host | ⟨n, v, sent⟩
    · have left : addTo m h = .ok m := if_pos host
      rw [left, pairs, List.filterMap_cons_none (pair_of_host host)]
      exact ih fit.2 m
    · have added : addTo m h = Stop.overflowing (m.append? n v) := by
        simp only [addTo, sent.other, sent.key, sent.value, Bool.false_eq_true, if_false]
      rw [added, pairs, List.filterMap_cons_some sent.pair, HeaderMap.appendAll?, List.foldlM_cons]
      cases m.append? n v with
      | none => rfl
      | some m' => exact ih fit.2 m'

/-- Headers that are not all fit have a first faulty one. -/
theorem fit_or_first (headers : RequestHeaders) : (∀ h ∈ headers, Fit h) ∨
    ∃ earlier h later e, headers = earlier ++ h :: later ∧ (∀ g ∈ earlier, Fit g) ∧
      Faulty h e := by
  induction headers with
  | nil => exact .inl nofun
  | cons h rest ih =>
    have first : Fit h ∨ ∃ e, Faulty h e := by
      rw [fit_iff, or_assoc]
      exact host_or_sent_or_faulty h
    rcases first with fit | ⟨e, bad⟩
    · rcases ih with fits | ⟨earlier, g, later, e, rfl, before, bad⟩
      · exact .inl (List.forall_mem_cons.2 ⟨fit, fits⟩)
      · exact .inr ⟨h :: earlier, g, later, e, rfl, List.forall_mem_cons.2 ⟨fit, before⟩, bad⟩
    · exact .inr ⟨[], h, rest, e, rfl, nofun, bad⟩

/-- What adding headers one by one comes to. -/
inductive AddedAll (m : HeaderMap) (headers : RequestHeaders) :
    Except (Stop HeaderError) HeaderMap → Prop where
  | done (m' : HeaderMap) (fit : ∀ h ∈ headers, Fit h)
    (names : ∀ x, x ∈ m'.names ↔ x ∈ m.names ∨ x ∈ headers.keys)
    (values : ∀ x, (m'.values x).map (·.bytes) = (m.values x).map (·.bytes) ++ headers.brought x) :
    AddedAll m headers (.ok m')
  | faulty (e : HeaderError) (earlier : RequestHeaders) (h : String × String)
    (later : RequestHeaders) (split : headers = earlier ++ h :: later)
    (before : ∀ g ∈ earlier, Fit g) (bad : Faulty h e) : AddedAll m headers (.error (.refused e))
  | full (earlier later : RequestHeaders) (split : headers = earlier ++ later)
    (before : ∀ g ∈ earlier, Fit g) (full : m.appendAll? earlier.pairs = none) :
    AddedAll m headers (.error .overflow)

theorem addAll_addedAll (m : HeaderMap) (headers : RequestHeaders) :
    AddedAll m headers (headers.foldlM addTo m) := by
  rcases fit_or_first headers with fit | ⟨earlier, h, later, e, split, before, bad⟩
  · rw [addAll_of_fit fit]
    cases added : m.appendAll? headers.pairs with
    | none => exact .full headers [] (List.append_nil _).symm fit added
    | some m' =>
      refine .done m' fit (fun x => ?_) fun x => ?_
      · rw [HeaderMap.mem_names_appendAll added, keys_eq_names fit]
      · rw [HeaderMap.values_appendAll added, List.map_append, brought_eq_values fit]
  · rw [split, List.foldlM_append, addAll_of_fit before, ← split]
    cases added : m.appendAll? (pairs earlier) with
    | none => exact .full earlier (h :: later) split before added
    | some m' =>
      change AddedAll m headers ((h :: later).foldlM addTo m')
      rw [List.foldlM_cons, addTo_of_faulty m' bad]
      exact .faulty e earlier h later split before bad

/-- Fit headers with few names find room. -/
theorem many_of_full (fit : ∀ h ∈ headers, Fit h)
    (full : HeaderMap.empty.appendAll? headers.pairs = none) :
    HeaderMap.guardedNames ≤ headers.keys.dedup.length := by
  have among : ∀ p ∈ headers.pairs, p.1 ∈ headers.keys :=
    fun p mem => keys_eq_names fit ▸ List.mem_map_of_mem mem
  rcases HeaderMap.appendAll_names (m := .empty) headers.pairs (List.nil_subset _) among with
    ⟨m, added, _⟩ | many
  · cases full.symm.trans added
  · exact many

/-! Metadata -/

/-- Headers can be sent: none of them is reserved, and each is fit. -/
def Sendable (headers : RequestHeaders) : Prop := ∀ h ∈ headers, isReserved h.1 = false ∧ Fit h

/-- What headers become: metadata with their names, or nothing over one that cannot be sent or over
many names. -/
inductive Becoming (headers : RequestHeaders) : Except (Stop HeaderError) HeaderMap → Prop where
  | metadata (m : HeaderMap) (sendable : headers.Sendable)
    (names : ∀ n, n ∈ m.names ↔ n ∈ headers.keys) : Becoming headers (.ok m)
  | refused (e : HeaderError) (h : String × String) (mem : h ∈ headers)
    (bad : isReserved h.1 = true ∨ ¬ Fit h) : Becoming headers (.error (.refused e))
  | overflow (many : HeaderMap.guardedNames ≤ headers.keys.dedup.length) :
    Becoming headers (.error .overflow)

theorem metadata_becoming (headers : RequestHeaders) : Becoming headers headers.metadata := by
  unfold metadata
  split
  next name found =>
    obtain ⟨h, found, _⟩ := Option.map_eq_some_iff.1 found
    have reserved : isReserved h.1 = true := by simpa using List.find?_some found
    exact .refused _ h (List.mem_of_find?_eq_some found) (.inl reserved)
  -- No name is reserved, not even behind the one that ends the fold.
  next none =>
    rw [reserved?, Option.map_eq_none_iff, List.find?_eq_none] at none
    have added := addAll_addedAll .empty headers
    generalize headers.foldlM addTo .empty = all at added
    cases added with
    | done m fit names =>
      exact .metadata m (fun h mem => ⟨Bool.eq_false_iff.2 (none h mem), fit h mem⟩)
        (by simpa using names)
    | faulty e earlier h later split _ bad =>
      exact .refused e h (split ▸ List.mem_append_right _ List.mem_cons_self) (.inr bad.not_fit)
    | full earlier later split before full =>
      refine .overflow (Nat.le_trans (many_of_full before full) (HeaderMap.length_dedup_le ?_))
      rw [split]
      exact List.filterMap_subset _ (List.subset_append_left _ _)

end RequestHeaders

end DynamicRpc.Rpc
