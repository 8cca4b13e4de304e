import DynamicRpc.Proofs.Relay.LastSource
import DynamicRpc.Proofs.Rpc.Invocation

/-!
What the headers of a call become. They are looked through for reserved names first and added one by
one then, so that either all of them are metadata, each under its name in lower case, or the first
fault is told. Adding stops without an answer at a header for which the metadata makes no room, as
happens when it has all the names that it can hold, even if the header brings none of its own.
-/
namespace DynamicRpc.Rpc

open Http

variable {a b : String} {n : HeaderName}

/-! Spellings -/

theorem isHost_congr (same : Text.equalIgnoringCase a b = true) : isHost a = isHost b := by
  rw [isHost, isHost, Text.equalIgnoringCase, Text.equalIgnoringCase, of_decide_eq_true same]

theorem isReserved_congr (same : Text.equalIgnoringCase a b = true) :
    isReserved a = isReserved b := by
  rw [isReserved, isReserved, of_decide_eq_true same]

namespace RequestHeaders

variable {headers : RequestHeaders} {h : String × String} {v : HeaderValue} {m : HeaderMap}
  {e : HeaderError}

/-! Reserved names -/

/-- No header has a reserved name. -/
def Unreserved (headers : RequestHeaders) : Prop := ∀ h ∈ headers, isReserved h.1 = false

theorem metadata_of_unreserved (free : headers.Unreserved) :
    headers.metadata = headers.foldlM addTo .empty := by
  have none_found : headers.reserved? = none := by
    rw [reserved?, Option.map_eq_none_iff, List.find?_eq_none]
    exact fun h mem => Bool.eq_false_iff.1 (free h mem)
  rw [metadata, none_found]

theorem metadata_of_reserved {earlier later : RequestHeaders} (before : earlier.Unreserved)
    (bad : isReserved h.1 = true) :
    metadata (earlier ++ h :: later) = .error (.refused (.reserved h.1)) := by
  have first : (earlier ++ h :: later).find? (fun g => isReserved g.1) = some h :=
    List.find?_eq_some_iff_append.2 ⟨bad, earlier, later, rfl, by simpa [Unreserved] using before⟩
  rw [metadata, reserved?, first]
  rfl

/-- Without a first reserved name there is none. -/
theorem unreserved_or_first (headers : RequestHeaders) : headers.Unreserved ∨
    ∃ earlier h later, headers = earlier ++ h :: later ∧ Unreserved earlier ∧
      isReserved h.1 = true := by
  cases found : headers.find? (fun g => isReserved g.1) with
  | none =>
    rw [List.find?_eq_none] at found
    exact .inl fun h mem => Bool.eq_false_iff.2 (found h mem)
  | some h =>
    obtain ⟨bad, earlier, later, split, before⟩ := List.find?_eq_some_iff_append.1 found
    exact .inr ⟨earlier, h, later, split, by simpa [Unreserved] using before, bad⟩

/-! The outcomes -/

/-- The first headers, so many of them as it takes, are fit but do not all find room. -/
def Overfull (headers : RequestHeaders) : Prop :=
  ∃ earlier later, headers = earlier ++ later ∧ (∀ h ∈ earlier, Fit h) ∧
    HeaderMap.empty.appendAll? (pairs earlier) = none

/-- Headers with few names always find room. -/
theorem Overfull.many (overfull : headers.Overfull) :
    HeaderMap.guardedNames ≤ headers.keys.dedup.length := by
  obtain ⟨earlier, later, rfl, fit, full⟩ := overfull
  refine Nat.le_trans (many_of_full fit full) (HeaderMap.length_dedup_le ?_)
  exact List.filterMap_subset _ (List.subset_append_left _ _)

theorem not_overfull_of_few (few : headers.length < HeaderMap.guardedNames) :
    ¬ headers.Overfull := by
  intro overfull
  have names : headers.keys.dedup.length ≤ headers.length :=
    Nat.le_trans (List.dedup_sublist _).length_le (List.length_filterMap_le _ _)
  exact absurd overfull.many (Nat.not_le.2 (Nat.lt_of_le_of_lt names few))

/-- A header that comes behind all the names that there is ever room for finds none. -/
theorem overfull_of_many {earlier later : RequestHeaders} (before : ∀ g ∈ earlier, Fit g)
    (sent : Sent h n v) (many : HeaderMap.maxNames ≤ earlier.keys.dedup.length) :
    Overfull (earlier ++ h :: later) := by
  refine ⟨earlier ++ [h], later, List.append_cons _ _ _, ?_, ?_⟩
  · exact List.forall_mem_append.2 ⟨before, List.forall_mem_singleton.2 sent.fit⟩
  · have behind : pairs (earlier ++ [h]) = pairs earlier ++ [(n, v)] := by
      rw [pairs, List.filterMap_append, List.filterMap_cons_some sent.pair]
      rfl
    rw [behind, HeaderMap.appendAll?, List.foldlM_append]
    refine Option.bind_eq_none_iff.2 fun m added => ?_
    have names : earlier.keys ⊆ m.names := fun x mem =>
      (HeaderMap.mem_names_appendAll added).2 (.inr (keys_eq_names before ▸ mem))
    have distinct : m.names.dedup = m.names := List.Nodup.dedup m.nodup
    have full : HeaderMap.maxNames ≤ m.names.length :=
      distinct ▸ Nat.le_trans many (HeaderMap.length_dedup_le names)
    rw [List.foldlM_cons, HeaderMap.append?_eq_none full]
    rfl

theorem addAll_of_overfull (overfull : headers.Overfull) :
    headers.foldlM addTo .empty = .error .overflow := by
  obtain ⟨earlier, later, rfl, fit, full⟩ := overfull
  rw [List.foldlM_append, addAll_of_fit fit, full]
  rfl

theorem Overfull.append (overfull : headers.Overfull) (more : RequestHeaders) :
    Overfull (headers ++ more) := by
  obtain ⟨earlier, later, rfl, fits⟩ := overfull
  exact ⟨earlier, later ++ more, List.append_assoc _ _ _, fits⟩

theorem metadata_of_overfull (free : headers.Unreserved) (overfull : headers.Overfull) :
    headers.metadata = .error .overflow :=
  (metadata_of_unreserved free).trans (addAll_of_overfull overfull)

/-- What is told of headers that cannot be sent: a reserved name before all else, and otherwise the
fault of the first header that is not fit. -/
inductive FirstFault (headers : RequestHeaders) : HeaderError → Prop where
  | reserved (earlier : RequestHeaders) (h : String × String) (later : RequestHeaders)
    (split : headers = earlier ++ h :: later) (before : earlier.Unreserved)
    (bad : isReserved h.1 = true) : FirstFault headers (.reserved h.1)
  | unfit (e : HeaderError) (earlier : RequestHeaders) (h : String × String)
    (later : RequestHeaders) (split : headers = earlier ++ h :: later) (free : headers.Unreserved)
    (before : ∀ g ∈ earlier, Fit g) (room : ¬ earlier.Overfull) (bad : Faulty h e) :
    FirstFault headers e

/-- Metadata that holds the headers: the values under each name are those that the headers bring to
it, no other name is there, and none in any spelling that is reserved or a host. -/
structure Holds (headers : RequestHeaders) (m : HeaderMap) : Prop where
  values : ∀ n, (m.values n).map (·.bytes) = headers.brought n
  names : ∀ n, n ∈ m.names ↔ headers.brought n ≠ []
  allowed : ∀ n ∈ m.names, ∀ s, Text.equalIgnoringCase s n.text = true →
    isHost s = false ∧ isReserved s = false

theorem brought_ne_nil : headers.brought n ≠ [] ↔
    ∃ h ∈ headers, isHost h.1 = false ∧ Text.equalIgnoringCase h.1 n.text = true := by
  rw [brought, ne_eq, List.map_eq_nil_iff, List.filter_eq_nil_iff]
  simp

theorem mem_keys_iff (fit : ∀ h ∈ headers, Fit h) : n ∈ headers.keys ↔ headers.brought n ≠ [] := by
  rw [brought_ne_nil, keys, List.mem_filterMap]
  refine exists_congr fun h => and_congr_right fun mem => ?_
  rcases fit h mem with host | ⟨⟨x, key⟩, v, value⟩
  · simp [host]
  · cases other : isHost h.1 with
    | true => simp
    | false =>
      have sent : Sent h x v := ⟨other, key, value⟩
      simp [key, sent.spells_iff]

theorem holds_of_added (free : headers.Unreserved) (h : headers.foldlM addTo .empty = .ok m) :
    headers.Holds m := by
  have all := addAll_addedAll .empty headers
  rw [h] at all
  cases all with
  | done _ fit names values =>
    have present : ∀ n, n ∈ m.names ↔ headers.brought n ≠ [] := by
      intro n
      rw [names, ← mem_keys_iff fit]
      simp
    refine ⟨by simpa using values, present, fun n mem s same => ?_⟩
    obtain ⟨g, there, other, spells⟩ := brought_ne_nil.1 ((present n).1 mem)
    have alike : Text.equalIgnoringCase s g.1 = true := by
      rw [Text.equalIgnoringCase, decide_eq_true_eq] at *
      exact same.trans spells.symm
    rw [isHost_congr alike, isReserved_congr alike]
    exact ⟨other, free g there⟩

theorem metadata_of_firstFault (first : headers.FirstFault e) :
    headers.metadata = .error (.refused e) := by
  cases first with
  | reserved earlier h later split before bad =>
    subst split
    exact metadata_of_reserved before bad
  | unfit _ earlier h later split free before room bad =>
    rw [metadata_of_unreserved free, split, List.foldlM_append]
    have others := addAll_addedAll .empty earlier
    generalize earlier.foldlM addTo .empty = added at others
    cases others with
    | done m =>
      change (h :: later).foldlM addTo m = _
      rw [List.foldlM_cons, addTo_of_faulty m bad]
      rfl
    | faulty _ _ g _ split _ bad =>
      exact absurd (before g (split ▸ List.mem_append_right _ List.mem_cons_self)) bad.not_fit
    | full earlier' later' split fit full => exact absurd ⟨earlier', later', split, fit, full⟩ room

/-- The headers are metadata, or cannot be sent, or find no room. -/
inductive Outcome (headers : RequestHeaders) :
    Except (Stop HeaderError) HeaderMap → Prop where
  | metadata (m : HeaderMap) (sendable : headers.Sendable) (room : ¬ headers.Overfull)
    (holds : headers.Holds m) : Outcome headers (.ok m)
  | refused (e : HeaderError) (first : headers.FirstFault e) : Outcome headers (.error (.refused e))
  | overflow (free : headers.Unreserved) (overfull : headers.Overfull) :
    Outcome headers (.error .overflow)

theorem metadata_outcome (headers : RequestHeaders) : Outcome headers headers.metadata := by
  rcases unreserved_or_first headers with free | ⟨earlier, h, later, split, before, bad⟩
  · have all := addAll_addedAll .empty headers
    rw [metadata_of_unreserved free]
    cases added : headers.foldlM addTo .empty with
    | ok m =>
      rw [added] at all
      cases all with
      | done _ fit =>
        refine .metadata m (fun h mem => ⟨free h mem, fit h mem⟩) (fun overfull => ?_)
          (holds_of_added free added)
        cases (addAll_of_overfull overfull).symm.trans added
    | error stop =>
      rw [added] at all
      cases all with
      | faulty e earlier h later split before bad =>
        refine .refused e (.unfit e earlier h later split free before (fun overfull => ?_) bad)
        have whole : headers.Overfull := split ▸ overfull.append (h :: later)
        cases (addAll_of_overfull whole).symm.trans added
      | full earlier later split fit full => exact .overflow free ⟨earlier, later, split, fit, full⟩
  · rw [split, metadata_of_reserved before bad, ← split]
    exact .refused _ (.reserved earlier h later split before bad)

theorem FirstFault.not_sendable (first : headers.FirstFault e) : ¬ headers.Sendable := by
  intro sendable
  cases first with
  | reserved earlier h later split _ bad =>
    have mem : h ∈ headers := split ▸ List.mem_append_right _ List.mem_cons_self
    exact Bool.false_ne_true ((sendable h mem).1.symm.trans bad)
  | unfit _ earlier h later split _ _ _ bad =>
    have mem : h ∈ headers := split ▸ List.mem_append_right _ List.mem_cons_self
    exact bad.not_fit (sendable h mem).2

/-- Headers are metadata exactly if all of them can be sent and find room, and then the metadata
holds them. What is told otherwise is the first fault, a reserved name first of all; and nothing is
told exactly if no name is reserved and a header finds no room, whether or not its name is there
already. All find room if they have few names, and a header behind the most names never does. -/
theorem metadata_holds_headers_or_first_fault (headers : RequestHeaders) :
    ((∃ m, headers.metadata = .ok m) ↔ headers.Sendable ∧ ¬ headers.Overfull) ∧
    (∀ m, headers.metadata = .ok m → headers.Holds m) ∧
    (∀ e, headers.metadata = .error (.refused e) ↔ headers.FirstFault e) ∧
    (headers.metadata = .error .overflow ↔ headers.Unreserved ∧ headers.Overfull) ∧
    (headers.Overfull → HeaderMap.guardedNames ≤ headers.keys.dedup.length) ∧
    (∀ (earlier later : RequestHeaders) (h : String × String) (n : HeaderName) (v : HeaderValue),
      headers = earlier ++ h :: later → (∀ g ∈ earlier, Fit g) → Sent h n v →
      HeaderMap.maxNames ≤ earlier.keys.dedup.length → headers.Overfull) := by
  have x := metadata_outcome headers
  refine ⟨⟨?_, ?_⟩, ?_, fun e => ⟨?_, metadata_of_firstFault⟩, ⟨?_, fun ⟨free, overfull⟩ =>
    metadata_of_overfull free overfull⟩, Overfull.many, ?_⟩
  · rintro ⟨m, h⟩
    rw [h] at x
    cases x with
    | metadata _ sendable room => exact ⟨sendable, room⟩
  · rintro ⟨sendable, room⟩
    cases h : headers.metadata with
    | ok m => exact ⟨m, rfl⟩
    | error stop =>
      rw [h] at x
      cases x with
      | refused e first => exact absurd sendable first.not_sendable
      | overflow _ overfull => exact absurd overfull room
  · intro m h
    rw [h] at x
    cases x with
    | metadata _ _ _ holds => exact holds
  · intro h
    rw [h] at x
    cases x with
    | refused _ first => exact first
  · intro h
    rw [h] at x
    cases x with
    | overflow free overfull => exact ⟨free, overfull⟩
  · rintro earlier later h n v rfl before sent many
    exact overfull_of_many before sent many

/-! Headers that can and cannot be metadata -/

def tag : HeaderName := ⟨"x-tag", rfl⟩

/-- Two spellings of a name are one, a host is left out, and a reserved name is told before a key
that comes earlier. -/
theorem spellings_share_a_name :
    (∃ m, metadata [("X-Tag", "a"), ("hOST", "b"), ("x-tag", "")] = .ok m ∧
      (m.values tag).map (·.bytes) = [Text.toBytes "a", []]) ∧
    metadata [("bad key", "a"), ("Grpc-Timeout", "1S"), ("te", "")] =
      .error (.refused (.reserved "Grpc-Timeout")) := by
  constructor
  · obtain ⟨made, holds, _⟩ := metadata_holds_headers_or_first_fault
      [("X-Tag", "a"), ("hOST", "b"), ("x-tag", "")]
    have sendable : Sendable [("X-Tag", "a"), ("hOST", "b"), ("x-tag", "")] := by
      have tagged {s v : String} (key : metadataKey? s = some tag)
          (value : (HeaderValue.ofText? v).isSome = true) : Fit (s, v) :=
        .inr ⟨⟨tag, key⟩, Option.isSome_iff_exists.1 value⟩
      intro h mem
      simp only [List.mem_cons, List.not_mem_nil, or_false] at mem
      rcases mem with rfl | rfl | rfl
      · exact ⟨by decide, tagged rfl rfl⟩
      · exact ⟨by decide, .inl (by decide)⟩
      · exact ⟨by decide, tagged rfl rfl⟩
    obtain ⟨m, h⟩ := made.2 ⟨sendable, not_overfull_of_few (by decide)⟩
    exact ⟨m, h, ((holds m h).values tag).trans (by decide)⟩
  · obtain ⟨_, _, told, _⟩ := metadata_holds_headers_or_first_fault
      [("bad key", "a"), ("Grpc-Timeout", "1S"), ("te", "")]
    exact (told _).2 (.reserved [("bad key", "a")] ("Grpc-Timeout", "1S") [("te", "")] rfl
      (List.forall_mem_singleton.2 (by decide)) (by decide))

/-- As many words as metadata has room for, and the first of them again. -/
def fullHeaders : RequestHeaders := (Relay.allWords ++ ["aaa"]).map (·, "")

theorem first_word_mem : "aaa" ∈ Relay.allWords :=
  List.mem_of_mem_head? (show Relay.allWords.head? = some "aaa" by decide +kernel)

theorem fullHeaders_sendable : fullHeaders.Sendable := by
  have among : Relay.allWords ⊆ Relay.words := (List.take_sublist _ _).subset
  refine Client.sendable_of_words (List.append_subset.2 ⟨among, ?_⟩)
  exact List.cons_subset.2 ⟨among first_word_mem, List.nil_subset _⟩

theorem length_keys_allWords :
    (keys (Relay.allWords.map (·, ""))).dedup.length = HeaderMap.maxNames := by
  have among : Relay.allWords.Sublist Relay.words := List.take_sublist _ _
  rw [Client.length_keys_of_words among, Relay.allWords, List.length_take, Relay.length_words]
  decide

/-- The word that comes again is late. -/
theorem fullHeaders_overfull : fullHeaders.Overfull := by
  have split : fullHeaders = Relay.allWords.map (·, "") ++ ("aaa", "") :: [] := List.map_append
  have again : Sent ("aaa", "") Relay.firstName ⟨[], by decide⟩ := ⟨by decide, rfl, rfl⟩
  rw [split]
  refine overfull_of_many (fun g mem => ?_) again (Nat.le_of_eq length_keys_allWords.symm)
  exact (fullHeaders_sendable g (split ▸ List.mem_append_left _ mem)).2

/-- The word that comes again brings no name. -/
theorem length_keys_fullHeaders : fullHeaders.keys.dedup.length = HeaderMap.maxNames := by
  have again : Relay.allWords ++ ["aaa"] ⊆ Relay.allWords :=
    List.append_subset.2 ⟨List.Subset.refl _, by simpa using first_word_mem⟩
  rw [← length_keys_allWords]
  apply Nat.le_antisymm
  · exact HeaderMap.length_dedup_le (List.filterMap_subset _ (List.map_subset _ again))
  · refine HeaderMap.length_dedup_le (List.filterMap_subset _ (List.map_subset _ ?_))
    exact List.subset_append_left _ _

/-- All of these can be sent and metadata can hold all their names, but there is none; and behind
them the first header that is not fit is not told. -/
theorem repeated_name_finds_no_room :
    (fullHeaders.Sendable ∧ fullHeaders.keys.dedup.length = HeaderMap.maxNames ∧
      fullHeaders.metadata = .error .overflow) ∧
    Faulty ("bad key", "") (.key "bad key") ∧
      metadata (fullHeaders ++ [("bad key", "")]) = .error .overflow := by
  have free : fullHeaders.Unreserved := fun h mem => (fullHeaders_sendable h mem).1
  have free_behind : Unreserved (fullHeaders ++ [("bad key", "")]) :=
    List.forall_mem_append.2 ⟨free, List.forall_mem_singleton.2 (by decide)⟩
  exact ⟨⟨fullHeaders_sendable, length_keys_fullHeaders,
    metadata_of_overfull free fullHeaders_overfull⟩, .key (by decide) rfl,
    metadata_of_overfull free_behind (fullHeaders_overfull.append _)⟩

end RequestHeaders

end DynamicRpc.Rpc
