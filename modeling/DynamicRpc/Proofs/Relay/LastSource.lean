import DynamicRpc.Proofs.Relay.Carrying

/-!
What forwarding leaves under a name. Entries are applied in order, each on top of what the earlier
ones left, but all of them read the inbound headers: the last entry that has something to bring
decides, and a name that nothing is brought to keeps its values. Only a collection without room for
the values that are brought stands in the way.
-/
namespace DynamicRpc.Relay

open Http Success

variable {forward : List ForwardEntry} {entries : List (HeaderName × HeaderName)}
  {inbound outbound after m : HeaderMap} {n : HeaderName}

/-! The entry that decides -/

/-- An entry as it is configured, and the names that it spells. -/
def Spells (f : ForwardEntry) (e : HeaderName × HeaderName) : Prop :=
  HeaderName.ofText? f.source = some e.1 ∧ HeaderName.ofText? f.target = some e.2

/-- An entry brings values to the name that it names, if its source is present. -/
theorem Spells.feeds_iff {f : ForwardEntry} {e : HeaderName × HeaderName} (spelled : Spells f e) :
    feeds inbound n e = true ↔ f.name? inbound = some n := by
  obtain ⟨source, target⟩ := spelled
  have present : (∃ s, HeaderName.ofText? f.source = some s ∧ inbound.values s ≠ []) ↔
      inbound.values e.1 ≠ [] := by
    constructor
    · rintro ⟨s, hs, some⟩
      cases source.symm.trans hs
      exact some
    · intro some
      exact ⟨e.1, source, some⟩
  simp only [feeds, Bool.and_eq_true, decide_eq_true_eq, Bool.not_eq_true',
    List.isEmpty_eq_false_iff, ForwardEntry.name?, present]
  by_cases some : inbound.values e.1 = []
  · simp [some]
  · simp [some, target]

theorem forwarded?_of_none_brings (spelled : List.Forall₂ Spells forward entries)
    (none_brings : ∀ f ∈ forward, f.name? inbound ≠ some n) :
    forwarded? inbound n entries = none := by
  induction spelled with
  | nil => rfl
  | cons head _ ih =>
    rw [List.forall_mem_cons] at none_brings
    rw [forwarded?_cons, ih none_brings.2, Option.none_or, if_neg]
    exact fun feeding => none_brings.1 (head.feeds_iff.1 feeding)

/-- Entries before the last one that brings values to a name do not matter for it. -/
theorem forwarded?_of_last {earlier later : List ForwardEntry} {f : ForwardEntry}
    (spelled : List.Forall₂ Spells (earlier ++ f :: later) entries)
    (brings : f.name? inbound = some n) (last : ∀ g ∈ later, g.name? inbound ≠ some n) :
    ∃ source, HeaderName.ofText? f.source = some source ∧
      forwarded? inbound n entries = some (inbound.values source) := by
  induction earlier generalizing entries with
  | nil =>
    rw [List.nil_append] at spelled
    cases spelled with
    | cons head rest =>
      refine ⟨_, head.1, ?_⟩
      rw [forwarded?_cons, forwarded?_of_none_brings rest last, Option.none_or,
        if_pos (head.feeds_iff.2 brings)]
  | cons g earlier ih =>
    rw [List.cons_append] at spelled
    cases spelled with
    | cons head rest =>
      obtain ⟨source, spells, forwarded⟩ := ih rest
      exact ⟨source, spells, by rw [forwarded?_cons, forwarded, Option.some_or]⟩

/-! Collections after forwarding -/

/-- What entries make of outbound headers. -/
structure Forwards (inbound outbound after : HeaderMap) (forward : List ForwardEntry) : Prop where
  /-- The values under a name are those of the last source that is present. -/
  replaced : ∀ n earlier f later, forward = earlier ++ f :: later → f.name? inbound = some n →
    (∀ g ∈ later, g.name? inbound ≠ some n) →
    ∃ source, HeaderName.ofText? f.source = some source ∧
      after.values n = inbound.values source
  /-- Where no entry has a source that is present, nothing changes. -/
  kept : ∀ n, (∀ f ∈ forward, f.name? inbound ≠ some n) → after.values n = outbound.values n

/-- Whatever entries a policy is made from, forwarding leaves under each name the inbound values of
the last source that is present, or what was there if there is none; and it comes to an end unless
the names of the collection and those that are brought are as many as a collection can hold. -/
theorem last_present_source_decides {disallowed : List String} {p : Policy}
    (made : Policy.ofNames disallowed forward = .ok p) (inbound outbound : HeaderMap) :
    (∀ after, p.applyForwarding? inbound outbound = some after →
      Forwards inbound outbound after forward) ∧
    (p.applyForwarding? inbound outbound = none → HeaderMap.guardedNames ≤
      (outbound.names ++ forward.filterMap (·.name? inbound)).dedup.length) := by
  have spelled : List.Forall₂ Spells forward p.forward := (names_of_ofNames made).2
  constructor
  · intro after h
    constructor
    · rintro n earlier f later rfl brings last
      obtain ⟨source, spells, forwarded⟩ := forwarded?_of_last spelled brings last
      exact ⟨source, spells, by rw [values_applyForwarding h, forwarded, Option.getD_some]⟩
    · intro n none_brings
      rw [values_applyForwarding h, forwarded?_of_none_brings spelled none_brings, Option.getD_none]
  · intro stopped
    have brought : ∀ e ∈ p.forward, inbound.values e.1 ≠ [] →
        e.2 ∈ outbound.names ++ forward.filterMap (·.name? inbound) := by
      intro e mem present
      obtain ⟨f, hf, spells⟩ := exists_of_forall₂_right spelled mem
      have feeding : feeds inbound e.2 e = true := by simp [feeds, present]
      exact List.mem_append_right _ (List.mem_filterMap.2 ⟨f, hf, spells.feeds_iff.1 feeding⟩)
    rcases forwardAll_names p.forward (List.subset_append_left _ _) brought with ⟨after, h⟩ | many
    · cases stopped.symm.trans h
    · exact many

/-! Entries that chain -/

def session : HeaderName := ⟨"x-session", rfl⟩

def user : HeaderName := ⟨"x-user", by decide⟩

def value (text : String) (ascii : (Text.toBytes text).all isValueByte = true) : HeaderValue :=
  ⟨Text.toBytes text, ascii⟩

/-- Two values for the session, and none for the user. -/
def twoSessions : HeaderMap :=
  (HeaderMap.empty.appendAll?
    [(session, value "a" (by decide)), (session, value "b" (by decide))]).getD .empty

/-- Entries of which the second would read what the first has written, in odd case. -/
def chained : List ForwardEntry := [⟨"X-Session", "x-user"⟩, ⟨"X-USER", "authorization"⟩]

/-- The second entry finds no user among the inbound headers. -/
theorem chained_entry_brings_nothing : ∃ p after,
    Policy.ofNames [] chained = .ok p ∧ p.applyForwarding? twoSessions .empty = some after ∧
    after.values user = twoSessions.values session ∧ after.values authorization = [] := by
  have made : Policy.ofNames [] chained = .ok ⟨[], [(session, user), (user, authorization)]⟩ := rfl
  obtain ⟨forwards, stops⟩ := last_present_source_decides made twoSessions .empty
  cases h : Policy.applyForwarding? ⟨[], [(session, user), (user, authorization)]⟩
      twoSessions .empty with
  | none => exact absurd (stops h) (by decide +kernel)
  | some after =>
    obtain ⟨source, spells, values⟩ := (forwards after h).replaced user [] ⟨"X-Session", "x-user"⟩
      [⟨"X-USER", "authorization"⟩] rfl (by decide +kernel) (by decide +kernel)
    cases (show HeaderName.ofText? "X-Session" = some session from rfl).symm.trans spells
    exact ⟨_, after, made, h, values,
      (forwards after h).kept authorization (by decide +kernel)⟩

/-! Collections without room -/

/-- Two values do not fit in place of others if a collection has all names that it can hold: there
is no room for the second one before its name is looked up. -/
theorem forwardOne_of_full {e : HeaderName × HeaderName} {v w : HeaderValue}
    (two : inbound.values e.1 = [v, w]) (full : m.names.length = HeaderMap.maxNames)
    (there : e.2 ∈ m.names) : Policy.forwardOne inbound m e = none := by
  have left : (m.remove e.2).names.length + 1 = HeaderMap.maxNames := by
    rw [← full, HeaderMap.length_remove_of_mem there]
  have absent : e.2 ∉ (m.remove e.2).names := HeaderMap.not_mem_names_remove m e.2
  simp only [Policy.forwardOne, two, List.map_cons, List.map_nil, HeaderMap.appendAll?,
    List.foldlM_cons]
  cases first : (m.remove e.2).append? e.2 v with
  | none => rfl
  | some m₁ =>
    have filled : m₁.names.length = HeaderMap.maxNames := by
      rw [HeaderMap.names_append_eq first, if_neg absent, List.length_append,
        List.length_singleton, left]
    have again : m₁.append? e.2 w = none := HeaderMap.append?_eq_none (Nat.le_of_eq filled.symm)
    simp [again]

/-- As many words as a collection can hold. -/
def allWords : List String := words.take HeaderMap.maxNames

def fullNames : List HeaderName := (naming allWords).filterMap (·.name?)

theorem text_fullNames : fullNames.map (·.text) = allWords :=
  text_names_naming (List.take_sublist _ _).subset

theorem nodup_fullNames : fullNames.Nodup := by
  refine .of_map (·.text) ?_
  rw [text_fullNames]
  exact nodup_words.sublist (List.take_sublist _ _)

theorem length_fullNames : fullNames.length = HeaderMap.maxNames := by
  rw [← List.length_map (f := (·.text)), text_fullNames, allWords, List.length_take, length_words]
  decide

/-- The largest table, with a secret hash. -/
def largestTable : Table :=
  ⟨.free maxSlots, .secret, by
    rw [Slots.size_free]
    decide⟩

/-- A collection of all these names, with an empty value each. -/
def fullMap : HeaderMap where
  entries := (fullNames.map (·, [value "" (by decide)])).toArray
  table := largestTable
  nodup := by
    rw [List.toList_toArray, List.map_map]
    exact (List.map_id' fullNames).symm ▸ nodup_fullNames
  room := by
    rw [List.size_toArray, List.length_map, length_fullNames, Table.capacity, largestTable,
      Slots.size_free]
    decide

theorem names_fullMap : fullMap.names = fullNames := by
  rw [HeaderMap.names, HeaderMap.rows, fullMap, List.toList_toArray, List.map_map]
  exact List.map_id' fullNames

def firstName : HeaderName := ⟨"aaa", by decide⟩

theorem firstName_mem : firstName ∈ fullNames := by
  have first : "aaa" ∈ fullNames.map (·.text) := by
    rw [text_fullNames]
    exact List.mem_of_mem_head? (show allWords.head? = some "aaa" by decide +kernel)
  obtain ⟨n, mem, text⟩ := List.mem_map.1 first
  obtain rfl : n = firstName := by
    cases n
    cases text
    rfl
  exact mem

/-- A name of a full collection cannot get the two values that it should have in place of its own,
though no name would be added. It does not matter where the names stand in the table. -/
theorem full_map_takes_no_second_value : ∃ p,
    Policy.ofNames [] [⟨"x-session", "aaa"⟩] = .ok p ∧
    fullNames.length = HeaderMap.maxNames ∧ firstName ∈ fullNames ∧
    twoSessions.values session = [value "a" (by decide), value "b" (by decide)] ∧
    fullMap.names = fullNames ∧
    ∀ m : HeaderMap, m.names = fullNames → p.applyForwarding? twoSessions m = none := by
  refine ⟨⟨[], [(session, firstName)]⟩, rfl, length_fullNames, firstName_mem,
    by decide +kernel, names_fullMap, fun m names => ?_⟩
  have two : twoSessions.values session = [value "a" (by decide), value "b" (by decide)] := by
    decide +kernel
  have stopped : Policy.forwardOne twoSessions m (session, firstName) = none :=
    forwardOne_of_full two (names ▸ length_fullNames) (names ▸ firstName_mem)
  rw [Policy.applyForwarding?, List.foldlM_cons, stopped]
  rfl

end DynamicRpc.Relay
