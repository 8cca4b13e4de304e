import DynamicRpc.Http.Header
import Mathlib.Data.List.Dedup
import Mathlib.Data.List.Find
import Mathlib.Data.List.Induction
import Mathlib.Data.List.Perm.Subperm

/-!
Collections of headers through the values of each name. Every operation is described by what it
does to the values under one name, so that nothing else has to look at the rows. Whether a
collection takes a further value depends on its table. It is only known to do so with few names, and
not to do so with as many as the largest table has room for, so what fills it are the names that it
is made from.
-/
namespace DynamicRpc.Http

/-! Tables that cannot grow -/

/-- Half the largest size is the next smaller one. -/
theorem size_eq_maxSlots : ∀ size ∈ tableSizes, ¬ 2 * size ≤ maxSlots → size = maxSlots := by decide

theorem Table.grow_eq_none {t : Table} {watch : Watch} :
    t.grow watch = none ↔ t.slots.size = maxSlots := by
  unfold grow
  split
  next few =>
    rw [eq_false_intro (Option.some_ne_none _), false_iff]
    intro largest
    exact absurd (largest ▸ few) (by decide)
  next many => exact ⟨fun _ => size_eq_maxSlots _ t.sized many, fun _ => rfl⟩

/-- Only the largest table makes no room: on alarm if a fifth of it is in use, and otherwise if it
is full. -/
theorem Table.reserve_eq_none {t : Table} {count : Nat} : t.reserve count = none ↔
    t.slots.size = maxSlots ∧
      if t.watch = .alarmed then maxSlots ≤ 5 * count else count = t.capacity := by
  unfold reserve
  split
  next free => simp [free, maxSlots]
  next used =>
    split
    next alarmed =>
      split <;> rename_i load
      · rw [grow_eq_none]
        exact ⟨fun h => ⟨h, h ▸ load⟩, And.left⟩
      · simp only [reduceCtorEq, false_iff]
        exact fun h => load (h.1 ▸ h.2)
    next =>
      split <;> rename_i full
      · rw [grow_eq_none]
        exact ⟨fun h => ⟨h, full⟩, And.left⟩
      · simp only [reduceCtorEq, false_iff]
        exact fun h => full h.2

namespace HeaderMap

variable {m m' : HeaderMap} {n x : HeaderName} {v : HeaderValue}

/-- The values that stand under a name in a list of rows. -/
def rowValues (x : HeaderName) (rows : List (HeaderName × List HeaderValue)) : List HeaderValue :=
  match rows.find? (·.1 = x) with
  | some row => row.2
  | none => []

@[simp] theorem rowValues_cons_same (row : HeaderName × List HeaderValue)
    (rows : List (HeaderName × List HeaderValue)) : rowValues row.1 (row :: rows) = row.2 := by
  simp [rowValues]

theorem rowValues_cons_other (row : HeaderName × List HeaderValue)
    (rows : List (HeaderName × List HeaderValue)) (h : row.1 ≠ x) :
    rowValues x (row :: rows) = rowValues x rows := by
  simp [rowValues, h]

/-- The order of rows with distinct names does not matter. -/
theorem rowValues_perm {rows others : List (HeaderName × List HeaderValue)}
    (perm : rows.Perm others) (distinct : (rows.map (·.1)).Nodup) (x : HeaderName) :
    rowValues x rows = rowValues x others := by
  rw [rowValues, rowValues, List.find?_eq_find?_of_perm perm]
  rintro a ⟨ha, named⟩ b ⟨hb, named'⟩
  refine List.inj_on_of_nodup_map distinct ha hb ?_
  exact (of_decide_eq_true named).trans (of_decide_eq_true named').symm

theorem rowValues_pushRow (n x : HeaderName) (v : HeaderValue)
    (rows : List (HeaderName × List HeaderValue)) :
    rowValues x (pushRow n v rows) = rowValues x rows ++ if n = x then [v] else [] := by
  induction rows with
  | nil => by_cases h : n = x <;> simp [pushRow, rowValues, h]
  | cons row rest ih =>
    by_cases hr : row.1 = n
    · subst hr
      by_cases hx : row.1 = x <;> simp [pushRow, rowValues, hx]
    · simp only [pushRow, hr, if_false]
      by_cases hx : row.1 = x
      · subst hx
        simp [Ne.symm hr]
      · rw [rowValues_cons_other _ _ hx, rowValues_cons_other _ _ hx, ih]

@[simp] theorem values_empty (x : HeaderName) : empty.values x = [] := rfl

theorem rows_append (h : m.append? n v = some m') : m'.rows = pushRow n v m.rows := by
  unfold append? at h
  split at h
  split at h
  next => cases h
  next =>
    dsimp only at h
    split at h
    next =>
      cases h
      rfl
    next new =>
      cases h
      rw [rows, Array.toList_push]
      exact (pushRow_of_new n v (by simpa using new)).symm

/-- A value goes behind those of its name; no other name is touched. -/
theorem values_append (h : m.append? n v = some m') (x : HeaderName) :
    m'.values x = m.values x ++ if n = x then [v] else [] := by
  rw [values, rows_append h]
  exact rowValues_pushRow n x v m.rows

/-- The rows of the other names stay. -/
theorem rows_remove_perm (m : HeaderMap) (n : HeaderName) :
    (m.remove n).rows.Perm (m.rows.filter (·.1 ≠ n)) := by
  unfold remove
  split
  · exact takeOut_perm n m.nodup_rows
  next absent =>
    rw [contains_eq_any] at absent
    rw [List.filter_eq_self.2]
    intro row mem
    have other := mt List.any_eq_true.2 absent
    push Not at other
    simpa using other row mem

@[simp] theorem values_remove_same (m : HeaderMap) (n : HeaderName) :
    (m.remove n).values n = [] := by
  have none_left : (m.remove n).rows.find? (·.1 = n) = none := by
    rw [List.find?_eq_none]
    intro row mem
    simpa using (List.mem_filter.1 ((rows_remove_perm m n).subset mem)).2
  simp [values, none_left]

theorem values_remove_other (m : HeaderMap) (h : n ≠ x) : (m.remove n).values x = m.values x := by
  have same : (m.rows.filter (·.1 ≠ n)).find? (·.1 = x) = m.rows.find? (·.1 = x) := by
    rw [List.find?_filter]
    congr 1
    funext row
    by_cases hx : row.1 = x <;> simp [hx, Ne.symm h]
  have left : (m.remove n).values x = rowValues x (m.rows.filter (·.1 ≠ n)) :=
    rowValues_perm (rows_remove_perm m n) (m.remove n).nodup x
  rw [left, rowValues, same]
  rfl

/-- Added pairs stand behind what was there, in their order. -/
theorem values_appendAll {pairs : List (HeaderName × HeaderValue)}
    (h : m.appendAll? pairs = some m') (x : HeaderName) :
    m'.values x = m.values x ++ (pairs.filter (·.1 = x)).map (·.2) := by
  induction pairs generalizing m with
  | nil =>
    cases h
    simp
  | cons p rest ih =>
    obtain ⟨m₁, h₁, h₂⟩ := Option.bind_eq_some_iff.1 h
    rw [ih h₂, values_append h₁, List.append_assoc]
    by_cases hp : p.1 = x <;> simp [hp]

/-! Names -/

def names (m : HeaderMap) : List HeaderName := m.rows.map (·.1)

@[simp] theorem names_empty : empty.names = [] := rfl

/-- A collection with its names among others has no more names than these. -/
theorem length_names_le {names : List HeaderName} (among : m.names ⊆ names) :
    m.names.length ≤ names.dedup.length :=
  (m.nodup.subperm fun _ h => List.mem_dedup.2 (among h)).length_le

/-- Names among others are no more than these, each counted once. -/
theorem length_dedup_le {names others : List HeaderName} (among : names ⊆ others) :
    names.dedup.length ≤ others.dedup.length :=
  ((List.nodup_dedup names).subperm fun _ h =>
    List.mem_dedup.2 (among (List.mem_dedup.1 h))).length_le

theorem append?_eq_none_iff : m.append? n v = none ↔ m.table.reserve m.rows.length = none := by
  unfold append?
  split
  split
  next refused => exact iff_of_true rfl refused
  next table reserved =>
    refine iff_of_false ?_ (reserved ▸ Option.some_ne_none table)
    dsimp only
    split <;> exact Option.some_ne_none _

/-- As many names as the largest table has room for. -/
def maxNames : Nat := 24576

/-- The fewest names that are a fifth of the largest table. -/
def guardedNames : Nat := 6554

theorem length_names_le_maxNames (m : HeaderMap) : m.names.length ≤ maxNames := by
  have most : ∀ size ∈ tableSizes, size - size / 4 ≤ maxNames := by decide
  rw [names, List.length_map]
  exact Nat.le_trans m.room (most _ m.table.sized)

/-- A collection of as many names as can be takes no further value, whatever its name. -/
theorem append?_eq_none (full : maxNames ≤ m.names.length) : m.append? n v = none := by
  have largest : ∀ size ∈ tableSizes, maxNames ≤ size - size / 4 → size = maxSlots := by decide
  have most := m.length_names_le_maxNames
  rw [names, List.length_map] at full most
  have size : m.table.slots.size = maxSlots :=
    largest _ m.table.sized (Nat.le_trans full m.room)
  have capacity : m.table.capacity = maxNames := by
    rw [Table.capacity, size]
    rfl
  rw [append?_eq_none_iff, Table.reserve_eq_none, Nat.le_antisymm most full, capacity]
  exact ⟨size, by split <;> decide⟩

/-- A value is refused only by a collection of many names. -/
theorem guardedNames_le (h : m.append? n v = none) : guardedNames ≤ m.names.length := by
  rw [append?_eq_none_iff, Table.reserve_eq_none] at h
  obtain ⟨size, many⟩ := h
  rw [names, List.length_map]
  unfold guardedNames
  split at many
  · unfold maxSlots at many
    omega
  · rw [many, Table.capacity, size]
    decide

theorem names_pushRow (n : HeaderName) (v : HeaderValue)
    (rows : List (HeaderName × List HeaderValue)) : (pushRow n v rows).map (·.1) =
      if n ∈ rows.map (·.1) then rows.map (·.1) else rows.map (·.1) ++ [n] := by
  induction rows with
  | nil => simp [pushRow]
  | cons row rest ih =>
    by_cases hr : row.1 = n
    · simp [pushRow, hr]
    · simp only [pushRow, hr, if_false, List.map_cons, ih, List.mem_cons, Ne.symm hr, false_or]
      split <;> rfl

/-- A name that is new goes behind the others. -/
theorem names_append_eq (h : m.append? n v = some m') :
    m'.names = if n ∈ m.names then m.names else m.names ++ [n] := by
  rw [names, rows_append h]
  exact names_pushRow n v m.rows

theorem mem_names_append (h : m.append? n v = some m') : x ∈ m'.names ↔ x = n ∨ x ∈ m.names := by
  rw [names_append_eq h]
  split
  next old =>
    constructor
    · exact .inr
    · rintro (rfl | mem)
      · exact old
      · exact mem
  next => rw [List.mem_append, List.mem_singleton, or_comm]

/-- All names that pairs are added under are there afterwards, and no other. -/
theorem mem_names_appendAll {pairs : List (HeaderName × HeaderValue)}
    (h : m.appendAll? pairs = some m') : x ∈ m'.names ↔ x ∈ m.names ∨ x ∈ pairs.map (·.1) := by
  induction pairs generalizing m with
  | nil =>
    cases h
    simp
  | cons p rest ih =>
    obtain ⟨m₁, first, h⟩ := Option.bind_eq_some_iff.1 h
    rw [ih h, mem_names_append first, List.map_cons, List.mem_cons, or_assoc, or_left_comm]

theorem names_append (h : m.append? n v = some m') : m'.names ⊆ n :: m.names :=
  fun _ mem => List.mem_cons.2 ((mem_names_append h).1 mem)

theorem names_appendAll {pairs : List (HeaderName × HeaderValue)} {names : List HeaderName}
    (h : m.appendAll? pairs = some m') (among : m.names ⊆ names)
    (added : ∀ p ∈ pairs, p.1 ∈ names) : m'.names ⊆ names := by
  intro x mem
  rcases (mem_names_appendAll h).1 mem with old | new
  · exact among old
  · obtain ⟨p, hp, rfl⟩ := List.mem_map.1 new
    exact added p hp

theorem names_remove_perm (m : HeaderMap) (n : HeaderName) :
    (m.remove n).names.Perm (m.names.filter (· ≠ n)) := by
  rw [names, names, List.filter_map]
  exact (rows_remove_perm m n).map _

theorem names_remove (m : HeaderMap) (n : HeaderName) : (m.remove n).names ⊆ m.names :=
  List.Subset.trans (names_remove_perm m n).subset (List.filter_subset_self _)

theorem not_mem_names_remove (m : HeaderMap) (n : HeaderName) : n ∉ (m.remove n).names := by
  rw [(names_remove_perm m n).mem_iff]
  simp

/-- A name is removed once. -/
theorem length_remove_of_mem (h : n ∈ m.names) :
    (m.remove n).names.length + 1 = m.names.length := by
  have distinct : m.names.Nodup := m.nodup
  have erased : m.names.filter (· ≠ n) = m.names.erase n := by
    rw [distinct.erase_eq_filter]
    exact List.filter_congr fun x _ => Bool.eq_iff_iff.2 (by simp)
  rw [(names_remove_perm m n).length_eq, erased, List.length_erase_of_mem h]
  exact Nat.succ_pred_eq_of_pos (List.length_pos_of_mem h)

/-- Adding pairs to a collection ends with the names of both, or over too many of these. -/
theorem appendAll_names {names : List HeaderName} (pairs : List (HeaderName × HeaderValue))
    (among : m.names ⊆ names) (added : ∀ p ∈ pairs, p.1 ∈ names) :
    (∃ m', m.appendAll? pairs = some m' ∧ m'.names ⊆ names) ∨
      guardedNames ≤ names.dedup.length := by
  induction pairs generalizing m with
  | nil => exact .inl ⟨m, rfl, among⟩
  | cons p rest ih =>
    rw [List.forall_mem_cons] at added
    cases h : m.append? p.1 p.2 with
    | none => exact .inr (Nat.le_trans (guardedNames_le h) (length_names_le among))
    | some m₁ =>
      have among₁ : m₁.names ⊆ names :=
        List.Subset.trans (names_append h) (List.cons_subset.2 ⟨added.1, among⟩)
      have first : m.appendAll? (p :: rest) = m₁.appendAll? rest := by
        rw [appendAll?, List.foldlM_cons, h]
        rfl
      rw [first]
      exact ih among₁ added.2

/-- A name with values is one of the collection. -/
theorem mem_names_of_values (h : m.values n ≠ []) : n ∈ m.names := by
  unfold values at h
  split at h
  next row found =>
    have same : row.1 = n := by simpa using List.find?_some found
    exact List.mem_map.2 ⟨row, List.mem_of_find?_eq_some found, same⟩
  next => exact absurd rfl h

/-! Collections row by row -/

/-- All rows of a name together have the values of the name. -/
theorem flatMap_filter_rows (m : HeaderMap) (n : HeaderName) :
    (m.rows.filter (·.1 = n)).flatMap (·.2) = m.values n := by
  have nodup := m.nodup_rows
  change _ = rowValues n m.rows
  generalize m.rows = rows at nodup
  induction rows with
  | nil => rfl
  | cons row rest ih =>
    rw [List.map_cons, List.nodup_cons] at nodup
    by_cases hn : row.1 = n
    · subst hn
      have none : rest.filter (·.1 = row.1) = [] := by
        rw [List.filter_eq_nil_iff]
        intro other mem same
        exact nodup.1 (List.mem_map.2 ⟨other, mem, by simpa using same⟩)
      rw [List.filter_cons_of_pos (by simp), none, rowValues_cons_same]
      exact List.append_nil _
    · rw [List.filter_cons_of_neg (by simpa using hn), ih nodup.2, rowValues_cons_other _ _ hn]

/-- Names stand in the order of their first appearance. -/
theorem names_appendAll_empty {pairs : List (HeaderName × HeaderValue)}
    (h : empty.appendAll? pairs = some m) : m.names = (pairs.map (·.1)).eraseDups := by
  induction pairs using List.reverseRecOn generalizing m with
  | nil =>
    cases h
    rfl
  | append_singleton pairs p ih =>
    rw [appendAll?, List.foldlM_append] at h
    obtain ⟨m₁, first, last⟩ := Option.bind_eq_some_iff.1 h
    have last : m₁.append? p.1 p.2 = some m := by simpa using last
    rw [names_append_eq last, ih first, List.map_append, List.eraseDups_append]
    simp only [List.mem_eraseDups]
    split
    next old => simp [List.removeAll, old]
    next new => simp [List.removeAll, new, List.eraseDups_cons]

end DynamicRpc.Http.HeaderMap
