import DynamicRpc.Http.HeaderTable

/-!
Collections of headers. A collection keeps its names in the order of their first appearance, until
one is removed and the last takes its place, and the values of each name in the order they were
added.
-/
namespace DynamicRpc.Http

structure HeaderMap where
  entries : Array (HeaderName × List HeaderValue)
  table : Table
  nodup : (entries.toList.map (·.1)).Nodup
  room : entries.size ≤ table.capacity
  deriving DecidableEq, Repr

namespace HeaderMap

def empty : HeaderMap := ⟨#[], .empty, by simp, Nat.zero_le _⟩

/-- The names with their values, in their order. -/
def rows (m : HeaderMap) : List (HeaderName × List HeaderValue) := m.entries.toList

/-- The values of a name, none if it is absent. -/
def values (m : HeaderMap) (n : HeaderName) : List HeaderValue :=
  match m.rows.find? (·.1 = n) with
  | some row => row.2
  | none => []

def contains (m : HeaderMap) (n : HeaderName) : Bool := m.entries.any (·.1 = n)

theorem nodup_rows (m : HeaderMap) : (m.rows.map (·.1)).Nodup := m.nodup

theorem contains_eq_any (m : HeaderMap) (n : HeaderName) :
    m.contains n = m.rows.any (·.1 = n) := Array.any_toList.symm

def first? (m : HeaderMap) (n : HeaderName) : Option HeaderValue := (m.values n).head?

/-- Adds a value to the row of its name, or a row for it behind the others. -/
def pushRow (n : HeaderName) (v : HeaderValue) :
    List (HeaderName × List HeaderValue) → List (HeaderName × List HeaderValue)
  | [] => [(n, [v])]
  | row :: rest => if row.1 = n then (row.1, row.2 ++ [v]) :: rest else row :: pushRow n v rest

/-- Takes the row of a name out. The last row moves to its place. -/
def takeOut (n : HeaderName) :
    List (HeaderName × List HeaderValue) → List (HeaderName × List HeaderValue)
  | [] => []
  | row :: rest =>
    if row.1 = n then rest.getLast?.toList ++ rest.dropLast else row :: takeOut n rest

theorem mem_names_pushRow {n : HeaderName} {v : HeaderValue} {x : HeaderName}
    {rows : List (HeaderName × List HeaderValue)} (h : x ∈ (pushRow n v rows).map (·.1)) :
    x = n ∨ x ∈ rows.map (·.1) := by
  induction rows with
  | nil => simpa [pushRow] using h
  | cons row rest ih =>
    by_cases hr : row.1 = n <;> simp [pushRow, hr] at h ⊢ <;> grind

theorem nodup_pushRow (n : HeaderName) (v : HeaderValue)
    {rows : List (HeaderName × List HeaderValue)} (h : (rows.map (·.1)).Nodup) :
    ((pushRow n v rows).map (·.1)).Nodup := by
  induction rows with
  | nil => simp [pushRow]
  | cons row rest ih =>
    simp only [List.map_cons, List.nodup_cons] at h
    by_cases hr : row.1 = n
    · simp only [pushRow, hr, if_true, List.map_cons, List.nodup_cons]
      exact hr ▸ h
    · simp only [pushRow, hr, if_false, List.map_cons, List.nodup_cons]
      refine ⟨fun hm => ?_, ih h.2⟩
      rcases mem_names_pushRow hm with he | hm
      · exact hr he
      · exact h.1 hm

theorem length_pushRow_le (n : HeaderName) (v : HeaderValue)
    (rows : List (HeaderName × List HeaderValue)) :
    (pushRow n v rows).length ≤ rows.length + 1 := by
  induction rows with
  | nil => exact Nat.le_refl 1
  | cons row rest ih =>
    rw [pushRow]
    split
    · exact Nat.le_succ _
    · exact Nat.succ_le_succ ih

/-- A name that is new gets a row behind the others. -/
theorem pushRow_of_new (n : HeaderName) (v : HeaderValue)
    {rows : List (HeaderName × List HeaderValue)} (new : ¬ rows.any (·.1 = n)) :
    pushRow n v rows = rows ++ [(n, [v])] := by
  induction rows with
  | nil => rfl
  | cons row rest ih =>
    rw [List.any_cons, Bool.or_eq_true, not_or, decide_eq_true_eq] at new
    rw [pushRow, if_neg new.1, ih new.2, List.cons_append]

/-- The rows of the other names stay. -/
theorem takeOut_perm (n : HeaderName) {rows : List (HeaderName × List HeaderValue)}
    (h : (rows.map (·.1)).Nodup) : (takeOut n rows).Perm (rows.filter (·.1 ≠ n)) := by
  induction rows with
  | nil => exact .nil
  | cons row rest ih =>
    rw [List.map_cons, List.nodup_cons] at h
    by_cases hr : row.1 = n
    · have others : rest.filter (·.1 ≠ n) = rest := by
        rw [List.filter_eq_self]
        intro other mem
        simpa using fun same : other.1 = n => h.1 (List.mem_map.2 ⟨other, mem, same.trans hr.symm⟩)
      rw [takeOut, if_pos hr, List.filter_cons_of_neg (by simpa using hr), others]
      cases last : rest.getLast? with
      | none => simp [List.getLast?_eq_none_iff.1 last]
      | some l =>
        obtain ⟨front, rfl⟩ := List.getLast?_eq_some_iff.1 last
        rw [List.dropLast_concat]
        exact List.perm_append_comm
    · rw [takeOut, if_neg hr, List.filter_cons_of_pos (by simpa using hr)]
      exact (ih h.2).cons row

theorem nodup_takeOut (n : HeaderName) {rows : List (HeaderName × List HeaderValue)}
    (h : (rows.map (·.1)).Nodup) : ((takeOut n rows).map (·.1)).Nodup :=
  ((takeOut_perm n h).map _).nodup_iff.2 (h.sublist ((List.filter_sublist).map _))

theorem length_takeOut_le (n : HeaderName) {rows : List (HeaderName × List HeaderValue)}
    (h : (rows.map (·.1)).Nodup) : (takeOut n rows).length ≤ rows.length :=
  (takeOut_perm n h).length_eq ▸ List.length_filter_le _ rows

/-- Adds a value after the others of its name, if the table has or makes room for a further name. -/
def append? (m : HeaderMap) (n : HeaderName) (v : HeaderValue) : Option HeaderMap :=
  -- The parts are taken out of the collection first, so that they can be changed in place.
  match m with
  | ⟨entries, table, nodup, room⟩ =>
    match reserved : table.reserve entries.size with
    | none => none
    | some table =>
      have distinct := nodup_pushRow n v nodup
      have fits : (pushRow n v entries.toList).length ≤ table.capacity :=
        Nat.le_trans (length_pushRow_le n v entries.toList)
          (Table.lt_capacity_of_reserve room reserved)
      if old : entries.any (·.1 = n) then
        some ⟨(pushRow n v entries.toList).toArray, table, distinct, fits⟩
      else
        have pushed : pushRow n v entries.toList = (entries.push (n, [v])).toList := by
          rw [Array.toList_push, pushRow_of_new n v (by simpa using old)]
        some ⟨entries.push (n, [v]), table.insert n, pushed ▸ distinct, by
          rw [Table.capacity_insert, ← Array.length_toList, ← pushed]
          exact fits⟩

def remove (m : HeaderMap) (n : HeaderName) : HeaderMap :=
  if m.contains n then
    ⟨(takeOut n m.rows).toArray, m.table.remove n, nodup_takeOut n m.nodup_rows, by
      rw [Table.capacity_remove]
      exact Nat.le_trans (length_takeOut_le n m.nodup_rows) m.room⟩
  else m

def appendAll? (m : HeaderMap) (pairs : List (HeaderName × HeaderValue)) : Option HeaderMap :=
  pairs.foldlM (fun m p => m.append? p.1 p.2) m

end HeaderMap

end DynamicRpc.Http
