import Mathlib.Data.List.Forall2

/-!
Computations that succeed. A chain succeeds when each of its steps does, and a walk along a list
when each of its elements does; the results of the steps are what later proofs go on with.
-/
namespace DynamicRpc.Success

variable {ε α β σ : Type}

theorem bind_eq_ok {x : Except ε α} {f : α → Except ε β} {b : β} :
    (x >>= f) = .ok b ↔ ∃ a, x = .ok a ∧ f a = .ok b := by
  cases x with
  | error e => simp [bind, Except.bind]
  | ok a => simp [bind, Except.bind]

theorem pure_eq_ok {a b : α} : (pure a : Except ε α) = .ok b ↔ a = b := by
  simp [pure, Except.pure]

/-- What a computation gives can be read off as an option, which is easier to evaluate. -/
theorem eq_ok_of_toOption {x : Except ε α} {a : α} (h : x.toOption = some a) : x = .ok a := by
  cases x with
  | error e => cases h
  | ok b =>
    cases h
    rfl

theorem mapM_eq_ok {f : α → Except ε β} {xs : List α} {ys : List β} :
    xs.mapM f = .ok ys ↔ List.Forall₂ (fun x y => f x = .ok y) xs ys := by
  induction xs generalizing ys with
  | nil =>
    rw [List.mapM_nil, pure_eq_ok, List.forall₂_nil_left_iff]
    exact eq_comm
  | cons x rest ih =>
    simp only [List.mapM_cons, bind_eq_ok, pure_eq_ok, ih, List.forall₂_cons_left_iff]
    constructor
    · rintro ⟨y, hy, ys', hys, rfl⟩
      exact ⟨y, ys', hy, hys, rfl⟩
    · rintro ⟨y, ys', hy, hys, rfl⟩
      exact ⟨y, hy, ys', hys, rfl⟩

theorem forall₂_of_mem {R S : α → β → Prop} {xs : List α} {ys : List β}
    (each : ∀ x ∈ xs, ∀ y, R x y → S x y) (h : List.Forall₂ R xs ys) : List.Forall₂ S xs ys := by
  induction h with
  | nil => exact .nil
  | cons head _ ih =>
    rw [List.forall_mem_cons] at each
    exact .cons (each.1 _ head) (ih each.2)

/-- A walk gives the same as another if each of its steps does. -/
theorem mapM_ok_of_mem {f g : α → Except ε β} {xs : List α} {ys : List β}
    (each : ∀ x ∈ xs, ∀ y, f x = .ok y → g x = .ok y) (h : xs.mapM f = .ok ys) :
    xs.mapM g = .ok ys :=
  mapM_eq_ok.2 (forall₂_of_mem each (mapM_eq_ok.1 h))

/-- A walk along a list succeeds when each step can. -/
theorem exists_mapM_eq_ok {f : α → Except ε β} {xs : List α} (h : ∀ x ∈ xs, ∃ y, f x = .ok y) :
    ∃ ys, xs.mapM f = .ok ys := by
  induction xs with
  | nil => exact ⟨[], rfl⟩
  | cons x rest ih =>
    rw [List.forall_mem_cons] at h
    obtain ⟨y, hy⟩ := h.1
    obtain ⟨ys, hys⟩ := ih h.2
    exact ⟨y :: ys, mapM_eq_ok.2 (.cons hy (mapM_eq_ok.1 hys))⟩

/-- A walk along a list fails with the first step that does. -/
theorem mapM_eq_error {f : α → Except ε β} {earlier later : List α} {x : α} {e : ε}
    (before : ∀ y ∈ earlier, ∃ b, f y = .ok b) (fails : f x = .error e) :
    (earlier ++ x :: later).mapM f = .error e := by
  obtain ⟨bs, walked⟩ := exists_mapM_eq_ok before
  rw [List.mapM_append, walked, List.mapM_cons, fails]
  rfl

theorem exists_of_forall₂_left {R : α → β → Prop} {xs : List α} {ys : List β}
    (h : List.Forall₂ R xs ys) {x : α} (hx : x ∈ xs) : ∃ y ∈ ys, R x y := by
  induction h with
  | nil => simp at hx
  | cons head _ ih =>
    rcases List.mem_cons.1 hx with rfl | hx
    · exact ⟨_, List.mem_cons_self, head⟩
    · obtain ⟨y, hy, hxy⟩ := ih hx
      exact ⟨y, List.mem_cons_of_mem _ hy, hxy⟩

theorem exists_of_forall₂_right {R : α → β → Prop} {xs : List α} {ys : List β}
    (h : List.Forall₂ R xs ys) {y : β} (hy : y ∈ ys) : ∃ x ∈ xs, R x y :=
  exists_of_forall₂_left h.flip hy

/-- Two relations that agree relate a list to the same list. -/
theorem eq_of_forall₂ {R S : α → β → Prop} (agree : ∀ x y z, R x y → S x z → y = z) {xs : List α}
    {ys zs : List β} (h : List.Forall₂ R xs ys) (h' : List.Forall₂ S xs zs) : ys = zs := by
  induction h generalizing zs with
  | nil =>
    cases h'
    rfl
  | cons head _ ih =>
    cases h' with
    | cons head' rest' => rw [agree _ _ _ head head', ih rest']

theorem foldlM_cons_eq_ok {f : σ → α → Except ε σ} {x : α} {rest : List α} {s t : σ} :
    (x :: rest).foldlM f s = .ok t ↔ ∃ u, f s x = .ok u ∧ rest.foldlM f u = .ok t := by
  rw [List.foldlM_cons, bind_eq_ok]

end DynamicRpc.Success
