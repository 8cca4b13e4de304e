import DynamicRpc.Proofs.Http.HeaderMap
import DynamicRpc.Proofs.Success
import DynamicRpc.Relay.Handler

/-!
What an outbound request is made of. Its headers come from two sources: the envelope, whose headers
are collected name by name, and the inbound request, whose headers are forwarded on top of them.
-/
namespace DynamicRpc.Relay

open Http Success

/-! Collected headers -/

/-- The values that the headers of an envelope give a name, in order. -/
def envelopeValues (headers : List EnvelopeHeader) (n : HeaderName) : List HeaderValue :=
  (headers.filter fun h => HeaderName.ofText? h.key = some n).flatMap fun h =>
    h.values.filterMap HeaderValue.ofText?

theorem overflowing_eq_ok {r : Option α} {a : α} : overflowing r = .ok a ↔ r = some a := by
  cases r <;> simp [overflowing]

theorem refusing_eq_ok {r : Except RelayError α} {a : α} : refusing r = .ok a ↔ r = .ok a := by
  cases r <;> simp [refusing]

/-- Adds the values of one header, as the collection of a whole envelope does. -/
def collectValues (key : String) (n : HeaderName) (m : HeaderMap) (values : List String) :
    Except Stop HeaderMap :=
  values.foldlM (fun m v =>
    match HeaderValue.ofText? v with
    | none => .error (.refused (.headerValue key))
    | some v => overflowing (m.append? n v)) m

theorem values_collectValues {key : String} {n : HeaderName} {m m' : HeaderMap}
    {values : List String} (h : collectValues key n m values = .ok m') (x : HeaderName) :
    m'.values x = m.values x ++ if n = x then values.filterMap HeaderValue.ofText? else [] := by
  induction values generalizing m with
  | nil =>
    cases h
    simp
  | cons v rest ih =>
    obtain ⟨m₁, h₁, h₂⟩ := foldlM_cons_eq_ok.1 h
    cases hv : HeaderValue.ofText? v with
    | none => simp [hv] at h₁
    | some w =>
      simp only [hv, overflowing_eq_ok] at h₁
      rw [ih h₂, HeaderMap.values_append h₁]
      by_cases hx : n = x <;> simp [hx, hv]

/-- The headers of an envelope, collected on top of others. -/
theorem values_collect_from {headers : List EnvelopeHeader} {m m' : HeaderMap}
    (h : headers.foldlM (fun m h =>
      match HeaderName.ofText? h.key with
      | none => .error (.refused (.headerName h.key))
      | some n => collectValues h.key n m h.values) m = (.ok m' : Except Stop HeaderMap))
    (x : HeaderName) : m'.values x = m.values x ++ envelopeValues headers x := by
  induction headers generalizing m with
  | nil =>
    cases h
    simp [envelopeValues]
  | cons e rest ih =>
    obtain ⟨m₁, h₁, h₂⟩ := foldlM_cons_eq_ok.1 h
    cases hn : HeaderName.ofText? e.key with
    | none => simp [hn] at h₁
    | some n =>
      simp only [hn] at h₁
      rw [ih h₂, values_collectValues h₁]
      by_cases hx : n = x <;> simp [envelopeValues, hn, hx]

/-- A collected map holds exactly the values of the envelope. -/
theorem values_collect {headers : List EnvelopeHeader} {m : HeaderMap}
    (h : prepare.collect headers = .ok m) (x : HeaderName) :
    m.values x = envelopeValues headers x := by
  simpa using values_collect_from h x

/-! Forwarded headers -/

/-- Whether an entry brings inbound values to a name. -/
def feeds (inbound : HeaderMap) (n : HeaderName) (entry : HeaderName × HeaderName) : Bool :=
  entry.2 = n && !(inbound.values entry.1).isEmpty

/-- What forwarding puts under a name: the values of the last entry that brings any. -/
def forwarded? (inbound : HeaderMap) (n : HeaderName) (entries : List (HeaderName × HeaderName)) :
    Option (List HeaderValue) :=
  ((entries.filter (feeds inbound n)).getLast?).map fun e => inbound.values e.1

theorem forwarded?_eq_some_of_mem {inbound : HeaderMap} {n : HeaderName}
    {entries : List (HeaderName × HeaderName)} {e : HeaderName × HeaderName} (he : e ∈ entries)
    (h : feeds inbound n e = true) : ∃ values, forwarded? inbound n entries = some values := by
  have some_last : (entries.filter (feeds inbound n)).getLast?.isSome := by
    rw [List.getLast?_isSome]
    exact List.ne_nil_of_mem (List.mem_filter.2 ⟨he, h⟩)
  obtain ⟨last, hlast⟩ := Option.isSome_iff_exists.1 some_last
  exact ⟨inbound.values last.1, by simp [forwarded?, hlast]⟩

theorem forwarded?_cons (inbound : HeaderMap) (n : HeaderName) (e : HeaderName × HeaderName)
    (rest : List (HeaderName × HeaderName)) :
    forwarded? inbound n (e :: rest) =
      (forwarded? inbound n rest).or
        (if feeds inbound n e then some (inbound.values e.1) else none) := by
  by_cases he : feeds inbound n e
  · rw [forwarded?, List.filter_cons_of_pos he, List.getLast?_cons]
    cases h : (rest.filter (feeds inbound n)).getLast? <;> simp [forwarded?, h, he]
  · simp [forwarded?, he]

theorem filter_map_pair_same (n : HeaderName) (values : List HeaderValue) :
    ((values.map fun v => (n, v)).filter (·.1 = n)).map (·.2) = values := by
  simp [List.filter_map, Function.comp_def]

theorem filter_map_pair_other {n x : HeaderName} (h : n ≠ x) (values : List HeaderValue) :
    ((values.map fun v => (n, v)).filter (·.1 = x)).map (·.2) = [] := by
  simp [List.filter_map, Function.comp_def, h]

/-- One entry replaces all values of its target, or nothing if its source is absent. -/
theorem values_forwardOne {inbound m m' : HeaderMap} {e : HeaderName × HeaderName}
    (h : Policy.forwardOne inbound m e = some m') (n : HeaderName) :
    m'.values n = if feeds inbound n e then inbound.values e.1 else m.values n := by
  cases hv : inbound.values e.1 with
  | nil =>
    simp only [Policy.forwardOne, hv, Option.some.injEq] at h
    simp [feeds, hv, h]
  | cons v vs =>
    simp only [Policy.forwardOne, hv] at h
    rw [HeaderMap.values_appendAll h]
    by_cases hn : e.2 = n
    · subst hn
      rw [HeaderMap.values_remove_same, filter_map_pair_same]
      simp [feeds, hv]
    · rw [HeaderMap.values_remove_other _ hn, filter_map_pair_other hn]
      simp [feeds, hn]

theorem values_forwardAll {inbound : HeaderMap} {entries : List (HeaderName × HeaderName)}
    {m m' : HeaderMap} (h : entries.foldlM (Policy.forwardOne inbound) m = some m')
    (n : HeaderName) : m'.values n = (forwarded? inbound n entries).getD (m.values n) := by
  induction entries generalizing m with
  | nil =>
    cases h
    simp [forwarded?]
  | cons e rest ih =>
    obtain ⟨m₁, h₁, h₂⟩ := Option.bind_eq_some_iff.1 h
    rw [ih h₂, values_forwardOne h₁, forwarded?_cons]
    cases forwarded? inbound n rest <;> by_cases he : feeds inbound n e <;> simp [he]

/-- Sources are read from the inbound headers only, so entries that feed each other do not chain. -/
theorem values_applyForwarding {p : Policy} {inbound m m' : HeaderMap}
    (h : p.applyForwarding? inbound m = some m') (n : HeaderName) :
    m'.values n = (forwarded? inbound n p.forward).getD (m.values n) :=
  values_forwardAll h n

end DynamicRpc.Relay
