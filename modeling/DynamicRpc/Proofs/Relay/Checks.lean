import DynamicRpc.Proofs.Http.HeaderName
import DynamicRpc.Proofs.Relay.TrustBoundary

/-!
The checks of the relay. Each can be made on its own, from the configuration and the request; the
first that fails decides the response, and nothing goes out unless all of them pass. The one way to
get no response is to bring more names than a collection of headers can hold.
-/
namespace DynamicRpc.Relay

open Http Success

/-! What is checked -/

/-- The error of a step that failed. -/
def refusal? {ε α : Type} (wrap : ε → RelayError) : Except ε α → Option RelayError
  | .error e => some (wrap e)
  | .ok _ => none

def Inbound.text (q : Inbound) : Bytes := q.chunks.flatten

def Inbound.wire? (q : Inbound) : Option Bytes := (decodeText q.text).toOption

def Inbound.envelope? (q : Inbound) : Option RequestEnvelope :=
  q.wire?.bind fun b => (RequestEnvelope.decode b).toOption

/-- The name is a disallowed one, in whatever case. -/
def Config.disallows (c : Config) (h : EnvelopeHeader) : Bool :=
  c.disallowedHeaders.any (Text.equalIgnoringCase h.key)

def EnvelopeHeader.invalid? (h : EnvelopeHeader) : Option RelayError :=
  if HeaderName.ofText? h.key = none then some (.headerName h.key)
  else if ∃ v ∈ h.values, HeaderValue.ofText? v = none then some (.headerValue h.key)
  else none

inductive Check where
  | method
  | contentType
  | body
  | base64
  | envelope
  | disallowed
  | header
  | target
  deriving DecidableEq, Repr

namespace Check

/-- The order in which checks decide. -/
def order : List Check :=
  [.method, .contentType, .body, .base64, .envelope, .disallowed, .header, .target]

/-- How a request fails a check. What is read from the body can only fail once it is there. -/
def failure? (c : Config) (q : Inbound) : Check → Option RelayError
  | method => if q.method = "POST" then none else some .methodNotAllowed
  | contentType => if isPlainText q.headers then none else some .unsupportedMediaType
  | body =>
    if c.maxBodyBytes < q.text.length then some (.tooLarge c.maxBodyBytes)
    else q.failure.map .incompleteBody
  | base64 => refusal? .base64 (decodeText q.text)
  | envelope => q.wire?.bind fun b => refusal? .envelope (RequestEnvelope.decode b)
  | disallowed => q.envelope?.bind fun e =>
    (e.headers.find? c.disallows).map fun h => .disallowedHeader h.key
  | header => q.envelope?.bind fun e => e.headers.findSome? (·.invalid?)
  | target => q.envelope?.bind fun e => refusal? id (readTarget e.target)

def status (c : Config) (q : Inbound) : Check → Nat
  | method => 405
  | contentType => 415
  | body => if c.maxBodyBytes < q.text.length then 413 else 400
  | _ => 400

end Check

/-- The first check that a request fails. -/
def firstFailure? (c : Config) (q : Inbound) : Option (Check × RelayError) :=
  Check.order.findSome? fun k => (k.failure? c q).map (k, ·)

/-- The name that a header of an envelope brings, if it has a value. -/
def EnvelopeHeader.name? (h : EnvelopeHeader) : Option HeaderName :=
  if h.values = [] then none else HeaderName.ofText? h.key

/-- The name that an entry brings, if its source is present. -/
def ForwardEntry.name? (inbound : HeaderMap) (f : ForwardEntry) : Option HeaderName :=
  if ∃ n, HeaderName.ofText? f.source = some n ∧ inbound.values n ≠ [] then
    HeaderName.ofText? f.target
  else none

/-- All names that an outbound request can have headers of. -/
def Config.outboundNames (c : Config) (inbound : HeaderMap) (headers : List EnvelopeHeader) :
    List HeaderName :=
  headers.filterMap (·.name?) ++ c.forwardHeaders.filterMap (·.name? inbound)

/-- An envelope and the forwarded headers bring so many names that a collection may take no more. -/
def Config.Crowds (c : Config) (q : Inbound) : Prop :=
  ∃ e, q.envelope? = some e ∧
    HeaderMap.guardedNames ≤ (c.outboundNames q.headers e.headers).dedup.length

variable {c : Config} {r : Relay} {q : Inbound} {u : Upstream}

/-! Configured names -/

/-- Two spellings of one header name differ in the case of letters only. -/
theorem equalIgnoringCase_of_ofText? {a b : String} {n : HeaderName}
    (ha : HeaderName.ofText? a = some n) (hb : HeaderName.ofText? b = some n) :
    Text.equalIgnoringCase a b = true := by
  simp [Text.equalIgnoringCase, ← text_of_ofText? ha, ← text_of_ofText? hb]

/-- A policy refuses the headers with a name that is disallowed. -/
theorem refuses_eq_disallows (h : ofConfig c = .ok r) : r.policy.refuses = c.disallows := by
  have names := (names_of_ofNames (policy_of_ofConfig h)).1
  funext header
  rw [Bool.eq_iff_iff, Config.disallows, List.any_eq_true]
  constructor
  · intro refused
    unfold Policy.refuses at refused
    split at refused
    next n hn =>
      obtain ⟨name, mem, spelled⟩ := exists_of_forall₂_right names (by simpa using refused)
      exact ⟨name, mem, equalIgnoringCase_of_ofText? hn spelled⟩
    next => cases refused
  · rintro ⟨name, mem, same⟩
    obtain ⟨n, hn, spelled⟩ := exists_of_forall₂_left names mem
    rw [Policy.refuses, ofText?_eq_of_equalIgnoringCase same, spelled]
    simpa using hn

/-! Reading the envelope -/

/-- The body is read up to the limit, whatever its chunks. -/
theorem readBody_eq {limit used : Nat} (failure : Option String) (chunks : List Bytes)
    (within : used ≤ limit) : readBody limit failure used chunks =
      if limit < used + chunks.flatten.length then .error (.tooLarge limit)
      else match failure with
        | some reason => .error (.incompleteBody reason)
        | none => .ok chunks.flatten := by
  induction chunks generalizing used with
  | nil =>
    rw [List.flatten_nil, List.length_nil, Nat.add_zero, if_neg (by omega)]
    cases failure <;> rfl
  | cons chunk rest ih =>
    rw [readBody, List.flatten_cons, List.length_append]
    split
    next above => rw [if_pos (by omega)]
    next =>
      rw [ih (by omega)]
      have sum : used + chunk.length + rest.flatten.length =
        used + (chunk.length + rest.flatten.length) := by omega
      rw [sum]
      split
      · rfl
      · cases failure <;> rfl

/-- The checks that come before the headers of the envelope are looked at. -/
def Check.reading : List Check := [.method, .contentType, .body, .base64, .envelope]

/-- Reading an envelope ends with the first failure of a check on the way, or with the envelope. -/
inductive Reading (c : Config) (q : Inbound) : Except RelayError RequestEnvelope → Prop where
  | failed (k : Check) (e : RelayError)
    (first : Check.reading.findSome? (fun k => (k.failure? c q).map (k, ·)) = some (k, e)) :
    Reading c q (.error e)
  | read (e : RequestEnvelope) (passed : ∀ k ∈ Check.reading, k.failure? c q = none)
    (there : q.envelope? = some e) : Reading c q (.ok e)

/-- What is read once the method and the type of a request pass. -/
theorem readEnvelope_of_accepted (limit : r.maxBodyBytes = c.maxBodyBytes)
    (method : q.method = "POST") (type : isPlainText q.headers = true) :
    r.readEnvelope q =
      if c.maxBodyBytes < q.text.length then .error (.tooLarge c.maxBodyBytes)
      else match q.failure with
        | some reason => .error (.incompleteBody reason)
        | none =>
          match decodeText q.text with
          | .error e => .error (.base64 e)
          | .ok wire =>
            match RequestEnvelope.decode wire with
            | .error e => .error (.envelope e)
            | .ok e => .ok e := by
  have body : readBody c.maxBodyBytes q.failure 0 q.chunks =
      if c.maxBodyBytes < q.text.length then .error (.tooLarge c.maxBodyBytes)
      else match q.failure with
        | some reason => .error (.incompleteBody reason)
        | none => .ok q.text := by
    rw [readBody_eq q.failure q.chunks (Nat.zero_le _), Nat.zero_add]
    rfl
  simp only [readEnvelope, method, type, limit, body, ne_eq, not_true_eq_false, Bool.not_true,
    Bool.false_eq_true, if_false]
  by_cases above : c.maxBodyBytes < q.text.length
  · rw [if_pos above, if_pos above]
    rfl
  · rw [if_neg above, if_neg above]
    cases q.failure with
    | some reason => rfl
    | none =>
      simp only [bind, Except.bind]
      cases decodeText q.text with
      | error e => rfl
      | ok wire =>
        dsimp only
        cases RequestEnvelope.decode wire <;> rfl

theorem readEnvelope_reading (limit : r.maxBodyBytes = c.maxBodyBytes) :
    Reading c q (r.readEnvelope q) := by
  by_cases method : q.method = "POST"
  · by_cases type : isPlainText q.headers = true
    · rw [readEnvelope_of_accepted limit method type]
      split
      next above =>
        refine .failed .body _ ?_
        simp [Check.reading, Check.failure?, method, type, above]
      next within =>
        cases failure : q.failure with
        | some reason =>
          refine .failed .body _ ?_
          simp [Check.reading, Check.failure?, method, type, within, failure]
        | none =>
          cases text : decodeText q.text with
          | error e =>
            refine .failed .base64 _ ?_
            simp [Check.reading, Check.failure?, method, type, within, failure, refusal?, text]
          | ok wire =>
            have there : q.wire? = some wire := by
              rw [Inbound.wire?, text]
              rfl
            dsimp only
            cases decoded : RequestEnvelope.decode wire with
            | error e =>
              refine .failed .envelope _ ?_
              simp [Check.reading, Check.failure?, method, type, within, failure, refusal?, text,
                there, decoded]
            | ok e =>
              have envelope : q.envelope? = some e := by
                rw [Inbound.envelope?, there, Option.bind_some, decoded]
                rfl
              refine .read e ?_ envelope
              simp [Check.reading, Check.failure?, method, type, within, failure, refusal?, text,
                there, decoded]
    · have stopped : r.readEnvelope q = .error .unsupportedMediaType := by
        simp [readEnvelope, method, type]
        rfl
      rw [stopped]
      refine .failed .contentType _ ?_
      simp [Check.reading, Check.failure?, method, type]
  · have stopped : r.readEnvelope q = .error .methodNotAllowed := by
      simp [readEnvelope, method]
      rfl
    rw [stopped]
    refine .failed .method _ ?_
    simp [Check.reading, Check.failure?, method]

/-! Collecting headers -/

/-- Collecting headers whose names are among others ends with a collection of such names, with the
first header that is not valid, or over many names. -/
inductive Collecting (names : List HeaderName) (invalid : Option RelayError) :
    Except Stop HeaderMap → Prop where
  | done (m : HeaderMap) (among : m.names ⊆ names) (valid : invalid = none) :
    Collecting names invalid (.ok m)
  | refused (e : RelayError) (first : invalid = some e) :
    Collecting names invalid (.error (.refused e))
  | crowded (many : HeaderMap.guardedNames ≤ names.dedup.length) :
    Collecting names invalid (.error .overflow)

theorem collectValues_collecting {names : List HeaderName} {n : HeaderName} {m : HeaderMap}
    (key : String) (values : List String) (among : m.names ⊆ names)
    (brought : values ≠ [] → n ∈ names) : Collecting names
      (if ∃ v ∈ values, HeaderValue.ofText? v = none then some (.headerValue key) else none)
      (collectValues key n m values) := by
  induction values generalizing m with
  | nil => exact .done m among (by simp)
  | cons v rest ih =>
    rw [collectValues, List.foldlM_cons]
    cases hv : HeaderValue.ofText? v with
    | none => exact .refused _ (by simp [hv])
    | some w =>
      have rest_only : (∃ x ∈ v :: rest, HeaderValue.ofText? x = none) ↔
          ∃ x ∈ rest, HeaderValue.ofText? x = none := by simp [hv]
      simp only [rest_only]
      cases h : m.append? n w with
      | none =>
        exact .crowded (Nat.le_trans (HeaderMap.guardedNames_le h) (m.length_names_le among))
      | some m₁ =>
        have among₁ : m₁.names ⊆ names :=
          List.Subset.trans (HeaderMap.names_append h)
            (List.cons_subset.2 ⟨brought nofun, among⟩)
        exact ih among₁ fun _ => brought nofun

/-- The headers of an envelope, collected on top of others. -/
theorem collect_collecting_from {names : List HeaderName} {m : HeaderMap}
    (headers : List EnvelopeHeader) (among : m.names ⊆ names)
    (brought : headers.filterMap (·.name?) ⊆ names) : Collecting names
      (headers.findSome? (·.invalid?)) (headers.foldlM (fun m h =>
        match HeaderName.ofText? h.key with
        | none => .error (.refused (.headerName h.key))
        | some n => collectValues h.key n m h.values) m) := by
  induction headers generalizing m with
  | nil => exact .done m among rfl
  | cons h rest ih =>
    rw [List.foldlM_cons, List.findSome?_cons]
    cases hn : HeaderName.ofText? h.key with
    | none => exact .refused _ (by simp [EnvelopeHeader.invalid?, hn])
    | some n =>
      have first : h.values ≠ [] → n ∈ names := by
        intro some
        refine brought (List.mem_filterMap.2 ⟨h, List.mem_cons_self, ?_⟩)
        rw [EnvelopeHeader.name?, if_neg some, hn]
      have others : rest.filterMap (·.name?) ⊆ names := by
        intro x hx
        obtain ⟨g, hg, name⟩ := List.mem_filterMap.1 hx
        exact brought (List.mem_filterMap.2 ⟨g, List.mem_cons_of_mem h hg, name⟩)
      have invalid : h.invalid? =
          if ∃ v ∈ h.values, HeaderValue.ofText? v = none then some (.headerValue h.key)
          else none := by simp [EnvelopeHeader.invalid?, hn]
      have x := collectValues_collecting h.key h.values among first
      rw [← invalid] at x
      dsimp only
      cases hx : collectValues h.key n m h.values with
      | ok m₁ =>
        rw [hx] at x
        cases x with
        | done _ among₁ valid =>
          rw [valid]
          exact ih among₁ others
      | error stop =>
        rw [hx] at x
        cases x with
        | refused e found =>
          rw [found]
          exact .refused e rfl
        | crowded many => exact .crowded many

theorem collect_collecting {names : List HeaderName} (headers : List EnvelopeHeader)
    (brought : headers.filterMap (·.name?) ⊆ names) :
    Collecting names (headers.findSome? (·.invalid?)) (prepare.collect headers) :=
  collect_collecting_from headers (List.nil_subset _) brought

/-! Forwarding headers -/

/-- Forwarding to names that are among others ends with such names, or over many of them. -/
theorem forwardAll_names {names : List HeaderName} {inbound m : HeaderMap}
    (entries : List (HeaderName × HeaderName)) (among : m.names ⊆ names)
    (brought : ∀ e ∈ entries, inbound.values e.1 ≠ [] → e.2 ∈ names) :
    (∃ m', entries.foldlM (Policy.forwardOne inbound) m = some m') ∨
      HeaderMap.guardedNames ≤ names.dedup.length := by
  induction entries generalizing m with
  | nil => exact .inl ⟨m, rfl⟩
  | cons e rest ih =>
    rw [List.forall_mem_cons] at brought
    rw [List.foldlM_cons]
    have one : (∃ m₁, Policy.forwardOne inbound m e = some m₁ ∧ m₁.names ⊆ names) ∨
        HeaderMap.guardedNames ≤ names.dedup.length := by
      unfold Policy.forwardOne
      split
      next => exact .inl ⟨m, rfl, among⟩
      next present =>
        have left := List.Subset.trans (HeaderMap.names_remove m e.2) among
        refine HeaderMap.appendAll_names _ left ?_
        intro p hp
        obtain ⟨v, _, rfl⟩ := List.mem_map.1 hp
        exact brought.1 present
    rcases one with ⟨m₁, h, among₁⟩ | full
    · rw [h]
      exact ih among₁ brought.2
    · exact .inr full

/-! All checks -/

/-- What is prepared for the upstream: the first failure of a check, an outbound request if all
pass, or nothing over many names. -/
inductive Preparing (c : Config) (q : Inbound) : Except Stop Outbound → Prop where
  | refused (k : Check) (e : RelayError) (first : firstFailure? c q = some (k, e)) :
    Preparing c q (.error (.refused e))
  | passed (out : Outbound) (all : firstFailure? c q = none) : Preparing c q (.ok out)
  | crowded (crowds : c.Crowds q) : Preparing c q (.error .overflow)

theorem firstFailure?_eq : firstFailure? c q =
    (Check.reading.findSome? fun k => (k.failure? c q).map (k, ·)).or
      ([Check.disallowed, .header, .target].findSome? fun k => (k.failure? c q).map (k, ·)) := by
  rw [← List.findSome?_append]
  rfl

/-- Once the envelope is read, its headers and its target decide. -/
theorem firstFailure?_of_read {e : RequestEnvelope}
    (passed : ∀ k ∈ Check.reading, k.failure? c q = none) (there : q.envelope? = some e) :
    firstFailure? c q =
      match e.headers.find? c.disallows with
      | some h => some (.disallowed, .disallowedHeader h.key)
      | none =>
        match e.headers.findSome? (·.invalid?) with
        | some err => some (.header, err)
        | none =>
          match readTarget e.target with
          | .error err => some (.target, err)
          | .ok _ => none := by
  have read : Check.reading.findSome? (fun k => (k.failure? c q).map (k, ·)) = none := by
    rw [List.findSome?_eq_none_iff]
    intro k hk
    rw [passed k hk, Option.map_none]
  rw [firstFailure?_eq, read, Option.none_or]
  simp only [List.findSome?_cons, List.findSome?_nil, Check.failure?, there, Option.bind_some]
  cases e.headers.find? c.disallows with
  | some h => rfl
  | none =>
    cases e.headers.findSome? (·.invalid?) with
    | some err => rfl
    | none => cases readTarget e.target <;> rfl

/-- The target of an entry with a source that is present is among the names that are brought. -/
theorem mem_outboundNames_of_forward (hr : ofConfig c = .ok r) {inbound : HeaderMap}
    (headers : List EnvelopeHeader) {entry : HeaderName × HeaderName}
    (mem : entry ∈ r.policy.forward) (present : inbound.values entry.1 ≠ []) :
    entry.2 ∈ c.outboundNames inbound headers := by
  obtain ⟨f, hf, source, target⟩ :=
    exists_of_forall₂_right (names_of_ofNames (policy_of_ofConfig hr)).2 mem
  refine List.mem_append_right _ (List.mem_filterMap.2 ⟨f, hf, ?_⟩)
  rw [ForwardEntry.name?, if_pos ⟨entry.1, source, present⟩, target]

/-- What is prepared once the envelope is read. -/
theorem preparing_of_read (hr : ofConfig c = .ok r) {e : RequestEnvelope}
    (hread : r.readEnvelope q = .ok e) (passed : ∀ k ∈ Check.reading, k.failure? c q = none)
    (there : q.envelope? = some e) : Preparing c q (r.prepare q) := by
  have first := firstFailure?_of_read passed there
  have disallowed : r.policy.refused? e.headers = (e.headers.find? c.disallows).map (·.key) := by
    rw [Policy.refused?, refuses_eq_disallows hr]
  have collected := collect_collecting e.headers
    (List.subset_append_left _ (c.forwardHeaders.filterMap (·.name? q.headers)))
  have forwarded : ∀ m : HeaderMap, m.names ⊆ c.outboundNames q.headers e.headers →
      r.policy.applyForwarding? q.headers m = none →
      HeaderMap.guardedNames ≤ (c.outboundNames q.headers e.headers).dedup.length := by
    intro m among none
    refine (forwardAll_names r.policy.forward among fun _ mem present =>
      mem_outboundNames_of_forward hr e.headers mem present).resolve_left ?_
    rintro ⟨m', some⟩
    cases none.symm.trans some
  rw [prepare, hread]
  simp only [refusing, bind, Except.bind, disallowed]
  cases hd : e.headers.find? c.disallows with
  | some h => exact .refused .disallowed _ (by rw [first, hd])
  | none =>
    simp only [Option.map_none]
    cases hc : prepare.collect e.headers with
    | error stop =>
      rw [hc] at collected
      cases collected with
      | refused err invalid => exact .refused .header err (by rw [first, hd, invalid])
      | crowded many => exact .crowded ⟨e, there, many⟩
    | ok m =>
      rw [hc] at collected
      cases collected with
      | done _ among valid =>
        dsimp only
        cases hm : r.policy.applyForwarding? q.headers m with
        | none => exact .crowded ⟨e, there, forwarded m among hm⟩
        | some m' =>
          rw [hd, valid] at first
          simp only [overflowing]
          cases ht : readTarget e.target with
          | error err => exact .refused .target err (by rw [first, ht])
          | ok target => exact .passed _ (by rw [first, ht])

theorem prepare_preparing (hr : ofConfig c = .ok r) : Preparing c q (r.prepare q) := by
  have x := readEnvelope_reading (q := q) (ofConfig_eq_ok hr).2.1
  cases hread : r.readEnvelope q with
  | error e =>
    rw [hread] at x
    cases x with
    | failed k e first =>
      rw [prepare, hread]
      exact .refused k e (by rw [firstFailure?_eq, first]; rfl)
  | ok e =>
    rw [hread] at x
    cases x with
    | read e passed there => exact preparing_of_read hr hread passed there

/-! Responses -/

theorem failure_of_first {k : Check} {e : RelayError} (h : firstFailure? c q = some (k, e)) :
    k.failure? c q = some e := by
  obtain ⟨k', _, h⟩ := List.exists_of_findSome?_eq_some h
  obtain ⟨e', h, same⟩ := Option.map_eq_some_iff.1 h
  cases same
  exact h

theorem refusal?_eq_some {ε α : Type} {wrap : ε → RelayError} {x : Except ε α} {e : RelayError}
    (h : refusal? wrap x = some e) : ∃ err, x = .error err ∧ wrap err = e := by
  cases x with
  | error err => exact ⟨err, rfl, Option.some.inj h⟩
  | ok a => cases h

end DynamicRpc.Relay
