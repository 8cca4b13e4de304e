import DynamicRpc.Proofs.Schema.Names

/-!
References resolve to the same definitions in a part of a schema and in the whole. A context that
knows less finds what a wider one finds, as long as it knows all that the wider one would let a file
use, and what encloses it. So what linking makes of a declaration does not depend on which files
that it has no use for are linked as well.
-/
namespace DynamicRpc.Schema

open Success

theorem Symbol.Same.definition {a b : Symbol} (h : a.Same b) : a.definition = b.definition := by
  rcases h with rfl | ⟨_, ha, hb⟩
  · rfl
  · rw [ha, hb]

theorem Wanted.ne_package {w : Wanted} {d : Definition} (h : w.accepts d) : d ≠ .package := by
  rintro rfl
  cases w <;> cases h

theorem Wanted.type_accepts {w : Wanted} {d : Definition} (h : w.accepts d) :
    Wanted.type.accepts d := by
  cases w with
  | type => exact h
  | message => cases d <;> first | rfl | cases h

/-- A reference: a full name, one name, or a name that is led to by another. -/
inductive Reference where
  | absolute (full : String)
  | simple
  | dotted (first tail : String)

def Reference.of (name : String) : Reference :=
  match name.toList with
  | '.' :: full => .absolute (String.ofList full)
  | cs =>
    match cs.span (· ≠ '.') with
    | (_, []) => .simple
    | (first, _ :: tail) => .dotted (String.ofList first) (String.ofList tail)

namespace Context

variable {c part whole : Context} {w : Wanted} {name scope : String} {s s' : Symbol}

/-! What is found -/

/-- The search of a reference, before what is found is checked. -/
def search (c : Context) (w : Wanted) (scope name : String) : Reference → Except LinkError Symbol
  | .absolute full =>
    match c.symbol? full with
    | some s => .ok s
    | none => .error (.notDefined name)
  | .simple => c.resolveSimple w name none (scopes scope)
  | .dotted first tail => c.resolveDotted name first tail (scopes scope)

/-- A definition that a file may use as a type. -/
structure Usable (c : Context) (s : Symbol) : Prop where
  visible : s.file ∈ c.visible
  type : Wanted.type.accepts s.definition

/-- Resolving is a search, and a check of what it finds. -/
theorem resolve_eq : c.resolve w scope name = c.search w scope name (.of name) >>= fun s =>
    if !w.accepts s.definition then .error (.wrongKind s.name w.description)
    else if c.visible.contains s.file then .ok s
    else .error (.notDefined s.name) := by
  unfold resolve
  split
  next full dot =>
    have kind : Reference.of name = .absolute (String.ofList full) := by
      simp only [Reference.of, dot]
    rw [kind, search]
    cases c.symbol? (String.ofList full) <;> rfl
  next plain =>
    dsimp only
    split
    next first parts =>
      have kind : Reference.of name = .simple := by
        unfold Reference.of
        split
        next full dot => exact (plain full dot).elim
        next => simp only [parts]
      rw [kind]
      rfl
    next first dot tail parts =>
      have kind : Reference.of name = .dotted (String.ofList first) (String.ofList tail) := by
        unfold Reference.of
        split
        next full dot => exact (plain full dot).elim
        next => simp only [parts]
      rw [kind]
      rfl

theorem resolve_eq_ok : c.resolve w scope name = .ok s ↔
    c.search w scope name (.of name) = .ok s ∧ w.accepts s.definition ∧ c.Usable s := by
  rw [resolve_eq]
  constructor
  · intro h
    obtain ⟨s', found, h⟩ := bind_eq_ok.1 h
    split at h
    next => cases h
    next accepted =>
      split at h
      next visible =>
        cases h
        have accepted : w.accepts s.definition := by simpa using accepted
        exact ⟨found, accepted, by simpa using visible, Wanted.type_accepts accepted⟩
      next => cases h
  · rintro ⟨found, accepted, usable⟩
    refine bind_eq_ok.2 ⟨s, found, ?_⟩
    rw [if_neg (by simpa using accepted), if_pos (by simpa using usable.visible)]

/-! A part and the whole -/

/-- A context that knows a part of what another knows, enough for the types that the other lets a
file use. -/
structure Within (part whole : Context) : Prop where
  generation : part.firstGeneration = whole.firstGeneration
  known : ∀ n y, part.symbol? n = some y → ∃ y', whole.symbol? n = some y' ∧ y.Same y'
  usable : ∀ n y', whole.symbol? n = some y' → whole.Usable y' →
    ∃ y, part.symbol? n = some y ∧ y.Same y'
  enclosing : ∀ outer tail y', whole.symbol? (outer ++ "." ++ tail) = some y' → whole.Usable y' →
    (whole.symbol? outer).any (·.definition.isNamespace) →
      (part.symbol? outer).any (·.definition.isNamespace)

namespace Within

theorem resolveSimple (h : part.Within whole) {other other' : Option String} (outward : List String)
    (hs : part.resolveSimple w name other outward = .ok s)
    (hs' : whole.resolveSimple w name other' outward = .ok s') (usable : whole.Usable s') :
    s.Same s' := by
  induction outward generalizing other other' with
  | nil =>
    unfold Context.resolveSimple at hs
    split at hs <;> cases hs
  | cons inner rest ih =>
    unfold Context.resolveSimple at hs hs'
    cases found : part.symbol? (qualify inner name) with
    | some y =>
      obtain ⟨y', found', same⟩ := h.known _ y found
      simp only [found, found', same.definition] at hs hs'
      split at hs
      next accepted =>
        rw [if_pos accepted] at hs'
        cases hs
        cases hs'
        exact same
      next refused =>
        rw [if_neg refused] at hs'
        exact ih hs hs'
    | none =>
      cases found' : whole.symbol? (qualify inner name) with
      | none =>
        simp only [found, found'] at hs hs'
        exact ih hs hs'
      | some y' =>
        simp only [found, found'] at hs hs'
        split at hs'
        next =>
          -- What the whole finds here can be used, so the part would have found it too.
          cases hs'
          obtain ⟨y, some, _⟩ := h.usable _ s' found' usable
          cases found.symm.trans some
        next => exact ih hs hs'

theorem isNamespace (h : part.Within whole) {outer : String}
    (hn : (part.symbol? outer).any (·.definition.isNamespace)) :
    (whole.symbol? outer).any (·.definition.isNamespace) := by
  obtain ⟨y, found, ns⟩ := (Option.any_eq_true _ _).1 hn
  obtain ⟨y', found', same⟩ := h.known _ y found
  rw [found', Option.any_some, ← same.definition]
  exact ns

theorem resolveDotted (h : part.Within whole) {first tail : String} (outward : List String)
    (hs : part.resolveDotted name first tail outward = .ok s)
    (hs' : whole.resolveDotted name first tail outward = .ok s') (usable : whole.Usable s') :
    s.Same s' := by
  induction outward with
  | nil => cases hs
  | cons inner rest ih =>
    unfold Context.resolveDotted at hs hs'
    dsimp only at hs hs'
    by_cases ns : (part.symbol? (qualify inner first)).any (·.definition.isNamespace)
    · rw [if_pos ns] at hs
      rw [if_pos (h.isNamespace ns)] at hs'
      cases found : part.symbol? (qualify inner first ++ "." ++ tail) with
      | none =>
        rw [found] at hs
        cases hs
      | some y =>
        obtain ⟨y', found', same⟩ := h.known _ y found
        rw [found] at hs
        rw [found'] at hs'
        cases hs
        cases hs'
        exact same
    · rw [if_neg ns] at hs
      split at hs'
      next ns' =>
        split at hs'
        next y' found' =>
          cases hs'
          exact absurd (h.enclosing _ tail s' found' usable ns') ns
        next => cases hs'
      next => exact ih hs hs'

/-- A reference that resolves in both resolves to the same definition. -/
theorem resolve (h : part.Within whole) (hs : part.resolve w scope name = .ok s)
    (hs' : whole.resolve w scope name = .ok s') : s = s' := by
  obtain ⟨hs, accepted, _⟩ := resolve_eq_ok.1 hs
  obtain ⟨hs', _, usable⟩ := resolve_eq_ok.1 hs'
  suffices same : s.Same s' from same.eq (Wanted.ne_package accepted)
  cases kind : Reference.of name with
  | absolute full =>
    simp only [kind, search] at hs hs'
    cases found : part.symbol? full with
    | none =>
      rw [found] at hs
      cases hs
    | some y =>
      obtain ⟨y', found', same⟩ := h.known _ y found
      rw [found] at hs
      rw [found'] at hs'
      cases hs
      cases hs'
      exact same
  | simple =>
    rw [kind] at hs hs'
    exact h.resolveSimple _ hs hs' usable
  | dotted first tail =>
    rw [kind] at hs hs'
    exact h.resolveDotted _ hs hs' usable

/-! The same links -/

theorem fieldType (h : part.Within whole) {x : FieldDecl} {t t' : FieldType}
    (ht : part.fieldType scope x = .ok t) (ht' : whole.fieldType scope x = .ok t') : t = t' := by
  rcases fieldType_eq_ok ht with ⟨none, rfl⟩ | ⟨name, s, some, hs, rfl⟩
  · rcases fieldType_eq_ok ht' with ⟨_, rfl⟩ | ⟨name, s, some, _, _⟩
    · rfl
    · cases none.symm.trans some
  · rcases fieldType_eq_ok ht' with ⟨none, _⟩ | ⟨name', s', some', hs', rfl⟩
    · cases none.symm.trans some
    · cases some.symm.trans some'
      rw [h.resolve hs hs']

theorem field (h : part.Within whole) (number : Nat) (type : FieldType) (x : FieldDecl) :
    part.field scope number type x = whole.field scope number type x := by
  simp only [Context.field, h.generation]

theorem linkExtension (h : part.Within whole) {x : FieldDecl} {t t' : Extension}
    (ht : part.linkExtension scope x = .ok t) (ht' : whole.linkExtension scope x = .ok t') :
    t = t' := by
  obtain ⟨number, s, type, hn, hs, _, htype, _, rfl⟩ := linkExtension_eq_ok.1 ht
  obtain ⟨number', s', type', hn', hs', _, htype', _, rfl⟩ := linkExtension_eq_ok.1 ht'
  cases hn.symm.trans hn'
  rw [h.resolve hs hs', h.fieldType htype htype', h.field]

theorem linkMethod (h : part.Within whole) {m : MethodDecl} {t t' : Method}
    (ht : part.linkMethod scope m = .ok t) (ht' : whole.linkMethod scope m = .ok t') : t = t' := by
  obtain ⟨input, output, hi, ho, rfl⟩ := linkMethod_eq_ok ht
  obtain ⟨input', output', hi', ho', rfl⟩ := linkMethod_eq_ok ht'
  rw [h.resolve hi hi', h.resolve ho ho']

/-- Lists are linked the same if each of their elements is. -/
theorem mapM_agree {α β : Type} {link link' : α → Except LinkError β} {xs : List α}
    {ys ys' : List β} (each : ∀ x y y', link x = .ok y → link' x = .ok y' → y = y')
    (h : xs.mapM link = .ok ys) (h' : xs.mapM link' = .ok ys') : ys = ys' :=
  eq_of_forall₂ each (mapM_eq_ok.1 h) (mapM_eq_ok.1 h')

theorem linkService (h : part.Within whole) {s : ServiceDecl} {t t' : Service}
    (ht : part.linkService scope s = .ok t) (ht' : whole.linkService scope s = .ok t') :
    t = t' := by
  obtain ⟨methods, hm, rfl⟩ := linkService_eq_ok ht
  obtain ⟨methods', hm', rfl⟩ := linkService_eq_ok ht'
  rw [mapM_agree (fun _ _ _ => h.linkMethod) hm hm']

theorem linkEnum {e : EnumDecl} {t t' : EnumType} (ht : part.linkEnum scope e = .ok t)
    (ht' : whole.linkEnum scope e = .ok t') : t = t' := by
  rw [linkEnum_eq_ok ht, linkEnum_eq_ok ht']

theorem linkFields (h : part.Within whole) {m : MessageDecl} {full : String}
    {fields : List FieldDecl} {done fs fs' : List Field}
    (hf : part.linkFields m full done fields = .ok fs)
    (hf' : whole.linkFields m full done fields = .ok fs') : fs = fs' := by
  induction fields generalizing done with
  | nil =>
    cases hf
    cases hf'
    rfl
  | cons f rest ih =>
    obtain ⟨number, type, hn, ht, _, _, hf⟩ := linkFields_cons_eq_ok.1 hf
    obtain ⟨number', type', hn', ht', _, _, hf'⟩ := linkFields_cons_eq_ok.1 hf'
    cases hn.symm.trans hn'
    rw [h.fieldType ht ht', h.field] at hf
    exact ih hf hf'

mutual

theorem linkMessage (h : part.Within whole) (scope : String) (m : MessageDecl) (t t' : MessageType)
    (ht : part.linkMessage scope m = .ok t) (ht' : whole.linkMessage scope m = .ok t') :
    t = t' := by
  cases m with
  | mk name fields oneofs nested enums extensions ranges reserved mapEntry =>
    simp only [Context.linkMessage, bind_eq_ok, pure_eq_ok] at ht ht'
    obtain ⟨fs, hf, ms, hm, es, he, xs, hx, rfl⟩ := ht
    obtain ⟨fs', hf', ms', hm', es', he', xs', hx', rfl⟩ := ht'
    rw [h.linkFields hf hf', linkMessages h _ nested ms ms' hm hm',
      mapM_agree (fun _ _ _ => linkEnum) he he', mapM_agree (fun _ _ _ => h.linkExtension) hx hx']

theorem linkMessages (h : part.Within whole) (scope : String) (messages : List MessageDecl)
    (ts ts' : List MessageType) (ht : part.linkMessages scope messages = .ok ts)
    (ht' : whole.linkMessages scope messages = .ok ts') : ts = ts' := by
  cases messages with
  | nil =>
    cases ht
    cases ht'
    rfl
  | cons m rest =>
    simp only [Context.linkMessages, bind_eq_ok, pure_eq_ok] at ht ht'
    obtain ⟨t, hm, ts, hr, rfl⟩ := ht
    obtain ⟨t', hm', ts', hr', rfl⟩ := ht'
    rw [linkMessage h scope m t t' hm hm', linkMessages h scope rest ts ts' hr hr']

end

/-- Linking makes the same of a declaration in both. -/
theorem links (h : part.Within whole) {x : Declared} {d d' : Descriptor} (hd : part.Links x d)
    (hd' : whole.Links x d') : d = d' := by
  cases x <;> cases d <;> cases d' <;> first | exact hd.elim | exact hd'.elim | skip
  · rw [linkMessage h _ _ _ _ hd hd']
  · rw [h.linkService hd hd']
  · rw [linkEnum hd hd']
  · rw [h.linkExtension hd hd']

end Within

end Context

end DynamicRpc.Schema
