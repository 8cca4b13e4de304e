import DynamicRpc.Proofs.Schema.Resolution

/-!
Types of linked fields. A reference resolves to a message or an enum that one of the known files
declares, and linking makes a descriptor of that. So the type of every field and extension of a
linked pool is a scalar, or a message or an enum of the pool.
-/
namespace DynamicRpc.Schema

open Success

/-! What a reference resolves to is known -/

namespace Context

variable {c : Context} {w : Wanted} {name scope : String} {s : Symbol}

theorem mem_of_symbol? {n : String} (h : c.symbol? n = some s) : s ∈ c.symbols :=
  List.mem_of_find?_eq_some h

theorem mem_of_resolveSimple {other : Option String} (outward : List String)
    (h : c.resolveSimple w name other outward = .ok s) : s ∈ c.symbols := by
  induction outward generalizing other with
  | nil => cases other <;> cases h
  | cons scope rest ih =>
    rw [resolveSimple] at h
    split at h
    next => exact ih h
    next found =>
      split at h
      next =>
        cases h
        exact mem_of_symbol? found
      next => exact ih h

theorem mem_of_resolveDotted {first tail : String} (outward : List String)
    (h : c.resolveDotted name first tail outward = .ok s) : s ∈ c.symbols := by
  induction outward with
  | nil => cases h
  | cons scope rest ih =>
    rw [resolveDotted] at h
    dsimp only at h
    split at h
    next =>
      split at h
      next found =>
        cases h
        exact mem_of_symbol? found
      next => cases h
    next => exact ih h

theorem mem_of_resolve (h : c.resolve w scope name = .ok s) : s ∈ c.symbols := by
  obtain ⟨found, _, _⟩ := resolve_eq_ok.1 h
  generalize Reference.of name = r at found
  cases r with
  | absolute full =>
    rw [search] at found
    split at found
    next known =>
      cases found
      exact mem_of_symbol? known
    next => cases found
  | simple => exact mem_of_resolveSimple _ found
  | dotted first tail => exact mem_of_resolveDotted _ found

end Context

/-! What is known as a type is declared -/

theorem declared_of_enum_symbol {file scope : String} {e : EnumDecl} {y : Symbol}
    (h : y ∈ e.symbols file scope) (type : Wanted.type.accepts y.definition) :
    (Declared.enum scope e).symbol file = y := by
  rcases List.mem_cons.1 h with rfl | h
  · rfl
  · obtain ⟨v, _, rfl⟩ := List.mem_map.1 h
    cases type

mutual

theorem declared_of_message_symbol (file scope : String) (m : MessageDecl) (y : Symbol)
    (type : Wanted.type.accepts y.definition) (h : y ∈ m.symbols file scope) :
    ∃ x ∈ m.declared scope, x.symbol file = y := by
  cases m with
  | mk name fields oneofs nested enums extensions ranges reserved mapEntry =>
    simp only [MessageDecl.symbols, extensionSymbols, List.mem_append, List.mem_cons, List.mem_map,
      List.mem_flatMap] at h
    rw [MessageDecl.declared]
    rcases h with ((((rfl | ⟨_, _, rfl⟩) | ⟨_, _, rfl⟩) | h) | ⟨e, he, h⟩) | ⟨_, _, rfl⟩
    · exact ⟨_, List.mem_cons_self, rfl⟩
    · cases type
    · cases type
    · obtain ⟨x, hx, symbol⟩ := declared_of_symbolsOf file _ nested y type h
      exact ⟨x, by simp [hx], symbol⟩
    · exact ⟨.enum _ e, by simp [he], declared_of_enum_symbol h type⟩
    · cases type

theorem declared_of_symbolsOf (file scope : String) (ms : List MessageDecl) (y : Symbol)
    (type : Wanted.type.accepts y.definition) (h : y ∈ symbolsOf file scope ms) :
    ∃ x ∈ declaredOf scope ms, x.symbol file = y := by
  cases ms with
  | nil => cases h
  | cons m rest =>
    rcases List.mem_append.1 h with h | h
    · obtain ⟨x, hx, symbol⟩ := declared_of_message_symbol file scope m y type h
      exact ⟨x, List.mem_append_left _ hx, symbol⟩
    · obtain ⟨x, hx, symbol⟩ := declared_of_symbolsOf file scope rest y type h
      exact ⟨x, List.mem_append_right _ hx, symbol⟩

end

/-- A symbol that can be the type of a field is that of a declaration. -/
theorem FileDecl.declared_of_symbol {f : FileDecl} {y : Symbol}
    (type : Wanted.type.accepts y.definition) (h : y ∈ f.symbols) :
    ∃ x ∈ f.declared, x.symbol f.path = y := by
  simp only [symbols, extensionSymbols, List.mem_append, List.mem_map, List.mem_flatMap] at h
  rcases h with (((⟨_, _, rfl⟩ | h) | ⟨e, he, h⟩) | ⟨s, _, h⟩) | ⟨_, _, rfl⟩
  · cases type
  · obtain ⟨x, hx, symbol⟩ := declared_of_symbolsOf _ _ _ y type h
    exact ⟨x, by simp [declared, hx], symbol⟩
  · exact ⟨.enum _ e, by simp [declared, he], declared_of_enum_symbol h type⟩
  · simp only [ServiceDecl.symbols, List.mem_cons, List.mem_map] at h
    rcases h with rfl | ⟨_, _, rfl⟩ <;> cases type
  · cases type

/-! Types in linked pools -/

/-- The name of a type: that of a scalar, or the full name of a message or enum of the pool. -/
inductive Pool.TypeName (p : Pool) : FieldType → String → Prop where
  | scalar (s : Scalar) : p.TypeName (.scalar s) s.name
  | message (m : MessageType) (mem : m ∈ p.messages) : p.TypeName (.message m.fullName) m.fullName
  | group (m : MessageType) (mem : m ∈ p.messages) : p.TypeName (.group m.fullName) m.fullName
  | enum (e : EnumType) (mem : e ∈ p.enums) : p.TypeName (.enum e.fullName) e.fullName

namespace Pool

variable {p : Pool} {file : File} {c : Context} {s : Symbol}

/-- A name that can be the type of a field is that of a message or enum of the pool. -/
theorem Linked.typeName_typeOf (h : p.Linked) (hs : s ∈ p.symbols)
    (type : Wanted.type.accepts s.definition) (x : FieldDecl) :
    p.TypeName (Context.typeOf x s) s.name := by
  obtain ⟨file, hf, hs⟩ := List.mem_flatMap.1 hs
  obtain ⟨y, hy, rfl⟩ := FileDecl.declared_of_symbol type hs
  obtain ⟨c, links⟩ := h.resolved hf
  obtain ⟨d, hd, link⟩ := exists_of_forall₂_left links hy
  have mem : d ∈ p.descriptors := List.mem_flatMap.2 ⟨file, hf, hd⟩
  have name : d.fullName = y.fullName := link.fullName
  cases y with
  | message scope decl =>
    cases d with
    | message m =>
      have known : m ∈ p.messages := mem_descriptors.1 mem
      simp only [Context.typeOf, Declared.symbol, Declared.definition, ← name]
      split
      next => exact .group m known
      next => exact .message m known
    | _ => exact link.elim
  | enum scope decl =>
    cases d with
    | enum e =>
      have known : e ∈ p.enums := mem_descriptors.1 mem
      simp only [Context.typeOf, Declared.symbol, Declared.definition, ← name]
      exact .enum e known
    | _ => exact link.elim
  | service => cases type
  | extension => cases type

/-- The type of a field is of the pool, and goes by its name. -/
def Typed (p : Pool) (f : Field) : Prop := p.TypeName f.type f.type.name

theorem TypeName.name {t : FieldType} {n : String} (h : p.TypeName t n) : t.name = n := by
  cases h <;> rfl

/-- A field that is linked against names of a pool has a type of the pool. -/
theorem Linked.typed_field (h : p.Linked) (known : c.symbols ⊆ p.symbols) (scope : String)
    (number : Nat) {x : FieldDecl} {type : FieldType} (linked : c.fieldType scope x = .ok type) :
    p.Typed (c.field scope number type x) := by
  show p.TypeName type type.name
  rcases Context.fieldType_eq_ok linked with ⟨_, rfl⟩ | ⟨name, s, _, resolved, rfl⟩
  · exact .scalar _
  · obtain ⟨_, accepted, _⟩ := Context.resolve_eq_ok.1 resolved
    have typed := h.typeName_typeOf (known (Context.mem_of_resolve resolved)) accepted x
    rwa [typed.name]

theorem Linked.typed_linkFields (h : p.Linked) (known : c.symbols ⊆ p.symbols) {m : MessageDecl}
    {full : String} {fields : List FieldDecl} {done fs : List Field}
    (before : ∀ f ∈ done, p.Typed f) (linked : c.linkFields m full done fields = .ok fs) :
    ∀ f ∈ fs, p.Typed f := by
  induction fields generalizing done with
  | nil =>
    cases linked
    exact before
  | cons x rest ih =>
    obtain ⟨number, type, _, ht, _, _, linked⟩ := Context.linkFields_cons_eq_ok.1 linked
    refine ih ?_ linked
    rw [List.forall_mem_append, List.forall_mem_singleton]
    exact ⟨before, h.typed_field known full number ht⟩

theorem Linked.typed_linkMessage (h : p.Linked) (known : c.symbols ⊆ p.symbols) {scope : String}
    {decl : MessageDecl} {m : MessageType} (linked : c.linkMessage scope decl = .ok m) :
    ∀ f ∈ m.fields, p.Typed f := by
  cases decl
  simp only [Context.linkMessage, bind_eq_ok, pure_eq_ok] at linked
  obtain ⟨fields, hf, _, _, _, _, _, _, rfl⟩ := linked
  intro f mem
  exact h.typed_linkFields known (by simp) hf f ((List.mergeSort_perm _ _).mem_iff.1 mem)

/-- What a descriptor of a linked pool was linked from. -/
theorem Linked.origin (h : p.Linked) {d : Descriptor} (hd : d ∈ p.descriptors) :
    ∃ (c : Context) (x : Declared), c.symbols ⊆ p.symbols ∧ c.Links x d := by
  obtain ⟨file, hf, hd⟩ := List.mem_flatMap.1 hd
  obtain ⟨c, known, links⟩ := h.resolved_known hf
  obtain ⟨x, _, link⟩ := exists_of_forall₂_right links hd
  exact ⟨c, x, known, link⟩

/-- Fields of messages of a linked pool have types of the pool. -/
theorem Linked.field_typed (h : p.Linked) {m : MessageType} {f : Field} (hm : m ∈ p.messages)
    (hf : f ∈ m.fields) : p.Typed f := by
  obtain ⟨c, x, known, link⟩ := h.origin (mem_descriptors (d := .message m).2 hm)
  cases x with
  | message scope decl => exact h.typed_linkMessage known link f hf
  | _ => exact link.elim

/-- Extensions of a linked pool have types of the pool. -/
theorem Linked.extension_typed (h : p.Linked) {e : Extension} (he : e ∈ p.extensions) :
    p.Typed e.field := by
  obtain ⟨c, x, known, link⟩ := h.origin (mem_descriptors (d := .extension e).2 he)
  cases x with
  | extension scope decl =>
    obtain ⟨number, s, type, _, _, _, ht, _, rfl⟩ := Context.linkExtension_eq_ok.1 link
    exact h.typed_field known scope number ht
  | _ => exact link.elim

end Pool

end DynamicRpc.Schema
