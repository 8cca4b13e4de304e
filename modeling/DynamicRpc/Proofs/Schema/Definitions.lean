import DynamicRpc.Proofs.Schema.Linking
import DynamicRpc.Schema.Descriptor

/-!
Declarations that can be looked up, and what linking makes of each. Linking keeps their order: the
descriptors of a linked file and the declarations of the file match one by one. A lookup in a pool
finds the descriptor of a name as soon as no two descriptors share it.
-/
namespace DynamicRpc.Schema

open Success

/-- A declaration with the scope that it stands in. -/
inductive Declared where
  | message (scope : String) (m : MessageDecl)
  | service (scope : String) (s : ServiceDecl)
  | enum (scope : String) (e : EnumDecl)
  | extension (scope : String) (x : FieldDecl)

namespace Declared

def fullName : Declared → String
  | message scope m => qualify scope m.name
  | service scope s => qualify scope s.name
  | enum scope e => qualify scope e.name
  | extension scope x => qualify scope x.name

def definition : Declared → Definition
  | message _ m => .message m
  | service _ _ => .service
  | enum _ e => .enum e
  | extension _ _ => .extension

def symbol (file : String) (x : Declared) : Symbol := ⟨x.fullName, file, x.definition⟩

end Declared

/-- Whether linking a declaration gives a descriptor. -/
def Context.Links (c : Context) : Declared → Descriptor → Prop
  | .message scope m, .message t => c.linkMessage scope m = .ok t
  | .service scope s, .service t => c.linkService scope s = .ok t
  | .enum scope e, .enum t => c.linkEnum scope e = .ok t
  | .extension scope x, .extension t => c.linkExtension scope x = .ok t
  | _, _ => False

mutual

/-- The declarations in a message, itself first. -/
def MessageDecl.declared (scope : String) : MessageDecl → List Declared
  | ⟨name, fields, oneofs, nested, enums, extensions, ranges, reserved, mapEntry⟩ =>
    .message scope
        ⟨name, fields, oneofs, nested, enums, extensions, ranges, reserved, mapEntry⟩ ::
      (declaredOf (qualify scope name) nested ++ enums.map (.enum (qualify scope name)) ++
        extensions.map (.extension (qualify scope name)))

def declaredOf (scope : String) : List MessageDecl → List Declared
  | [] => []
  | m :: rest => m.declared scope ++ declaredOf scope rest

end

/-- The declarations of a file. -/
def FileDecl.declared (f : FileDecl) : List Declared :=
  declaredOf f.package f.messages ++ f.enums.map (.enum f.package) ++
    f.services.map (.service f.package) ++ f.extensions.map (.extension f.package)

/-- The file defines a message, service, enum or extension of that full name. -/
def FileDecl.Defines (f : FileDecl) (name : String) : Prop := ∃ x ∈ f.declared, x.fullName = name

instance (f : FileDecl) (name : String) : Decidable (f.Defines name) :=
  inferInstanceAs (Decidable (∃ x ∈ f.declared, x.fullName = name))

mutual

/-- The descriptors in a message, itself first. -/
def MessageType.descriptors : MessageType → List Descriptor
  | ⟨name, fullName, fields, oneofs, nested, enums, extensions, mapEntry⟩ =>
    .message ⟨name, fullName, fields, oneofs, nested, enums, extensions, mapEntry⟩ ::
      (descriptorsOf nested ++ enums.map .enum ++ extensions.map .extension)

def descriptorsOf : List MessageType → List Descriptor
  | [] => []
  | m :: rest => m.descriptors ++ descriptorsOf rest

end

/-- The descriptors of a linked file. -/
def File.descriptors (file : File) : List Descriptor :=
  descriptorsOf file.messages ++ file.enums.map .enum ++ file.services.map .service ++
    file.extensions.map .extension

/-- The descriptors of all files of a pool. -/
def Pool.descriptors (p : Pool) : List Descriptor := p.files.flatMap (·.descriptors)

/-! Linking keeps the order of declarations -/

variable {c : Context}

theorem forall₂_map_links {α β : Type} {link : α → Except LinkError β} {declare : α → Declared}
    {describe : β → Descriptor} {xs : List α} {ys : List β}
    (each : ∀ x y, link x = .ok y → c.Links (declare x) (describe y))
    (h : xs.mapM link = .ok ys) :
    List.Forall₂ c.Links (xs.map declare) (ys.map describe) := by
  rw [List.forall₂_map_left_iff, List.forall₂_map_right_iff]
  exact (mapM_eq_ok.1 h).imp fun x y => each x y

mutual

theorem linkMessage_links (scope : String) (m : MessageDecl) (t : MessageType)
    (h : c.linkMessage scope m = .ok t) :
    List.Forall₂ c.Links (m.declared scope) t.descriptors := by
  cases m with
  | mk name fields oneofs nested enums extensions ranges reserved mapEntry =>
    have linked := h
    simp only [Context.linkMessage, bind_eq_ok, pure_eq_ok] at h
    obtain ⟨_, _, messages, hm, _, he, _, hx, rfl⟩ := h
    rw [MessageDecl.declared, MessageType.descriptors]
    refine .cons linked ?_
    refine List.rel_append (List.rel_append (linkMessages_links _ nested messages hm) ?_) ?_
    · exact forall₂_map_links (fun _ _ h => h) he
    · exact forall₂_map_links (fun _ _ h => h) hx

theorem linkMessages_links (scope : String) (ms : List MessageDecl) (ts : List MessageType)
    (h : c.linkMessages scope ms = .ok ts) :
    List.Forall₂ c.Links (declaredOf scope ms) (descriptorsOf ts) := by
  cases ms with
  | nil =>
    simp only [Context.linkMessages, pure_eq_ok] at h
    subst h
    exact .nil
  | cons m rest =>
    simp only [Context.linkMessages, bind_eq_ok, pure_eq_ok] at h
    obtain ⟨t, hm, ts, hrest, rfl⟩ := h
    exact List.rel_append (linkMessage_links scope m t hm) (linkMessages_links scope rest ts hrest)

end

/-- The descriptors of a linked file are those of its declarations, in order. -/
theorem linkFile_links {files : List FileDecl} {symbols : List Symbol} {f : FileDecl} {file : File}
    (h : linkFile files symbols f = .ok file) :
    List.Forall₂ (f.context files symbols).Links f.declared file.descriptors := by
  obtain ⟨messages, enums, services, extensions, hm, he, hs, hx, rfl⟩ := linkFile_eq_ok h
  refine List.rel_append (List.rel_append (List.rel_append ?_ ?_) ?_) ?_
  · exact linkMessages_links f.package f.messages messages hm
  · exact forall₂_map_links (fun _ _ h => h) he
  · exact forall₂_map_links (fun _ _ h => h) hs
  · exact forall₂_map_links (fun _ _ h => h) hx

theorem linkMessage_fullName {scope : String} {m : MessageDecl} {t : MessageType}
    (h : c.linkMessage scope m = .ok t) : t.fullName = qualify scope m.name := by
  cases m
  simp only [Context.linkMessage, bind_eq_ok, pure_eq_ok] at h
  obtain ⟨_, _, _, _, _, _, _, _, rfl⟩ := h
  rfl

/-- A descriptor has the full name of its declaration. -/
theorem Context.Links.fullName {x : Declared} {d : Descriptor} (h : c.Links x d) :
    d.fullName = x.fullName := by
  cases x <;> cases d <;> first | exact h.elim | skip
  · exact linkMessage_fullName h
  · obtain ⟨_, _, rfl⟩ := Context.linkService_eq_ok h
    rfl
  · rw [Context.linkEnum_eq_ok h]
    rfl
  · obtain ⟨_, _, _, _, _, _, _, _, rfl⟩ := Context.linkExtension_eq_ok.1 h
    rfl

/-- What linking makes of a declaration depends on the context alone. -/
theorem Context.Links.unique {x : Declared} {d d' : Descriptor} (h : c.Links x d)
    (h' : c.Links x d') : d = d' := by
  cases x <;> cases d <;> cases d' <;> first | exact h.elim | exact h'.elim | skip
  all_goals
    cases h.symm.trans h'
    rfl

/-! Looking up -/

/-- What a search by name finds has the name. -/
theorem named_of_find? {α : Type} {key : α → String} {xs : List α} {name : String} {x : α}
    (h : xs.find? (key · = name) = some x) : x ∈ xs ∧ key x = name :=
  ⟨List.mem_of_find?_eq_some h, by simpa using List.find?_some h⟩

/-- Where a descriptor stands among some messages. -/
def HeldBy (ts : List MessageType) : Descriptor → Prop
  | .message m => m ∈ MessageType.allOf ts
  | .service _ => False
  | .enum e => ∃ m ∈ MessageType.allOf ts, e ∈ m.enums
  | .extension x => x ∈ MessageType.extensionsOf ts

theorem heldBy_cons {t : MessageType} {rest : List MessageType} {d : Descriptor} :
    HeldBy (t :: rest) d ↔ HeldBy [t] d ∨ HeldBy rest d := by
  cases d <;> simp [HeldBy, MessageType.allOf, MessageType.extensionsOf, or_and_right, exists_or]

mutual

theorem mem_descriptors (t : MessageType) (d : Descriptor) : d ∈ t.descriptors ↔ HeldBy [t] d := by
  cases t with
  | mk name fullName fields oneofs nested enums extensions mapEntry =>
    have inner := mem_descriptorsOf nested d
    cases d with
    | message m =>
      simp [MessageType.descriptors, inner, HeldBy, MessageType.allOf, MessageType.all]
    | service s => simp [MessageType.descriptors, inner, HeldBy]
    | enum e =>
      simp [MessageType.descriptors, inner, HeldBy, MessageType.allOf, MessageType.all, or_comm]
    | extension x =>
      simp [MessageType.descriptors, inner, HeldBy, MessageType.extensionsOf,
        MessageType.allExtensions]

theorem mem_descriptorsOf (ts : List MessageType) (d : Descriptor) :
    d ∈ descriptorsOf ts ↔ HeldBy ts d := by
  cases ts with
  | nil => cases d <;> simp [descriptorsOf, HeldBy, MessageType.allOf, MessageType.extensionsOf]
  | cons t rest =>
    rw [descriptorsOf, List.mem_append, mem_descriptors t d, mem_descriptorsOf rest d]
    exact heldBy_cons.symm

end

theorem withoutDot_eq {name : String} (h : name.toList.head? ≠ some '.') :
    withoutDot name = name := by
  unfold withoutDot
  split
  next rest dot => exact absurd (by rw [dot]; rfl) h
  next => rfl

/-- Nothing stands in a name without its dot that does not stand in the name. -/
theorem mem_of_withoutDot {name : String} {c : Char} (h : c ∈ (withoutDot name).toList) :
    c ∈ name.toList := by
  unfold withoutDot at h
  split at h
  next rest dot =>
    rw [String.toList_ofList] at h
    exact dot ▸ List.mem_cons_of_mem _ h
  next => exact h

namespace Pool

variable {p : Pool}

/-- The descriptors of a pool are what it is searched for. -/
theorem mem_descriptors {d : Descriptor} : d ∈ p.descriptors ↔
    match d with
    | .message m => m ∈ p.messages
    | .service s => s ∈ p.services
    | .enum e => e ∈ p.enums
    | .extension x => x ∈ p.extensions := by
  cases d <;> simp [descriptors, File.descriptors, mem_descriptorsOf, HeldBy, messages, services,
    enums, extensions, File.allMessages, File.allEnums, File.allExtensions, or_comm]

/-- What a lookup finds is in the pool and has the name. -/
theorem find?_mem {d : Descriptor} {name : String} (h : p.find? name = some d) :
    d ∈ p.descriptors ∧ d.fullName = withoutDot name := by
  simp only [find?, Option.or_eq_some_iff, Option.map_eq_some_iff] at h
  rcases h with ⟨m, h, rfl⟩ | ⟨_, ⟨s, h, rfl⟩ | ⟨_, ⟨e, h, rfl⟩ | ⟨_, x, h, rfl⟩⟩⟩
  all_goals
    obtain ⟨mem, name⟩ := named_of_find? h
    exact ⟨mem_descriptors.2 mem, name⟩

theorem find?_ne_none {d : Descriptor} {name : String} (hd : d ∈ p.descriptors)
    (same : d.fullName = withoutDot name) : p.find? name ≠ none := by
  intro none
  simp only [find?, Option.or_eq_none_iff, Option.map_eq_none_iff] at none
  obtain ⟨messages, services, enums, extensions⟩ := none
  have mem := mem_descriptors.1 hd
  cases d with
  | message m => exact List.find?_eq_none.1 messages m mem (decide_eq_true same)
  | service s => exact List.find?_eq_none.1 services s mem (decide_eq_true same)
  | enum e => exact List.find?_eq_none.1 enums e mem (decide_eq_true same)
  | extension x => exact List.find?_eq_none.1 extensions x mem (decide_eq_true same)

/-- A descriptor that shares its name with no other is found. -/
theorem find?_of_unique {d : Descriptor} {name : String} (hd : d ∈ p.descriptors)
    (same : d.fullName = withoutDot name)
    (unique : ∀ d' ∈ p.descriptors, d'.fullName = d.fullName → d' = d) : p.find? name = some d := by
  cases found : p.find? name with
  | none => exact absurd found (find?_ne_none hd same)
  | some d' =>
    obtain ⟨mem, name⟩ := find?_mem found
    rw [unique d' mem (name.trans same.symm)]

end Pool

end DynamicRpc.Schema
