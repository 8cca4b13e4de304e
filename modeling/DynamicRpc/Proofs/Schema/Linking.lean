import DynamicRpc.Proofs.Success
import DynamicRpc.Schema.Link

/-!
What linking leaves. The files of a pool keep their place, and the new ones follow in order, each
linked against the declarations of all.
-/
namespace DynamicRpc.Schema

open Success

variable {p q : Pool} {fresh files : List FileDecl} {symbols : List Symbol} {f : FileDecl}
  {file : File}

/-- The declarations that a pool was linked from. -/
def Pool.decls (p : Pool) : List FileDecl := p.files.map (·.decl)

theorem Pool.contains_iff {path : String} : p.contains path ↔ path ∈ p.decls.map (·.path) := by
  rw [contains, List.any_eq_true, decls, List.map_map, List.mem_map]
  exact exists_congr fun file => and_congr_right fun _ => decide_eq_true_iff

/-! What each part is linked to -/

namespace Context

variable {c : Context} {scope : String}

/-- The type of a field that refers to a symbol. -/
def typeOf (x : FieldDecl) (s : Symbol) : FieldType :=
  match s.definition with
  | .enum _ => .enum s.name
  | _ => if x.type = groupType then .group s.name else .message s.name

theorem fieldType_eq_ok {x : FieldDecl} {type : FieldType} (h : c.fieldType scope x = .ok type) :
    x.typeName = none ∧ type = .scalar (.ofNumber x.type) ∨
      ∃ name s, x.typeName = some name ∧ c.resolve .type scope name = .ok s ∧
        type = typeOf x s := by
  unfold fieldType at h
  split at h
  next none =>
    cases h
    exact .inl ⟨none, rfl⟩
  next name some =>
    obtain ⟨s, hs, h⟩ := bind_eq_ok.1 h
    refine .inr ⟨name, s, some, hs, ?_⟩
    unfold typeOf
    generalize s.definition = kind at h ⊢
    cases kind with
    | enum e => exact (pure_eq_ok.1 h).symm
    | _ => exact (pure_eq_ok.1 h).symm

/-- The checks of a field beside those of its number, type and default: what the message reserves,
and what the fields before it use. -/
structure Admits (m : MessageDecl) (done : List Field) (f : FieldDecl) (field : Field) : Prop where
  number : ¬ done.any (·.number = field.number)
  reserved : m.reserved.find? (·.holds f.number) = none
  extension : m.extensionRanges.find? (·.holds f.number) = none
  oneof : ∀ i, f.oneof = some i → ¬ (i < 0 || i ≥ m.oneofs.length)
  jsonName : ¬ done.any (·.jsonName = field.jsonName)

/-- A field is linked to its number and its type, if no check stops it. -/
theorem linkFields_cons_eq_ok {m : MessageDecl} {full : String} {done fs : List Field}
    {f : FieldDecl} {rest : List FieldDecl} : c.linkFields m full done (f :: rest) = .ok fs ↔
    ∃ number type, checkFieldNumber f.number = .ok number ∧ c.fieldType full f = .ok type ∧
      c.checkDefault type f = .ok () ∧ Admits m done f (c.field full number type f) ∧
      c.linkFields m full (done ++ [c.field full number type f]) rest = .ok fs := by
  constructor
  · intro h
    unfold linkFields at h
    obtain ⟨number, hn, h⟩ := bind_eq_ok.1 h
    dsimp only at h
    split at h
    next => cases h
    next unused =>
      split at h
      next => cases h
      next reserved =>
        split at h
        next => cases h
        next extension =>
          obtain ⟨type, ht, h⟩ := bind_eq_ok.1 h
          have checked : (∀ i, f.oneof = some i → ¬ (i < 0 || i ≥ m.oneofs.length)) ∧ (do
              c.checkDefault type f
              if done.any (·.jsonName = (c.field full number type f).jsonName) then
                throw (LinkError.duplicateJsonName (c.field full number type f).jsonName)
              c.linkFields m full (done ++ [c.field full number type f]) rest) = .ok fs := by
            split at h
            next i some =>
              split at h
              next => cases h
              next inside =>
                exact ⟨fun j same => Option.some.inj (some.symm.trans same) ▸ inside, h⟩
            next none => exact ⟨fun i some => (nomatch none.symm.trans some), h⟩
          obtain ⟨_, hd, h⟩ := bind_eq_ok.1 checked.2
          split at h
          next => cases h
          next other =>
            exact ⟨number, type, hn, ht, hd, ⟨unused, reserved, extension, checked.1, other⟩, h⟩
  · rintro ⟨number, type, hn, ht, hd, admits, h⟩
    unfold linkFields
    refine bind_eq_ok.2 ⟨number, hn, ?_⟩
    have last : (do
        c.checkDefault type f
        if done.any (·.jsonName = (c.field full number type f).jsonName) then
          throw (LinkError.duplicateJsonName (c.field full number type f).jsonName)
        c.linkFields m full (done ++ [c.field full number type f]) rest) = .ok fs := by
      refine bind_eq_ok.2 ⟨(), hd, ?_⟩
      rw [if_neg admits.jsonName]
      exact h
    have unused : ¬ done.any (·.number = number) := admits.number
    dsimp only
    rw [if_neg unused, admits.reserved, admits.extension]
    refine bind_eq_ok.2 ⟨type, ht, ?_⟩
    split
    next i some =>
      rw [if_neg (admits.oneof i some)]
      exact last
    next => exact last

theorem linkService_eq_ok {s : ServiceDecl} {t : Service} (h : c.linkService scope s = .ok t) :
    ∃ methods, s.methods.mapM (c.linkMethod (qualify scope s.name)) = .ok methods ∧
      t = ⟨s.name, qualify scope s.name, methods⟩ := by
  obtain ⟨methods, hm, h⟩ := bind_eq_ok.1 h
  exact ⟨methods, hm, (pure_eq_ok.1 h).symm⟩

theorem linkMethod_eq_ok {m : MethodDecl} {t : Method} (h : c.linkMethod scope m = .ok t) :
    ∃ input output, c.resolve .message scope m.input = .ok input ∧
      c.resolve .message scope m.output = .ok output ∧
      t = ⟨m.name, input.name, output.name, m.clientStreaming, m.serverStreaming⟩ := by
  obtain ⟨input, hi, h⟩ := bind_eq_ok.1 h
  obtain ⟨output, ho, h⟩ := bind_eq_ok.1 h
  exact ⟨input, output, hi, ho, (pure_eq_ok.1 h).symm⟩

/-- A message that an extension refers to has the number among those for extensions. -/
def Extensible (s : Symbol) (n : Int) : Prop :=
  ∀ m, s.definition = .message m → m.extensionRanges.any (·.holds n)

theorem linkExtension_eq_ok {x : FieldDecl} {t : Extension} : c.linkExtension scope x = .ok t ↔
    ∃ number s type, checkFieldNumber x.number = .ok number ∧
      c.resolve .message scope x.extendee = .ok s ∧ Extensible s x.number ∧
      c.fieldType scope x = .ok type ∧ c.checkDefault type x = .ok () ∧
      t = ⟨{ c.field scope number type x with presence := x.label ≠ .repeated }, s.name⟩ := by
  constructor
  · intro h
    obtain ⟨number, hn, h⟩ := bind_eq_ok.1 h
    obtain ⟨s, hs, h⟩ := bind_eq_ok.1 h
    have checked : Extensible s x.number ∧ (do
        let type ← c.fieldType scope x
        c.checkDefault type x
        pure ⟨{ c.field scope number type x with presence := x.label ≠ .repeated }, s.name⟩ :
          Except LinkError Extension) = .ok t := by
      split at h
      next m kind =>
        split at h
        next => cases h
        next inside =>
          refine ⟨fun m' same => ?_, h⟩
          cases kind.symm.trans same
          simpa using inside
      next other => exact ⟨fun m kind => (other m kind).elim, h⟩
    obtain ⟨type, ht, rest⟩ := bind_eq_ok.1 checked.2
    obtain ⟨_, hd, rest⟩ := bind_eq_ok.1 rest
    exact ⟨number, s, type, hn, hs, checked.1, ht, hd, (pure_eq_ok.1 rest).symm⟩
  · rintro ⟨number, s, type, hn, hs, inside, ht, hd, rfl⟩
    refine bind_eq_ok.2 ⟨number, hn, bind_eq_ok.2 ⟨s, hs, ?_⟩⟩
    have last : (do
        let type ← c.fieldType scope x
        c.checkDefault type x
        pure ⟨{ c.field scope number type x with presence := x.label ≠ .repeated }, s.name⟩ :
          Except LinkError Extension) =
        .ok ⟨{ c.field scope number type x with presence := x.label ≠ .repeated }, s.name⟩ :=
      bind_eq_ok.2 ⟨type, ht, bind_eq_ok.2 ⟨(), hd, rfl⟩⟩
    split
    next m kind =>
      rw [if_neg (by simpa using inside m kind)]
      exact last
    next => exact last

theorem linkEnum_eq_ok {e : EnumDecl} {t : EnumType} (h : c.linkEnum scope e = .ok t) :
    t = ⟨e.name, qualify scope e.name, e.values⟩ := by
  unfold linkEnum at h
  split at h
  next => cases h
  next =>
    split at h
    next => cases h
    next =>
      obtain ⟨_, _, h⟩ := bind_eq_ok.1 h
      exact (pure_eq_ok.1 h).symm

end Context

/-- What a file is resolved against when it is linked. -/
def FileDecl.context (files : List FileDecl) (symbols : List Symbol) (f : FileDecl) : Context :=
  ⟨symbols, f.visible files, f.isFirstGeneration⟩

theorem linkFile_eq_ok (h : linkFile files symbols f = .ok file) :
    ∃ messages enums services extensions,
      (f.context files symbols).linkMessages f.package f.messages = .ok messages ∧
      f.enums.mapM ((f.context files symbols).linkEnum f.package) = .ok enums ∧
      f.services.mapM ((f.context files symbols).linkService f.package) = .ok services ∧
      f.extensions.mapM ((f.context files symbols).linkExtension f.package) = .ok extensions ∧
      file = ⟨f, messages, enums, services, extensions⟩ := by
  unfold linkFile at h
  split at h
  next => cases h
  next =>
    simp only [bind_eq_ok, pure_eq_ok] at h
    obtain ⟨messages, hm, enums, he, services, hs, extensions, hx, rfl⟩ := h
    exact ⟨messages, enums, services, extensions, hm, he, hs, hx, rfl⟩

theorem linkFile_decl (h : linkFile files symbols f = .ok file) : file.decl = f := by
  obtain ⟨_, _, _, _, _, _, _, _, rfl⟩ := linkFile_eq_ok h
  rfl

theorem decls_of_linked {linked : List File}
    (h : List.Forall₂ (fun f file => linkFile files symbols f = .ok file) fresh linked) :
    linked.map (·.decl) = fresh := by
  induction h with
  | nil => rfl
  | cons head _ ih => rw [List.map_cons, linkFile_decl head, ih]

/-- Linking succeeds when all names can be collected and then each file can be resolved. -/
theorem Pool.link_eq_ok : p.link fresh = .ok q ↔ ∃ symbols linked,
    fresh.foldlM FileDecl.define p.symbols = .ok symbols ∧
      List.Forall₂ (fun f file => linkFile (p.decls ++ fresh) symbols f = .ok file) fresh linked ∧
      q = ⟨p.files ++ linked⟩ := by
  simp only [link, bind_eq_ok, pure_eq_ok, mapM_eq_ok, decls]
  constructor
  · rintro ⟨symbols, hs, linked, hl, rfl⟩
    exact ⟨symbols, linked, hs, hl, rfl⟩
  · rintro ⟨symbols, linked, hs, hl, rfl⟩
    exact ⟨symbols, hs, linked, hl, rfl⟩

theorem Pool.link_decls (h : p.link fresh = .ok q) : q.decls = p.decls ++ fresh := by
  obtain ⟨symbols, linked, _, hl, rfl⟩ := link_eq_ok.1 h
  rw [decls, List.map_append, decls_of_linked hl, ← decls]

end DynamicRpc.Schema
