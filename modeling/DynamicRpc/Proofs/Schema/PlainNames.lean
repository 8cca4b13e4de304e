import DynamicRpc.Proofs.Schema.Parts

/-!
Plain names, which hold no dots of their own. In a file of plain names the dots of a full name lie
between names that the file defines: its packages, and the messages around a definition. So all that
leads to a type is found in the file of the type.
-/
namespace DynamicRpc.Schema

variable {part whole : List FileDecl} {f : FileDecl}

/-- The last part of a name. -/
def Declared.name : Declared → String
  | .message _ m => m.name
  | .service _ s => s.name
  | .enum _ e => e.name
  | .extension _ x => x.name

/-- No declaration has a dot in its own name. -/
def FileDecl.Plain (f : FileDecl) : Prop := ∀ x ∈ f.declared, '.' ∉ x.name.toList

theorem toList_dotted (a b : String) :
    (a ++ "." ++ b).toList = a.toList ++ '.' :: b.toList := by
  simp

/-- What leads to a qualified name leads to its scope, or is it. -/
theorem outer_of_qualify {scope name outer tail : String} (plain : '.' ∉ name.toList)
    (h : qualify scope name = outer ++ "." ++ tail) :
    scope ≠ "" ∧ (outer = scope ∨ ∃ tail', scope = outer ++ "." ++ tail') := by
  have chars := congrArg String.toList h
  rw [toList_dotted] at chars
  unfold qualify at chars
  split at chars
  next =>
    rw [chars] at plain
    simp at plain
  next some =>
    refine ⟨by simpa using some, ?_⟩
    rw [toList_dotted, List.append_eq_append_iff] at chars
    rcases chars with ⟨more, before, after⟩ | ⟨more, before, after⟩
    · cases more with
      | nil => exact .inl (String.toList_inj.1 (by simpa using before))
      | cons c rest =>
        obtain ⟨_, own⟩ := List.cons.inj after
        simp [own] at plain
    · cases more with
      | nil => exact .inl (String.toList_inj.1 (by simpa using before.symm))
      | cons c rest =>
        obtain ⟨rfl, _⟩ := List.cons.inj after
        refine .inr ⟨String.ofList rest, String.toList_inj.1 ?_⟩
        rw [toList_dotted, before, String.toList_ofList]

theorem mem_dottedStarts (before cs : List Char) : before ++ cs ∈ dottedStarts before cs := by
  induction cs generalizing before with
  | nil => simp [dottedStarts]
  | cons c rest ih =>
    have whole := ih (before ++ [c])
    rw [List.append_assoc, List.singleton_append] at whole
    unfold dottedStarts
    split
    · exact List.mem_cons_of_mem _ whole
    · exact whole

theorem start_mem_dottedStarts (before a b : List Char) :
    before ++ a ∈ dottedStarts before (a ++ '.' :: b) := by
  induction a generalizing before with
  | nil => simp [dottedStarts]
  | cons c rest ih =>
    have start := ih (before ++ [c])
    rw [List.append_assoc, List.singleton_append] at start
    rw [List.cons_append]
    unfold dottedStarts
    split
    · exact List.mem_cons_of_mem _ start
    · exact start

/-- A package leads to its names, and so does all that leads to the package. -/
theorem mem_packageNames {package outer : String} (some : package ≠ "")
    (h : outer = package ∨ ∃ tail, package = outer ++ "." ++ tail) :
    outer ∈ packageNames package := by
  unfold packageNames
  rw [if_neg (by simpa using some)]
  refine List.mem_map.2 ⟨outer.toList, ?_, String.ofList_toList⟩
  rcases h with rfl | ⟨tail, rfl⟩
  · exact mem_dottedStarts [] _
  · rw [toList_dotted]
    exact start_mem_dottedStarts [] _ _

/-- All that leads to a name. -/
def Led (known : String → Prop) (name : String) : Prop :=
  ∀ outer tail, name = outer ++ "." ++ tail → known outer

/-- A scope that is known, and all that leads to it. -/
structure Opened (known : String → Prop) (scope : String) : Prop where
  here : scope ≠ "" → known scope
  outward : Led known scope

variable {known : String → Prop} {scope : String}

theorem Opened.qualify (h : Opened known scope) {name : String} (plain : '.' ∉ name.toList) :
    Led known (qualify scope name) := by
  intro outer tail same
  obtain ⟨some, here | ⟨tail', outward⟩⟩ := outer_of_qualify plain same
  · exact here ▸ h.here some
  · exact h.outward outer tail' outward

theorem enum_led (h : Opened known scope) {file : String} {e : EnumDecl}
    (plain : '.' ∉ e.name.toList) {y : Symbol} (hy : y ∈ e.symbols file scope)
    (type : Wanted.type.accepts y.definition) : Led known y.name := by
  simp only [EnumDecl.symbols, List.mem_cons, List.mem_map] at hy
  rcases hy with rfl | ⟨_, _, rfl⟩
  · exact h.qualify plain
  · cases type

mutual

theorem message_led (file scope : String) (m : MessageDecl)
    (plain : ∀ x ∈ m.declared scope, '.' ∉ x.name.toList) (h : Opened known scope)
    (ns : ∀ z ∈ m.symbols file scope, z.definition.isNamespace → known z.name) (y : Symbol)
    (hy : y ∈ m.symbols file scope) (type : Wanted.type.accepts y.definition) :
    Led known y.name := by
  cases m with
  | mk name fields oneofs nested enums extensions ranges reserved mapEntry =>
    simp only [MessageDecl.declared, List.mem_cons, List.mem_append, List.mem_map] at plain
    simp only [MessageDecl.symbols, List.mem_append, List.mem_cons, List.mem_map,
      List.mem_flatMap] at hy ns
    have here : Led known (qualify scope name) := h.qualify (plain _ (.inl rfl))
    have inner : Opened known (qualify scope name) :=
      ⟨fun _ => ns _ (.inl (.inl (.inl (.inl (.inl rfl))))) rfl, here⟩
    rcases hy with ((((rfl | ⟨_, _, rfl⟩) | ⟨_, _, rfl⟩) | hy) | ⟨e, he, hy⟩) | hy
    · exact here
    · cases type
    · cases type
    · refine symbolsOf_led file _ nested (fun x hx => ?_) inner (fun z hz => ?_) y hy type
      · exact plain x (.inr (.inl (.inl hx)))
      · exact ns z (.inl (.inl (.inr hz)))
    · exact enum_led inner (plain _ (.inr (.inl (.inr ⟨e, he, rfl⟩)))) hy type
    · obtain ⟨_, _, rfl⟩ := List.mem_map.1 hy
      cases type

theorem symbolsOf_led (file scope : String) (ms : List MessageDecl)
    (plain : ∀ x ∈ declaredOf scope ms, '.' ∉ x.name.toList) (h : Opened known scope)
    (ns : ∀ z ∈ symbolsOf file scope ms, z.definition.isNamespace → known z.name) (y : Symbol)
    (hy : y ∈ symbolsOf file scope ms) (type : Wanted.type.accepts y.definition) :
    Led known y.name := by
  cases ms with
  | nil => cases hy
  | cons m rest =>
    rcases List.mem_append.1 hy with hy | hy
    · refine message_led file scope m (fun x hx => plain x ?_) h (fun z hz => ns z ?_) y hy type
      · exact List.mem_append_left _ hx
      · exact List.mem_append_left _ hz
    · refine symbolsOf_led file scope rest (fun x hx => plain x ?_) h (fun z hz => ns z ?_) y hy
        type
      · exact List.mem_append_right _ hx
      · exact List.mem_append_right _ hz

end

/-- In a plain file all that leads to a type is a namespace of the file. -/
theorem FileDecl.Plain.led (plain : f.Plain) {y : Symbol} (hy : y ∈ f.symbols)
    (type : Wanted.type.accepts y.definition) : Led (Namespace [f]) y.name := by
  have ns : ∀ z ∈ f.symbols, z.definition.isNamespace → Namespace [f] z.name := by
    intro z hz h
    exact ⟨z, by simpa [symbolsOfFiles] using hz, rfl, h⟩
  have opened : Opened (Namespace [f]) f.package := by
    have package : ∀ n ∈ packageNames f.package, Namespace [f] n := by
      intro n hn
      refine ns ⟨n, f.path, .package⟩ ?_ rfl
      simp [symbols, hn]
    refine ⟨fun some => package _ (mem_packageNames some (.inl rfl)), fun outer tail h => ?_⟩
    refine package _ (mem_packageNames ?_ (.inr ⟨tail, h⟩))
    rintro empty
    simp [empty] at h
  simp only [symbols, List.mem_append, List.mem_map, List.mem_flatMap] at hy
  rcases hy with (((⟨_, _, rfl⟩ | hy) | ⟨e, he, hy⟩) | ⟨s, _, hy⟩) | hy
  · cases type
  · refine symbolsOf_led _ _ f.messages (fun x hx => plain x ?_) opened (fun z hz => ns z ?_) y hy
      type
    · simp [declared, hx]
    · simp [symbols, hz]
  · refine enum_led opened (plain (.enum f.package e) ?_) hy type
    simp [declared, he]
  · simp only [ServiceDecl.symbols, List.mem_cons, List.mem_map] at hy
    rcases hy with rfl | ⟨_, _, rfl⟩ <;> cases type
  · obtain ⟨_, _, rfl⟩ := List.mem_map.1 hy
    cases type

/-- Plain files bring the namespaces that lead to their types along. -/
theorem encloses_of_plain (plain : ∀ f ∈ part, f.Plain) : Encloses part whole := by
  intro y hy type outer tail name _
  obtain ⟨f, hf, hy⟩ := List.mem_flatMap.1 hy
  obtain ⟨z, hz, led⟩ := (plain f hf).led hy type outer tail name
  refine ⟨z, symbolsOfFiles_subset ?_ hz, led⟩
  simpa using hf

end DynamicRpc.Schema
