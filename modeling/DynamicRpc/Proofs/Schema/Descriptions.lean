import DynamicRpc.Proofs.Schema.FieldLines
import DynamicRpc.Proofs.Text.Blocks

/-!
Descriptions of messages as blocks. The margin of a line is handed down and gets wider on the way,
and yet what stands inside a message is the text that it has on its own, further in: a margin comes
before every line of a text, whatever the text. So descriptions are made of blocks, one for each
type that is written, and have all that is kept by these.
-/
namespace DynamicRpc.Schema

open Text

/-! What is written -/

/-- What a description begins with. -/
def Descriptor.head : Descriptor → String
  | .message m => "message " ++ m.name
  | .enum e => "enum " ++ e.name
  | .service s => "service " ++ s.name
  | .extension x => "extend " ++ x.extendee

/-- A type one level further in. -/
def deeper (x : Nat × Descriptor) : Nat × Descriptor := (x.1 + 1, x.2)

namespace MessageType

/-- The messages that are written inside a message: those that are no map entries. -/
def written (m : MessageType) : List MessageType := m.nested.filter (!·.mapEntry)

mutual

/-- The types that are written with a message, in this order and each with how deep it stands: the
message, and what is written inside of it. -/
def types : MessageType → List (Nat × Descriptor)
  | ⟨name, fullName, fields, oneofs, nested, enums, extensions, mapEntry⟩ =>
    (0, .message ⟨name, fullName, fields, oneofs, nested, enums, extensions, mapEntry⟩) ::
      (typesOf nested ++ enums.map fun e => (0, Descriptor.enum e)).map deeper

def typesOf : List MessageType → List (Nat × Descriptor)
  | [] => []
  | m :: rest => (if m.mapEntry then [] else m.types) ++ typesOf rest

end

end MessageType

namespace Pool

/-- The names in the lines of a message or an enum, less those of the types inside of it. -/
def ownNames (p : Pool) : Descriptor → List String
  | .message m => m.name :: m.fields.flatMap fun f => [f.name, p.typeText f]
  | .enum e => e.name :: e.values.map (·.name)
  | other => [other.name]

/-- All names in the text of a message. -/
def names (p : Pool) (m : MessageType) : List String := m.types.flatMap fun x => p.ownNames x.2

/-- The lines of a description without colours. -/
def texts (p : Pool) (d : Descriptor) : List String := (p.lines d).map (renderLine false)

def fieldText (p : Pool) (f : Field) : String :=
  (if p.isList f then "repeated " else "") ++ p.typeText f ++ " " ++ f.name ++ " = " ++
    toString f.number

def valueText (v : EnumValueDecl) : String := v.name ++ " = " ++ toString v.number

/-- The lines inside the braces of a message, as they are without these. -/
def body (p : Pool) (m : MessageType) : List String :=
  m.fields.map (fun f => p.fieldText f ++ ";") ++
    m.written.flatMap (fun n => p.texts (.message n)) ++ m.enums.flatMap fun e => p.texts (.enum e)

end Pool

/-! Induction over what is nested -/

namespace MessageType

theorem nesting {P : MessageType → Prop} (step : ∀ m, (∀ n ∈ m.nested, P n) → P m)
    (m : MessageType) : P m :=
  step m fun n (_ : n ∈ m.nested) => nesting step n
termination_by sizeOf m
decreasing_by
  cases m
  have smaller := List.sizeOf_lt_of_mem ‹n ∈ _›
  simp only [mk.sizeOf_spec]
  simp only at smaller
  omega

theorem typesOf_eq (ms : List MessageType) :
    typesOf ms = (ms.filter (!·.mapEntry)).flatMap types := by
  induction ms with
  | nil => rfl
  | cons m rest ih =>
    rw [typesOf, ih]
    cases h : m.mapEntry <;> simp [h]

theorem types_eq (m : MessageType) : m.types = (0, .message m) ::
    (m.written.flatMap types ++ m.enums.map fun e => (0, Descriptor.enum e)).map deeper := by
  obtain ⟨name, fullName, fields, oneofs, nested, enums, extensions, mapEntry⟩ := m
  rw [types, typesOf_eq]
  rfl

end MessageType

namespace EnumType

theorem mem_place {u v : EnumValueDecl} {vs : List EnumValueDecl} (h : u ∈ place v vs) :
    u = v ∨ u ∈ vs := by
  fun_induction place v vs with
  | case1 => simpa using h
  | case2 w before => simpa [or_comm] using h
  | case3 w after => simpa using h
  | case4 w w' rest before ih =>
    rcases List.mem_cons.1 h with rfl | h
    · exact .inr List.mem_cons_self
    · exact (ih h).imp_right (List.mem_cons_of_mem w)
  | case5 w w' rest after => simpa using h

theorem mem_foldl_place {u : EnumValueDecl} {values vs : List EnumValueDecl}
    (h : u ∈ values.foldl (fun vs v => place v vs) vs) : u ∈ vs ∨ u ∈ values := by
  induction values generalizing vs with
  | nil => exact .inl h
  | cons v rest ih =>
    rcases ih h with h | h
    · rcases mem_place h with rfl | h
      · exact .inr List.mem_cons_self
      · exact .inl h
    · exact .inr (List.mem_cons_of_mem v h)

theorem mem_sorted {e : EnumType} {u : EnumValueDecl} (h : u ∈ e.sorted) : u ∈ e.values :=
  (mem_foldl_place h).resolve_left List.not_mem_nil

end EnumType

namespace Pool

variable {p : Pool} {m : MessageType} {e : EnumType}

/-! Margins -/

theorem nestedLines_eq (p : Pool) (margin : String) (ms : List MessageType) :
    p.nestedLines margin ms = (ms.filter (!·.mapEntry)).flatMap (p.messageLines margin) := by
  induction ms with
  | nil => rfl
  | cons m rest ih =>
    rw [nestedLines, ih]
    cases h : m.mapEntry <;> simp [h]

theorem messageLines_eq (p : Pool) (margin : String) (m : MessageType) :
    p.messageLines margin m =
      (plain margin :: opening "message" m.name) ::
        m.fields.map (fun f => plain (innerMargin margin) :: p.fieldLine f) ++
        m.written.flatMap (p.messageLines (innerMargin margin)) ++
        m.enums.flatMap (·.lines (innerMargin margin)) ++ [plain margin :: closing] := by
  obtain ⟨name, fullName, fields, oneofs, nested, enums, extensions, mapEntry⟩ := m
  rw [messageLines, nestedLines_eq]
  rfl

theorem text_behind (margin : String) (l : Line) :
    renderLine false (plain margin :: l) = margin ++ renderLine false l := by
  simp [renderLine, Span.render, Text.plain, String.join_cons]

theorem text_opening (margin keyword name : String) :
    renderLine false (plain margin :: opening keyword name) =
      margin ++ (keyword ++ " " ++ name ++ " \x7b") := by
  rw [text_behind]
  simp [renderLine, Span.render, opening, Text.plain, String.join, String.append_assoc]

theorem text_closing (margin : String) :
    renderLine false (plain margin :: closing) = margin ++ "\x7d" := by
  rw [text_behind]
  rfl

/-- A margin before a margin, in front of all lines of a text. -/
theorem map_inner (margin : String) (ls : List String) :
    ls.map (innerMargin margin ++ ·) = (ls.map ("  " ++ ·)).map (margin ++ ·) := by
  rw [List.map_map]
  exact List.map_congr_left fun l _ => String.append_assoc

theorem map_enclose (margin head : String) (body : List String) :
    (enclose head body).map (margin ++ ·) =
      (margin ++ (head ++ " \x7b")) :: body.map (innerMargin margin ++ ·) ++
        [margin ++ "\x7d"] := by
  rw [enclose, map_inner, List.map_append, List.map_cons]
  rfl

theorem map_nothing (ls : List String) : ls.map ("" ++ ·) = ls :=
  List.map_id'' (fun _ => String.empty_append) ls

theorem text_valueLine (margin : String) (v : EnumValueDecl) :
    renderLine false (plain margin :: [plain s!"{v.name} = ", ⟨.purple, toString v.number⟩,
      plain ";"]) = margin ++ (valueText v ++ ";") := by
  rw [text_behind]
  simp [renderLine, Span.render, Text.plain, String.join, toString, valueText, String.append_assoc]

theorem text_enumLines (e : EnumType) (margin : String) :
    (e.lines margin).map (renderLine false) =
      (enclose ("enum " ++ e.name) (e.sorted.map fun v => valueText v ++ ";")).map
        (margin ++ ·) := by
  have values : e.sorted.map (renderLine false ∘ fun v =>
        plain (innerMargin margin) ::
          [plain s!"{v.name} = ", ⟨.purple, toString v.number⟩, plain ";"]) =
      e.sorted.map ((innerMargin margin ++ ·) ∘ fun v => valueText v ++ ";") :=
    List.map_congr_left fun v _ => text_valueLine (innerMargin margin) v
  rw [map_enclose, EnumType.lines, List.map_append, List.map_cons, text_opening, List.map_map,
    List.map_map, values, List.map_singleton, text_closing]
  rfl

theorem text_fields (p : Pool) (m : MessageType) (margin : String) :
    (m.fields.map fun f => plain margin :: p.fieldLine f).map (renderLine false) =
      (m.fields.map fun f => p.fieldText f ++ ";").map (margin ++ ·) := by
  rw [List.map_map, List.map_map]
  refine List.map_congr_left fun f _ => ?_
  exact (text_behind margin (p.fieldLine f)).trans (congrArg (margin ++ ·) (text_fieldLine p f))

theorem texts_enum (p : Pool) (e : EnumType) : p.texts (.enum e) =
    enclose ("enum " ++ e.name) (e.sorted.map fun v => valueText v ++ ";") :=
  (text_enumLines e "").trans (map_nothing _)

/-- A message is a block behind any margin. -/
theorem text_messageLines (p : Pool) (m : MessageType) (margin : String) :
    (p.messageLines margin m).map (renderLine false) =
      (enclose ("message " ++ m.name) (p.body m)).map (margin ++ ·) := by
  induction m using MessageType.nesting generalizing margin with
  | step m ih =>
    have own : ∀ n ∈ m.nested, ∀ margin, (p.messageLines margin n).map (renderLine false) =
        (p.texts (.message n)).map (margin ++ ·) := by
      intro n hn margin
      have alone : p.texts (.message n) = _ := ih n hn ""
      rw [ih n hn margin, alone, map_nothing]
    have nested : (m.written.flatMap (p.messageLines (innerMargin margin))).map (renderLine false) =
        (m.written.flatMap fun n => p.texts (.message n)).map (innerMargin margin ++ ·) := by
      rw [List.map_flatMap, List.map_flatMap]
      exact List.flatMap_congr fun n hn => own n (List.mem_of_mem_filter hn) (innerMargin margin)
    have enums : (m.enums.flatMap (·.lines (innerMargin margin))).map (renderLine false) =
        (m.enums.flatMap fun e => p.texts (.enum e)).map (innerMargin margin ++ ·) := by
      rw [List.map_flatMap, List.map_flatMap]
      exact List.flatMap_congr fun e _ => by rw [text_enumLines, texts_enum]
    rw [messageLines_eq, map_enclose, body]
    simp only [List.map_append, List.map_cons, List.map_nil, text_opening, text_closing,
      text_fields, nested, enums, List.cons_append, List.append_assoc]
    rfl

theorem texts_message (p : Pool) (m : MessageType) :
    p.texts (.message m) = enclose ("message " ++ m.name) (p.body m) :=
  (text_messageLines p m "").trans (map_nothing _)

/-! What is kept -/

theorem names_eq (p : Pool) (m : MessageType) : p.names m = p.ownNames (.message m) ++
    (m.written.flatMap p.names ++ m.enums.flatMap fun e => p.ownNames (.enum e)) := by
  rw [names, MessageType.types_eq, List.flatMap_cons, List.flatMap_map, List.flatMap_append,
    List.flatMap_assoc, List.flatMap_map]
  rfl

section

variable {P : String → Prop} {Q : List String → Prop}

theorem kept_valueText (kept : Kept P Q) {v : EnumValueDecl} (name : P v.name) :
    P (valueText v) :=
  kept.join _ _ (kept.join _ _ name (kept.plain " = " (by decide))) (kept.integer v.number)

theorem kept_fieldText (kept : Kept P Q) {f : Field} (name : P f.name) (type : P (p.typeText f)) :
    P (p.fieldText f) := by
  have label : P (if p.isList f then "repeated " else "") := by
    split <;> exact kept.plain _ (by decide)
  have before := kept.join _ _ (kept.join _ _ label type) (kept.plain " " (by decide))
  have named := kept.join _ _ (kept.join _ _ before name) (kept.plain " = " (by decide))
  exact kept.join _ _ named (kept.number f.number)

/-- What is kept holds of the text of an enum, if it holds of the names in it. -/
theorem kept_enum (kept : Kept P Q) (h : ∀ s ∈ p.ownNames (.enum e), P s) :
    Q (p.texts (.enum e)) := by
  have head : P ("enum " ++ e.name) :=
    kept.join _ _ (kept.plain "enum " (by decide)) (h e.name List.mem_cons_self)
  rw [texts_enum]
  refine kept.block _ _ head (kept.lines fun v hv => ?_)
  have mem : v.name ∈ e.values.map (·.name) := List.mem_map_of_mem (EnumType.mem_sorted hv)
  exact kept_valueText kept (h v.name (List.mem_cons_of_mem _ mem))

/-- What is kept holds of the text of a message, if it holds of the names in it. -/
theorem kept_message (kept : Kept P Q) (h : ∀ s ∈ p.names m, P s) :
    Q (p.texts (.message m)) := by
  induction m using MessageType.nesting with
  | step m ih =>
    rw [names_eq] at h
    have own : ∀ s ∈ p.ownNames (.message m), P s := fun s hs => h s (List.mem_append_left _ hs)
    have inside : ∀ s ∈ m.written.flatMap p.names ++
        m.enums.flatMap fun e => p.ownNames (.enum e), P s :=
      fun s hs => h s (List.mem_append_right _ hs)
    have fields : Q (m.fields.map fun f => p.fieldText f ++ ";") := by
      refine kept.lines fun f hf => ?_
      have mem : [f.name, p.typeText f] ⊆ p.ownNames (.message m) := fun s hs =>
        List.mem_cons_of_mem _ (List.mem_flatMap.2 ⟨f, hf, hs⟩)
      exact kept_fieldText kept (own _ (mem (by simp))) (own _ (mem (by simp)))
    have nested : Q (m.written.flatMap fun n => p.texts (.message n)) := by
      refine kept.flatMap fun n hn => ih n (List.mem_of_mem_filter hn) fun s hs => ?_
      exact inside s (List.mem_append_left _ (List.mem_flatMap.2 ⟨n, hn, hs⟩))
    have enums : Q (m.enums.flatMap fun e => p.texts (.enum e)) := by
      refine kept.flatMap fun e he => kept_enum kept fun s hs => ?_
      exact inside s (List.mem_append_right _ (List.mem_flatMap.2 ⟨e, he, hs⟩))
    have head : P ("message " ++ m.name) :=
      kept.join _ _ (kept.plain "message " (by decide)) (own m.name List.mem_cons_self)
    rw [texts_message]
    exact kept.block _ _ head (kept.append _ _ (kept.append _ _ fields nested) enums)

end

end Pool

end DynamicRpc.Schema
