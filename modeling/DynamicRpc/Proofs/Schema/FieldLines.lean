import DynamicRpc.Proofs.Schema.TypeNames
import DynamicRpc.Schema.Render

/-!
Lines that describe fields. The line of a field has its label if the field is a list, its type, its
name and its number; that of an extension has no label, so it looks the same whether or not there
can be many values.
-/
namespace DynamicRpc.Schema

open Text

/-! The format -/

namespace Pool

/-- The type is a message for the entries of a map. -/
def IsEntry (p : Pool) (t : FieldType) : Prop :=
  ∃ m, t.message?.bind p.message? = some m ∧ m.mapEntry

/-- The type is a message for entries with these fields for key and value. -/
def EntryOf (p : Pool) (t : FieldType) (key value : Field) : Prop :=
  ∃ m, t.message?.bind p.message? = some m ∧ m.mapEntry ∧ m.field? 1 = some key ∧
    m.field? 2 = some value

/-- If the type is a message for entries, it has fields for key and value. -/
def Complete (p : Pool) (t : FieldType) : Prop := p.IsEntry t → ∃ key value, p.EntryOf t key value

theorem complete_iff {p : Pool} {t : FieldType} : p.Complete t ↔
    ∀ m, t.message?.bind p.message? = some m →
      m.mapEntry → (m.field? 1).isSome ∧ (m.field? 2).isSome := by
  constructor
  · intro complete m known entry
    obtain ⟨key, value, m', known', _, hkey, hvalue⟩ := complete ⟨m, known, entry⟩
    cases known.symm.trans known'
    exact ⟨Option.isSome_of_eq_some hkey, Option.isSome_of_eq_some hvalue⟩
  · rintro filled ⟨m, known, entry⟩
    obtain ⟨hasKey, hasValue⟩ := filled m known entry
    obtain ⟨key, hkey⟩ := Option.isSome_iff_exists.1 hasKey
    obtain ⟨value, hvalue⟩ := Option.isSome_iff_exists.1 hasValue
    exact ⟨key, value, m, known, entry, hkey, hvalue⟩

instance (p : Pool) (t : FieldType) : Decidable (p.Complete t) :=
  decidable_of_iff ((t.message?.bind p.message?).all fun m =>
    m.mapEntry → (m.field? 1).isSome ∧ (m.field? 2).isSome) <| by
      rw [complete_iff, Option.all_eq_true]
      simp only [decide_eq_true_eq]

/-- A line without colours. The label, if there is one, ends in a blank. -/
def lineText (label type : String) (f : Field) : String :=
  label ++ type ++ " " ++ f.name ++ " = " ++ toString f.number ++ ";"

/-- How a field is described: the label of a list, the name of its type, its own name and its
number. A map goes by the types of its keys and values in place of a label and the name of its
type. -/
inductive Describes (p : Pool) (f : Field) : String → Prop where
  | single (t : String) (label : f.label ≠ .repeated) (type : p.TypeName f.type t) :
    p.Describes f (lineText "" t f)
  | list (t : String) (label : f.label = .repeated) (plain : ¬ p.IsEntry f.type)
    (type : p.TypeName f.type t) : p.Describes f (lineText "repeated " t f)
  | map (key value : Field) (k v : String) (label : f.label = .repeated)
    (entry : p.EntryOf f.type key value) (keyType : p.TypeName key.type k)
    (valueType : p.TypeName value.type v) :
    p.Describes f (lineText "" ("map<" ++ k ++ ", " ++ v ++ ">") f)

/-! Lines of fields -/

variable {p : Pool} {f key value : Field} {x : Extension}

theorem mapEntry?_of_single (single : f.label ≠ .repeated) : p.mapEntry? f = none :=
  if_pos single

theorem mapEntry?_of_plain (plain : ¬ p.IsEntry f.type) : p.mapEntry? f = none := by
  unfold mapEntry?
  split
  next => rfl
  next =>
    split
    next => rfl
    next m known => rw [if_neg fun entry => plain ⟨m, known, entry⟩]

theorem mapEntry?_of_entry (repeated : f.label = .repeated) (entry : p.EntryOf f.type key value) :
    p.mapEntry? f = some (key, value) := by
  obtain ⟨m, known, entry, hkey, hvalue⟩ := entry
  unfold mapEntry?
  simp only [repeated, known, entry, hkey, hvalue]
  rfl

theorem text_fieldLine (p : Pool) (f : Field) : renderLine false (p.fieldLine f) =
    lineText (if p.isList f then "repeated " else "") (p.typeText f) f := by
  unfold fieldLine
  cases p.isList f <;>
    simp [renderLine, Span.render, String.join, Text.plain, lineText, toString,
      String.append_assoc]

theorem text_of_single (single : f.label ≠ .repeated) :
    renderLine false (p.fieldLine f) = lineText "" f.type.name f := by
  have text := text_fieldLine p f
  simp only [isList, typeText, mapEntry?_of_single single, single] at text
  exact text

theorem text_of_list (repeated : f.label = .repeated) (plain : ¬ p.IsEntry f.type) :
    renderLine false (p.fieldLine f) = lineText "repeated " f.type.name f := by
  have text := text_fieldLine p f
  simp only [isList, typeText, mapEntry?_of_plain plain, repeated] at text
  exact text

theorem text_of_map (repeated : f.label = .repeated) (entry : p.EntryOf f.type key value) :
    renderLine false (p.fieldLine f) =
      lineText "" ("map<" ++ key.type.name ++ ", " ++ value.type.name ++ ">") f := by
  have text := text_fieldLine p f
  simp only [isList, typeText, mapEntry?_of_entry repeated entry, Option.isNone_some,
    Bool.and_false, Bool.false_eq_true, if_false] at text
  simpa only [toString] using text

/-- Keys and values of a map have types of the pool. -/
theorem Linked.typed_of_entry (h : p.Linked) {t : FieldType} (entry : p.EntryOf t key value) :
    p.Typed key ∧ p.Typed value := by
  obtain ⟨m, known, _, hkey, hvalue⟩ := entry
  obtain ⟨name, _, found⟩ := Option.bind_eq_some_iff.1 known
  have mem : m ∈ p.messages := List.mem_of_find?_eq_some found
  exact ⟨h.field_typed mem (List.mem_of_find?_eq_some hkey),
    h.field_typed mem (List.mem_of_find?_eq_some hvalue)⟩

/-- The line of a field with a type of the pool describes it. -/
theorem Linked.describes (h : p.Linked) (typed : p.Typed f) (complete : p.Complete f.type) :
    p.Describes f (renderLine false (p.fieldLine f)) := by
  by_cases repeated : f.label = .repeated
  · by_cases isEntry : p.IsEntry f.type
    · obtain ⟨key, value, entry⟩ := complete isEntry
      obtain ⟨hkey, hvalue⟩ := h.typed_of_entry entry
      rw [text_of_map repeated entry]
      exact .map key value _ _ repeated entry hkey hvalue
    · rw [text_of_list repeated isEntry]
      exact .list _ repeated isEntry typed
  · rw [text_of_single repeated]
    exact .single _ repeated typed

theorem indent_fieldLine_mem {m : MessageType} (hf : f ∈ m.fields) :
    indent (p.fieldLine f) ∈ p.lines (.message m) := by
  have mem : indent (p.fieldLine f) ∈ m.fields.map fun f => indent (p.fieldLine f) :=
    List.mem_map_of_mem hf
  cases m
  simp only [lines, messageLines, List.cons_append, List.mem_cons, List.mem_append]
  exact .inr (.inl (.inl (.inl mem)))

/-! Lines of extensions -/

/-- The line inside the text of an extension. -/
def extensionLine (x : Extension) : Line :=
  [⟨.yellow, x.field.type.name⟩, Text.plain s!" {x.field.name} = {x.field.number};"]

/-- What is told of an extension: the name of its type, but no label. So its line is that of the
field if there is one value at most, and lacks the label of a list. -/
structure Tells (p : Pool) (x : Extension) : Prop where
  frame : p.lines (.extension x) = [opening "extend" x.extendee, indent (extensionLine x), closing]
  bare : ∃ t, p.TypeName x.field.type t ∧
    renderLine false (extensionLine x) = lineText "" t x.field
  single : x.field.label ≠ .repeated → extensionLine x = p.fieldLine x.field ∧
    p.Describes x.field (renderLine false (extensionLine x))
  list : x.field.label = .repeated → ¬ p.IsEntry x.field.type →
    renderLine false (p.fieldLine x.field) = "repeated " ++ renderLine false (extensionLine x) ∧
      p.Describes x.field (renderLine false (p.fieldLine x.field)) ∧
      ¬ p.Describes x.field (renderLine false (extensionLine x))

theorem text_extensionLine (x : Extension) :
    renderLine false (extensionLine x) = lineText "" x.field.type.name x.field := by
  simp [extensionLine, renderLine, Span.render, String.join, Text.plain, lineText, toString,
    String.append_assoc]

theorem extensionLine_of_single (single : x.field.label ≠ .repeated) :
    extensionLine x = p.fieldLine x.field := by
  simp only [fieldLine, isList, typeText, mapEntry?_of_single single, single]
  rfl

theorem text_of_list_extension (repeated : x.field.label = .repeated)
    (plain : ¬ p.IsEntry x.field.type) :
    renderLine false (p.fieldLine x.field) = "repeated " ++ renderLine false (extensionLine x) := by
  rw [text_of_list repeated plain, text_extensionLine]
  simp [lineText, String.append_assoc]

theorem lineText_ne (t : String) (f : Field) : lineText "" t f ≠ lineText "repeated " t f := by
  intro same
  have length := congrArg String.length same
  simp [lineText] at length

/-- A line without a label does not describe a list. -/
theorem not_describes_list (repeated : x.field.label = .repeated)
    (plain : ¬ p.IsEntry x.field.type) :
    ¬ p.Describes x.field (renderLine false (extensionLine x)) := by
  rw [text_extensionLine]
  generalize told : lineText "" x.field.type.name x.field = text
  rintro (⟨t, single, _⟩ | ⟨t, _, _, type⟩ | ⟨key, value, _, _, _, entry⟩)
  · exact single repeated
  · rw [type.name] at told
    exact lineText_ne t _ told
  · obtain ⟨m, known, entry, _⟩ := entry
    exact plain ⟨m, known, entry⟩

theorem Linked.tells (h : p.Linked) (hx : x ∈ p.extensions) : p.Tells x where
  frame := rfl
  bare := ⟨_, h.extension_typed hx, text_extensionLine x⟩
  single single := by
    refine ⟨extensionLine_of_single single, ?_⟩
    rw [text_extensionLine]
    exact .single _ single (h.extension_typed hx)
  list repeated plain := by
    refine ⟨text_of_list_extension repeated plain, ?_, not_describes_list repeated plain⟩
    exact h.describes (h.extension_typed hx) fun entry => absurd entry plain

/-- Every field of a message is described in the text of the message. The text of an extension
describes it if there is one value at most, and does not if it is a list. -/
theorem extension_lines_have_no_label (h : p.Linked) :
    (∀ m ∈ p.messages, ∀ f ∈ m.fields, p.Complete f.type →
      indent (p.fieldLine f) ∈ p.lines (.message m) ∧
        p.Describes f (renderLine false (p.fieldLine f))) ∧
    ∀ x ∈ p.extensions, p.Tells x := by
  refine ⟨fun m hm f hf complete => ⟨indent_fieldLine_mem hf, ?_⟩, fun x hx => h.tells hx⟩
  exact h.describes (h.field_typed hm hf) complete

/-- A field with nothing but what its line tells. -/
def sparse (name : String) (number : Int) (label : Label) (type : Nat) (typeName : Option String)
    (extendee : String) : FieldDecl :=
  ⟨name, number, label, type, typeName, extendee, none, none, none, none, false⟩

/-- A file with a message that has a list, and two extensions of it of which one is a list. -/
def taggedFile : FileDecl where
  name := some "m.proto"
  package := ""
  imports := []
  publicImports := []
  messages :=
    [⟨"M", [sparse "names" 1 .repeated 9 none ""], [], [], [], [], [⟨100, 200⟩], [], false⟩]
  enums := []
  services := []
  extensions := [sparse "tags" 100 .repeated 5 none ".M", sparse "mark" 101 .optional 5 none ".M"]
  syntaxName := ""

def taggedPool : Pool := (Pool.empty.link [taggedFile]).toOption.getD .empty

theorem taggedPool_linked : taggedPool.Linked := by
  have linked : (Pool.empty.link [taggedFile]).toOption.isSome := by decide +kernel
  obtain ⟨q, found⟩ := Option.isSome_iff_exists.1 linked
  have same : taggedPool = q := by rw [taggedPool, found, Option.getD_some]
  rw [same]
  exact .link .empty (Success.eq_ok_of_toOption found)

/-- The extension with the number 100. -/
def tags : Extension :=
  ⟨⟨"tags", "tags", 100, .repeated, .scalar .int32, "tags", none, false, false⟩, "M"⟩

theorem tags_mem : tags ∈ taggedPool.extensions := by decide +kernel

theorem tags_plain : ¬ taggedPool.IsEntry tags.field.type := by
  rintro ⟨m, known, _⟩
  cases known

/-- A list in a message is described, and an extension that is one is told without its label. -/
theorem tagged_file_is_described :
    taggedPool.Linked ∧
    (taggedPool.messages.map fun m => taggedPool.describe false (.message m)) =
      ["message M \x7b\n  repeated string names = 1;\n\x7d"] ∧
    (∀ m ∈ taggedPool.messages, ∀ f ∈ m.fields, taggedPool.Complete f.type →
      taggedPool.Describes f (renderLine false (taggedPool.fieldLine f))) ∧
    tags ∈ taggedPool.extensions ∧ taggedPool.Tells tags := by
  obtain ⟨fields, extensions⟩ := extension_lines_have_no_label taggedPool_linked
  exact ⟨taggedPool_linked, by decide +kernel,
    fun m hm f hf complete => (fields m hm f hf complete).2, tags_mem, extensions tags tags_mem⟩

/-- What is told of a list of extension values does not describe it. -/
theorem list_extension_shows_no_label :
    taggedPool.Linked ∧ tags ∈ taggedPool.extensions ∧ tags.field.label = .repeated ∧
    taggedPool.describe false (.extension tags) = "extend M \x7b\n  int32 tags = 100;\n\x7d" ∧
    ∀ line, taggedPool.lines (.extension tags) =
      [opening "extend" tags.extendee, indent line, closing] →
        ¬ taggedPool.Describes tags.field (renderLine false line) := by
  refine ⟨taggedPool_linked, tags_mem, rfl, by decide +kernel, fun line shown => ?_⟩
  have same : indent (extensionLine tags) = indent line :=
    (List.cons.inj (List.cons.inj shown).2).1
  rw [← (List.cons.inj same).2]
  exact not_describes_list rfl tags_plain

end Pool

end DynamicRpc.Schema
