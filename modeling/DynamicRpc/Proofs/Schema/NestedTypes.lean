import DynamicRpc.Proofs.Schema.Descriptions

/-!
What the text of a message shows of the types inside of it. Each of them is there once, with the
text that it has on its own; map entries are passed over with all that is in them, so a type inside
a map entry has no place in the text. In their stead the line of a map shows the types of its keys
and values, so an entry without one of these has no line that could be written.
-/
namespace DynamicRpc.Schema

open Text DyckStep

/-- As many margins as something stands deep. -/
def margin : Nat → String
  | 0 => ""
  | depth + 1 => "  " ++ margin depth

/-- The line that a description begins with where it stands. -/
def headLine (x : Nat × Descriptor) : String := margin x.1 ++ (x.2.head ++ " \x7b")

/-- The line opens a block. -/
def opens (line : String) : Bool := turn line = some U

/-- The fields of a message. -/
def Descriptor.fields : Descriptor → List Field
  | .message m => m.fields
  | _ => []

/-- Map entries with nothing inside but their fields. -/
def MessageType.PlainEntries (m : MessageType) : Prop :=
  ∀ n ∈ allOf m.nested, n.mapEntry → n.nested = [] ∧ n.enums = []

instance (m : MessageType) : Decidable m.PlainEntries :=
  inferInstanceAs
    (Decidable (∀ n ∈ MessageType.allOf m.nested, n.mapEntry → n.nested = [] ∧ n.enums = []))

namespace MessageType

/-- The messages inside a message, however deep, that are no map entries. -/
def inside (m : MessageType) : List MessageType := (allOf m.nested).filter (!·.mapEntry)

/-- The enums inside a message, however deep. -/
def allEnums (m : MessageType) : List EnumType := m.all.flatMap (·.enums)

/-- What a message holds so deep inside, and not in a map entry. -/
inductive Holds : MessageType → Nat → Descriptor → Prop where
  | self (m : MessageType) : Holds m 0 (.message m)
  | nested {m n : MessageType} {depth : Nat} {d : Descriptor} (mem : n ∈ m.nested)
    (plain : n.mapEntry = false) (inside : Holds n depth d) : Holds m (depth + 1) d
  | enum {m : MessageType} {e : EnumType} (mem : e ∈ m.enums) : Holds m 1 (.enum e)

end MessageType

/-- The entries of each map that is shown have fields for key and value. -/
def Pool.CompleteMaps (p : Pool) (m : MessageType) : Prop :=
  ∀ x ∈ m.types, ∀ f ∈ x.2.fields, f.label = .repeated → p.Complete f.type

instance (p : Pool) (m : MessageType) : Decidable (p.CompleteMaps m) :=
  inferInstanceAs
    (Decidable (∀ x ∈ m.types, ∀ f ∈ x.2.fields, f.label = .repeated → p.Complete f.type))

/-! Each type once -/

theorem margin_deeper (depth : Nat) (l : String) :
    margin (depth + 1) ++ l = "  " ++ (margin depth ++ l) :=
  String.append_assoc

theorem map_headLine_deeper (xs : List (Nat × Descriptor)) :
    (xs.map deeper).map headLine = (xs.map headLine).map ("  " ++ ·) := by
  rw [List.map_map, List.map_map]
  exact List.map_congr_left fun x _ => margin_deeper x.1 _

theorem filter_opens_enclose (head : String) (body : List String) :
    (enclose head body).filter opens =
      (head ++ " \x7b") :: (body.filter opens).map ("  " ++ ·) := by
  have first : opens (head ++ " \x7b") = true := by rw [opens, turn_head]; rfl
  have inside : (body.map ("  " ++ ·)).filter opens = (body.filter opens).map ("  " ++ ·) := by
    rw [List.filter_map]
    congr 1
    exact List.filter_congr fun l _ => by rw [Function.comp_apply, opens, opens, turn_indented]
  rw [enclose, List.filter_append, List.filter_cons_of_pos first, inside]
  exact List.append_nil _

theorem filter_opens_lines {α : Type} (f : α → String) (as : List α) :
    (as.map fun a => f a ++ ";").filter opens = [] := by
  rw [List.filter_eq_nil_iff]
  intro l hl
  obtain ⟨a, _, rfl⟩ := List.mem_map.1 hl
  rw [opens, turn_line]
  decide

namespace Pool

variable {p : Pool} {m : MessageType} {e : EnumType}

theorem filter_opens_enum (p : Pool) (e : EnumType) :
    (p.texts (.enum e)).filter opens = [headLine (0, .enum e)] := by
  rw [texts_enum, filter_opens_enclose, filter_opens_lines]
  exact congrArg (fun l => [l]) String.empty_append.symm

theorem filter_opens_message (p : Pool) (m : MessageType) :
    (p.texts (.message m)).filter opens = m.types.map headLine := by
  induction m using MessageType.nesting with
  | step m ih =>
    have nested : (m.written.flatMap fun n => p.texts (.message n)).filter opens =
        (m.written.flatMap MessageType.types).map headLine := by
      rw [List.filter_flatMap, List.map_flatMap]
      exact List.flatMap_congr fun n hn => ih n (List.mem_of_mem_filter hn)
    have enums : (m.enums.flatMap fun e => p.texts (.enum e)).filter opens =
        (m.enums.map fun e => (0, Descriptor.enum e)).map headLine := by
      rw [List.filter_flatMap, List.map_map, List.map_eq_flatMap]
      exact List.flatMap_congr fun e _ => filter_opens_enum p e
    have first : headLine (0, .message m) = "message " ++ m.name ++ " \x7b" := String.empty_append
    rw [texts_message, filter_opens_enclose, body, List.filter_append, List.filter_append,
      filter_opens_lines, nested, enums, List.nil_append, ← List.map_append, MessageType.types_eq,
      List.map_cons, map_headLine_deeper, first]

/-! Each type as on its own -/

theorem map_margin_deeper (depth : Nat) (ls : List String) :
    ls.map (margin (depth + 1) ++ ·) = (ls.map (margin depth ++ ·)).map ("  " ++ ·) := by
  rw [List.map_map]
  exact List.map_congr_left fun l _ => margin_deeper depth l

theorem infix_enclose {head : String} {body ls : List String} (h : ls <:+: body) :
    ls.map ("  " ++ ·) <:+: enclose head body := by
  obtain ⟨before, after, rfl⟩ := h
  refine ⟨(head ++ " \x7b") :: before.map ("  " ++ ·), after.map ("  " ++ ·) ++ ["\x7d"], ?_⟩
  simp only [enclose, List.map_append, List.cons_append, List.append_assoc]

theorem infix_flatMap {α : Type} {f : α → List String} {as : List α} {a : α} (h : a ∈ as) :
    f a <:+: as.flatMap f := by
  obtain ⟨before, after, rfl⟩ := List.append_of_mem h
  refine ⟨before.flatMap f, after.flatMap f, ?_⟩
  rw [List.flatMap_append, List.flatMap_cons, List.append_assoc (before.flatMap f)]

theorem infix_body_of_message {n : MessageType} (hn : n ∈ m.written) :
    p.texts (.message n) <:+: p.body m := by
  have found : p.texts (.message n) <:+: m.written.flatMap fun n => p.texts (.message n) :=
    infix_flatMap (f := fun n => p.texts (.message n)) hn
  exact (found.trans (List.suffix_append _ _).isInfix).trans (List.prefix_append _ _).isInfix

theorem infix_body_of_enum (he : e ∈ m.enums) : p.texts (.enum e) <:+: p.body m := by
  have found : p.texts (.enum e) <:+: m.enums.flatMap fun e => p.texts (.enum e) :=
    infix_flatMap (f := fun e => p.texts (.enum e)) he
  exact found.trans (List.suffix_append _ _).isInfix

/-- The lines of a type stand in the text around it in one piece, as deep as the type. -/
theorem infix_of_mem_types {depth : Nat} {d : Descriptor} (h : (depth, d) ∈ m.types) :
    (p.texts d).map (margin depth ++ ·) <:+: p.texts (.message m) := by
  induction m using MessageType.nesting generalizing depth d with
  | step m ih =>
    rw [MessageType.types_eq] at h
    rcases List.mem_cons.1 h with h | h
    · cases h
      rw [margin, map_nothing]
    · obtain ⟨⟨depth, d⟩, mem, same⟩ := List.mem_map.1 h
      cases same
      rw [map_margin_deeper, texts_message p m]
      refine infix_enclose ?_
      rcases List.mem_append.1 mem with mem | mem
      · obtain ⟨n, hn, mem⟩ := List.mem_flatMap.1 mem
        exact (ih n (List.mem_of_mem_filter hn) mem).trans (infix_body_of_message hn)
      · obtain ⟨e, he, same⟩ := List.mem_map.1 mem
        cases same
        rw [margin, map_nothing]
        exact infix_body_of_enum he

/-! The text by its lines -/

theorem enclose_ne_nil (head : String) (body : List String) : enclose head body ≠ [] :=
  List.cons_ne_nil _ _

theorem linesOf_describe_message (unbroken : ∀ s ∈ p.names m, Unbroken s) :
    linesOf (p.describe false (.message m)) = p.texts (.message m) := by
  have nonempty : p.texts (.message m) ≠ [] := texts_message p m ▸ enclose_ne_nil _ _
  exact linesOf_intercalate nonempty (kept_message kept_unbroken unbroken)

theorem linesOf_describe_enum (unbroken : ∀ s ∈ p.ownNames (.enum e), Unbroken s) :
    linesOf (p.describe false (.enum e)) = p.texts (.enum e) := by
  have nonempty : p.texts (.enum e) ≠ [] := texts_enum p e ▸ enclose_ne_nil _ _
  exact linesOf_intercalate nonempty (kept_enum kept_unbroken unbroken)

theorem names_of_written {n : MessageType} (hn : n ∈ m.written) : p.names n ⊆ p.names m := by
  intro s hs
  rw [names_eq]
  exact List.mem_append_right _ (List.mem_append_left _ (List.mem_flatMap.2 ⟨n, hn, hs⟩))

theorem names_of_enum (he : e ∈ m.enums) : p.ownNames (.enum e) ⊆ p.names m := by
  intro s hs
  rw [names_eq]
  exact List.mem_append_right _ (List.mem_append_right _ (List.mem_flatMap.2 ⟨e, he, hs⟩))

/-- If no name has a line break, the lines of any type in a message are the ones written for it. -/
theorem linesOf_describe (unbroken : ∀ s ∈ p.names m, Unbroken s) :
    ∀ x ∈ m.types, linesOf (p.describe false x.2) = p.texts x.2 := by
  induction m using MessageType.nesting with
  | step m ih =>
    intro x hx
    rw [MessageType.types_eq] at hx
    rcases List.mem_cons.1 hx with rfl | hx
    · exact linesOf_describe_message unbroken
    obtain ⟨y, mem, rfl⟩ := List.mem_map.1 hx
    rcases List.mem_append.1 mem with mem | mem
    · obtain ⟨n, hn, mem⟩ := List.mem_flatMap.1 mem
      have inside : ∀ s ∈ p.names n, Unbroken s := fun s hs => unbroken s (names_of_written hn hs)
      exact ih n (List.mem_of_mem_filter hn) inside y mem
    · obtain ⟨e, he, rfl⟩ := List.mem_map.1 mem
      exact linesOf_describe_enum fun s hs => unbroken s (names_of_enum he hs)

end Pool

/-! All types -/

namespace MessageType

variable {m : MessageType}

theorem all_eq (m : MessageType) : m.all = m :: allOf m.nested := by
  cases m
  rw [all]

theorem allOf_eq (ms : List MessageType) : allOf ms = ms.flatMap all := by
  induction ms with
  | nil => rfl
  | cons m rest ih => rw [allOf, ih, List.flatMap_cons]

/-- A walk over the messages inside a message is one over those that are written, if it finds
nothing in map entries. -/
theorem flatMap_written {α : Type} {f : MessageType → List α}
    (nothing : ∀ n ∈ m.nested, n.mapEntry → f n = []) :
    m.written.flatMap f = m.nested.flatMap f := by
  rw [written]
  generalize m.nested = ms at nothing
  induction ms with
  | nil => rfl
  | cons n rest ih =>
    have others := ih fun n hn => nothing n (List.mem_cons_of_mem _ hn)
    cases h : n.mapEntry with
    | false =>
      rw [List.filter_cons_of_pos (by simp [h]), List.flatMap_cons, List.flatMap_cons, others]
    | true =>
      rw [List.filter_cons_of_neg (by simp [h]), List.flatMap_cons,
        nothing n List.mem_cons_self h, others, List.nil_append]

theorem PlainEntries.of_mem (plain : m.PlainEntries) {n : MessageType} (hn : n ∈ m.nested) :
    n.PlainEntries := fun k hk => plain k <| by
  rw [allOf_eq, List.mem_flatMap]
  exact ⟨n, hn, by rw [all_eq]; exact List.mem_cons_of_mem n hk⟩

theorem PlainEntries.nested_eq (plain : m.PlainEntries) {n : MessageType} (hn : n ∈ m.nested)
    (entry : n.mapEntry) : n.nested = [] ∧ n.enums = [] := by
  refine plain n ?_ entry
  rw [allOf_eq, List.mem_flatMap]
  exact ⟨n, hn, by rw [all_eq]; exact List.mem_cons_self⟩

theorem PlainEntries.inside_eq (plain : m.PlainEntries) :
    m.inside = m.written.flatMap fun n => n :: n.inside := by
  have entries : ∀ n ∈ m.nested, n.mapEntry → n.all.filter (!·.mapEntry) = [] := by
    intro n hn entry
    rw [all_eq, (plain.nested_eq hn entry).1, allOf, List.filter_cons_of_neg (by simp [entry])]
    rfl
  rw [inside, allOf_eq, List.filter_flatMap, ← flatMap_written entries]
  refine List.flatMap_congr fun n hn => ?_
  rw [all_eq, List.filter_cons_of_pos (List.of_mem_filter hn), inside]

theorem PlainEntries.allEnums_eq (plain : m.PlainEntries) :
    m.allEnums = m.enums ++ m.written.flatMap allEnums := by
  have entries : ∀ n ∈ m.nested, n.mapEntry → n.allEnums = [] := by
    intro n hn entry
    obtain ⟨nested, enums⟩ := plain.nested_eq hn entry
    rw [allEnums, all_eq, nested, allOf, List.flatMap_singleton, enums]
  rw [allEnums, all_eq, List.flatMap_cons, allOf_eq, List.flatMap_assoc, flatMap_written entries]
  rfl

theorem holds_of_mem_types {depth : Nat} {d : Descriptor} (h : (depth, d) ∈ m.types) :
    m.Holds depth d := by
  induction m using nesting generalizing depth d with
  | step m ih =>
    rw [types_eq] at h
    rcases List.mem_cons.1 h with h | h
    · cases h
      exact .self m
    obtain ⟨⟨depth, d⟩, mem, same⟩ := List.mem_map.1 h
    cases same
    rcases List.mem_append.1 mem with mem | mem
    · obtain ⟨n, hn, mem⟩ := List.mem_flatMap.1 mem
      have plain : n.mapEntry = false := by simpa using List.of_mem_filter hn
      have known := List.mem_of_mem_filter hn
      exact .nested known plain (ih n known mem)
    · obtain ⟨e, he, same⟩ := List.mem_map.1 mem
      cases same
      exact .enum he

theorem Holds.mem_types {depth : Nat} {d : Descriptor} (h : m.Holds depth d) :
    (depth, d) ∈ m.types := by
  induction h with
  | self m =>
    rw [types_eq]
    exact List.mem_cons_self
  | @nested m n depth d mem plain _ ih =>
    have written : n ∈ m.written := List.mem_filter.2 ⟨mem, by rw [plain]; rfl⟩
    rw [types_eq]
    refine List.mem_cons_of_mem _ (List.mem_map.2 ⟨(depth, d), ?_, rfl⟩)
    exact List.mem_append_left _ (List.mem_flatMap.2 ⟨n, written, ih⟩)
  | @enum m e mem =>
    rw [types_eq]
    refine List.mem_cons_of_mem _ (List.mem_map.2 ⟨(0, .enum e), ?_, rfl⟩)
    exact List.mem_append_right _ (List.mem_map.2 ⟨e, mem, rfl⟩)

/-- If there is nothing inside of map entries, all messages but these and all enums are written,
each of them once. -/
theorem PlainEntries.types_perm (plain : m.PlainEntries) :
    (m.types.map (·.2)).Perm ((m :: m.inside).map .message ++ m.allEnums.map .enum) := by
  induction m using nesting with
  | step m ih =>
    have below : ∀ n ∈ m.written,
        (n.types.map (·.2)).Perm ((n :: n.inside).map .message ++ n.allEnums.map .enum) :=
      fun n hn => ih n (List.mem_of_mem_filter hn) (plain.of_mem (List.mem_of_mem_filter hn))
    have nested : (m.written.flatMap fun n => n.types.map (·.2)).Perm
        (m.inside.map .message ++ (m.written.flatMap allEnums).map .enum) := by
      rw [plain.inside_eq, List.map_flatMap, List.map_flatMap]
      exact (List.Perm.flatMap_left _ below).trans (List.flatMap_append_perm _ _ _).symm
    have all : m.types.map (·.2) = .message m ::
        ((m.written.flatMap fun n => n.types.map (·.2)) ++ m.enums.map .enum) := by
      rw [types_eq, List.map_cons, List.map_map, List.map_append, List.map_flatMap, List.map_map]
      rfl
    rw [all, plain.allEnums_eq, List.map_cons, List.map_append]
    refine .cons _ ((nested.append_right _).trans ?_)
    rw [List.append_assoc]
    exact List.perm_append_comm.append_left _

end MessageType

namespace Pool

variable {p : Pool} {m : MessageType}

/-- How the text of a message is made of the texts of what is inside of it. -/
structure ShowsTypes (p : Pool) (m : MessageType) : Prop where
  /-- The lines of the fields, the texts of the messages that are no map entries and those of the
  enums, all of them further in and in braces. -/
  layout : linesOf (p.describe false (.message m)) =
    ("message " ++ m.name ++ " \x7b") ::
      m.fields.map (fun f => "  " ++ renderLine false (p.fieldLine f)) ++
      m.written.flatMap
        (fun n => (linesOf (p.describe false (.message n))).map ("  " ++ ·)) ++
      m.enums.flatMap (fun e => (linesOf (p.describe false (.enum e))).map ("  " ++ ·)) ++
      ["\x7d"]
  /-- The line of a map has the types of its keys and values. -/
  maps : ∀ x ∈ m.types, ∀ f ∈ x.2.fields, f.label = .repeated → p.IsEntry f.type →
    ∃ key value, p.EntryOf f.type key value ∧ renderLine false (p.fieldLine f) =
      lineText "" ("map<" ++ key.type.name ++ ", " ++ value.type.name ++ ">") f
  /-- The types that are written are those that the message holds outside of map entries. -/
  held : ∀ depth d, (depth, d) ∈ m.types ↔ m.Holds depth d
  /-- The lines that open a block are those of the types that are written, one for each. -/
  once : (linesOf (p.describe false (.message m))).filter opens = m.types.map headLine
  /-- A type inside the message is described as it is on its own. -/
  alone : ∀ x ∈ m.types, (linesOf (p.describe false x.2)).map (margin x.1 ++ ·) <:+:
    linesOf (p.describe false (.message m))
  /-- With nothing inside of map entries, each other message and each enum is there once. -/
  complete : m.PlainEntries → (m.types.map (·.2)).Perm
    ((m :: m.inside).map .message ++ m.allEnums.map .enum)
  /-- The lines that open and close blocks match. -/
  blocks : Balanced turn (linesOf (p.describe false (.message m)))
  /-- All braces match if they do in each name. -/
  braces : (∀ s ∈ p.names m, Matched s) → Matched (p.describe false (.message m))

theorem layout_of_unbroken (unbroken : ∀ s ∈ p.names m, Unbroken s) :
    linesOf (p.describe false (.message m)) =
      ("message " ++ m.name ++ " \x7b") ::
        m.fields.map (fun f => "  " ++ renderLine false (p.fieldLine f)) ++
        m.written.flatMap
          (fun n => (linesOf (p.describe false (.message n))).map ("  " ++ ·)) ++
        m.enums.flatMap (fun e => (linesOf (p.describe false (.enum e))).map ("  " ++ ·)) ++
        ["\x7d"] := by
  have fields : (m.fields.map fun f => p.fieldText f ++ ";").map ("  " ++ ·) =
      m.fields.map fun f => "  " ++ renderLine false (p.fieldLine f) := by
    rw [List.map_map]
    exact List.map_congr_left fun f _ => congrArg ("  " ++ ·) (text_fieldLine p f).symm
  have nested : (m.written.flatMap fun n => p.texts (.message n)).map ("  " ++ ·) =
      m.written.flatMap
        fun n => (linesOf (p.describe false (.message n))).map ("  " ++ ·) := by
    rw [List.map_flatMap]
    refine List.flatMap_congr fun n hn => ?_
    rw [linesOf_describe_message fun s hs => unbroken s (names_of_written hn hs)]
  have enums : (m.enums.flatMap fun e => p.texts (.enum e)).map ("  " ++ ·) =
      m.enums.flatMap fun e => (linesOf (p.describe false (.enum e))).map ("  " ++ ·) := by
    rw [List.map_flatMap]
    refine List.flatMap_congr fun e he => ?_
    rw [linesOf_describe_enum fun s hs => unbroken s (names_of_enum he hs)]
  rw [linesOf_describe_message unbroken, texts_message, enclose, body, List.map_append,
    List.map_append, fields, nested, enums]
  simp only [List.cons_append, List.append_assoc]

/-- The text of a message with any types inside of it, if no name in the text has a line break and
the entries of each map have fields for key and value. -/
theorem types_are_shown_in_place (unbroken : ∀ s ∈ p.names m, Unbroken s)
    (complete : p.CompleteMaps m) : p.ShowsTypes m where
  layout := layout_of_unbroken unbroken
  maps x hx f hf repeated isEntry := by
    obtain ⟨key, value, entry⟩ := complete x hx f hf repeated isEntry
    exact ⟨key, value, entry, text_of_map repeated entry⟩
  held _ _ := ⟨MessageType.holds_of_mem_types, MessageType.Holds.mem_types⟩
  once := by rw [linesOf_describe_message unbroken, filter_opens_message]
  alone x hx := by
    rw [linesOf_describe unbroken x hx, linesOf_describe_message unbroken]
    exact infix_of_mem_types hx
  complete := MessageType.PlainEntries.types_perm
  blocks := by
    rw [linesOf_describe_message unbroken]
    exact kept_message kept_turns fun _ _ => trivial
  braces matched := by
    have braces := kept_message kept_braces matched
    exact braces.congr (filterMap_brace_intercalate (p.texts (.message m))).symm

/-! Orders -/

theorem sortFields_sorted {fs : List Field} (sorted : fs.Pairwise (·.number ≤ ·.number)) :
    sortFields fs = fs := List.mergeSort_of_pairwise (by simpa using sorted)

/-- A message with nothing but what its text shows. -/
def bare (name : String) (fields : List FieldDecl) (nested : List MessageDecl)
    (enums : List EnumDecl) (mapEntry : Bool) : MessageDecl :=
  ⟨name, fields, [], nested, enums, [], [], [], mapEntry⟩

/-- Orders have a map, parts with an enum, and an enum; there may be a message in the entries of the
map. Another message has a brace in its name. -/
def storeFile (filled : Bool) : FileDecl where
  name := some "m.proto"
  package := ""
  imports := []
  publicImports := []
  messages :=
    [bare "Order" [sparse "counts" 1 .repeated 11 (some ".Order.CountsEntry") ""]
      [bare "CountsEntry" [sparse "key" 1 .optional 9 none "", sparse "value" 2 .optional 5 none ""]
        (if filled then [bare "Inner" [] [] [] false] else []) [] true,
        bare "Part" [] [] [⟨"Unit", [⟨"PIECE", 0⟩], [], false⟩] false]
      [⟨"State", [⟨"OPEN", 0⟩], [], false⟩] false,
    bare "N\x7b" [] [] [] false]
  enums := []
  services := []
  extensions := []
  syntaxName := ""

def entryFields : List Field :=
  [⟨"key", "Order.CountsEntry.key", 1, .optional, .scalar .text, "key", none, false, true⟩,
    ⟨"value", "Order.CountsEntry.value", 2, .optional, .scalar .int32, "value", none, false, true⟩]

def hidden : MessageType := ⟨"Inner", "Order.CountsEntry.Inner", [], [], [], [], [], false⟩

def order (filled : Bool) : MessageType :=
  ⟨"Order", "Order",
    [⟨"counts", "Order.counts", 1, .repeated, .message "Order.CountsEntry", "counts", none, false,
      false⟩], [],
    [⟨"CountsEntry", "Order.CountsEntry", entryFields, [], if filled then [hidden] else [], [], [],
        true⟩,
      ⟨"Part", "Order.Part", [], [], [], [⟨"Unit", "Order.Part.Unit", [⟨"PIECE", 0⟩]⟩], [], false⟩],
    [⟨"State", "Order.State", [⟨"OPEN", 0⟩]⟩], [], false⟩

def braced : MessageType := ⟨"N\x7b", "N\x7b", [], [], [], [], [], false⟩

def storePool (filled : Bool) : Pool :=
  ⟨[⟨storeFile filled, [order filled, braced], [], [], []⟩]⟩

theorem entryFields_sorted : sortFields entryFields = entryFields := sortFields_sorted (by decide)

theorem storePool_linked (filled : Bool) : (storePool filled).Linked := by
  have linked : Pool.empty.link [storeFile filled] = .ok (storePool filled) := by
    rw [storePool, order, ← entryFields_sorted]
    cases filled <;> with_unfolding_all rfl
  exact .link .empty linked

theorem order_mem (filled : Bool) : order filled ∈ (storePool filled).messages :=
  List.mem_cons_self

def orderLines : List String :=
  ["message Order \x7b",
    "  map<string, int32> counts = 1;",
    "  message Part \x7b",
    "    enum Unit \x7b",
    "      PIECE = 0;",
    "    \x7d",
    "  \x7d",
    "  enum State \x7b",
    "    OPEN = 0;",
    "  \x7d",
    "\x7d"]

theorem lines_order (filled : Bool) :
    linesOf ((storePool filled).describe false (.message (order filled))) = orderLines := by
  cases filled <;> decide +kernel

/-- All types of an order are in its text, if there is nothing in the entries of its map. -/
theorem order_shows_its_types :
    (storePool false).Linked ∧ order false ∈ (storePool false).messages ∧
    (∀ s ∈ (storePool false).names (order false), Unbroken s) ∧
    (storePool false).CompleteMaps (order false) ∧
    (storePool false).ShowsTypes (order false) ∧ (order false).PlainEntries ∧
    Matched ((storePool false).describe false (.message (order false))) ∧
    linesOf ((storePool false).describe false (.message (order false))) = orderLines := by
  have unbroken : ∀ s ∈ (storePool false).names (order false), Unbroken s := by decide +kernel
  have complete : (storePool false).CompleteMaps (order false) := by decide +kernel
  have shows := types_are_shown_in_place unbroken complete
  have plain : ∀ s ∈ (storePool false).names (order false), Plain s := by decide +kernel
  exact ⟨storePool_linked false, order_mem false, unbroken, complete, shows, by decide +kernel,
    shows.braces fun s hs => (plain s hs).matched, lines_order false⟩

/-- A message in the entries of a map is in the text at no depth, and a brace in a name has none
that matches it. -/
theorem map_entry_hides_message :
    (storePool true).Linked ∧ order true ∈ (storePool true).messages ∧
    (∀ s ∈ (storePool true).names (order true), Unbroken s) ∧
    (storePool true).CompleteMaps (order true) ∧
    hidden ∈ (order true).inside ∧
    linesOf ((storePool true).describe false (.message (order true))) = orderLines ∧
    (∀ depth, headLine (depth, .message hidden) ∉
      linesOf ((storePool true).describe false (.message (order true)))) ∧
    braced ∈ (storePool true).messages ∧
    (∀ s ∈ (storePool true).names braced, Unbroken s) ∧
    ¬ Matched ((storePool true).describe false (.message braced)) := by
  have hidden_mem : hidden ∈ (order true).inside :=
    List.mem_filter.2 ⟨List.mem_cons_of_mem _ List.mem_cons_self, rfl⟩
  have braced_mem : braced ∈ (storePool true).messages := by
    refine List.mem_flatMap.2 ⟨_, List.mem_cons_self, ?_⟩
    simp [File.allMessages, MessageType.allOf, MessageType.all, braced]
  refine ⟨storePool_linked true, order_mem true, by decide +kernel, by decide +kernel, hidden_mem,
    lines_order true, fun depth shown => ?_, braced_mem, by decide +kernel, fun matched => ?_⟩
  · have ending : "message Inner \x7b".toList <:+ (headLine (depth, .message hidden)).toList := by
      rw [headLine, String.toList_append]
      exact List.suffix_append _ _
    have others : ∀ l ∈ orderLines, ¬ "message Inner \x7b".toList <:+ l.toList := by
      decide +kernel
    rw [lines_order] at shown
    exact others _ shown ending
  · have odd := matched.count
    revert odd
    decide +kernel

end Pool

end DynamicRpc.Schema
