import Mathlib.Combinatorics.Enumerative.DyckWord

/-!
Texts of blocks. A block is a head with a brace, a body two blanks further in, and a brace on a line
of its own. In a text that is made of blocks and of lines with a semicolon at the end, the lines
that open and close blocks match whatever the text says; all braces match if they do in the heads
and in the lines, each for itself.
-/
namespace DynamicRpc.Text

open DyckStep

/-! Lines -/

/-- The lines of a text. -/
def linesOf (text : String) : List String := (text.toList.splitOn '\n').map String.ofList

/-- A text on one line. -/
def Unbroken (s : String) : Prop := '\n' ∉ s.toList

instance : DecidablePred Unbroken := fun s => inferInstanceAs (Decidable ('\n' ∉ s.toList))

theorem unbroken_append {s t : String} : Unbroken (s ++ t) ↔ Unbroken s ∧ Unbroken t := by
  rw [Unbroken, String.toList_append, List.mem_append, not_or]
  rfl

theorem linesOf_intercalate {ls : List String} (nonempty : ls ≠ [])
    (unbroken : ∀ l ∈ ls, Unbroken l) : linesOf ("\n".intercalate ls) = ls := by
  have split : (['\n'].intercalate (ls.map String.toList)).splitOn '\n' = ls.map String.toList := by
    refine List.splitOn_intercalate '\n' ?_ (by simpa using nonempty)
    intro cs hcs
    obtain ⟨l, hl, rfl⟩ := List.mem_map.1 hcs
    exact unbroken l hl
  rw [linesOf, String.toList_intercalate]
  refine (congrArg (List.map String.ofList) split).trans ?_
  rw [List.map_map]
  exact List.map_id'' (fun _ => String.ofList_toList) _

/-! Braces -/

/-- What a brace does. -/
def brace : Char → Option DyckStep
  | '\x7b' => some U
  | '\x7d' => some D
  | _ => none

/-- What a line does: it opens a block, closes one, or does neither. -/
def turn (line : String) : Option DyckStep := line.toList.getLast?.bind brace

/-- A text without braces and line breaks. -/
def Plain (s : String) : Prop := ∀ c ∈ s.toList, brace c = none ∧ c ≠ '\n'

instance : DecidablePred Plain := fun s =>
  List.decidableBAll (fun c => brace c = none ∧ c ≠ '\n') s.toList

/-- The marks among some things open and close in pairs. -/
def Balanced {α : Type} (mark : α → Option DyckStep) (as : List α) : Prop :=
  ∃ w : DyckWord, w.toList = as.filterMap mark

/-- The braces of a text match. -/
def Matched (s : String) : Prop := Balanced brace s.toList

namespace Balanced

variable {α : Type} {mark : α → Option DyckStep} {as bs : List α} {a b : α}

theorem of_none (none : ∀ a ∈ as, mark a = none) : Balanced mark as :=
  ⟨0, (List.filterMap_eq_nil_iff.2 none).symm⟩

theorem append (ha : Balanced mark as) (hb : Balanced mark bs) : Balanced mark (as ++ bs) := by
  obtain ⟨w, hw⟩ := ha
  obtain ⟨v, hv⟩ := hb
  exact ⟨w + v, by rw [List.filterMap_append, ← hw, ← hv]; rfl⟩

theorem nest (ha : mark a = some U) (h : Balanced mark as) (hb : mark b = some D) :
    Balanced mark (a :: as ++ [b]) := by
  obtain ⟨w, hw⟩ := h
  refine ⟨w.nest, ?_⟩
  rw [List.filterMap_append, List.filterMap_cons_some ha, ← hw, List.filterMap_cons_some hb]
  rfl

/-- Only the marks matter. -/
theorem congr (same : as.filterMap mark = bs.filterMap mark) (h : Balanced mark as) :
    Balanced mark bs := by
  obtain ⟨w, hw⟩ := h
  exact ⟨w, hw.trans same⟩

/-- As many marks close as open. -/
theorem count (h : Balanced mark as) :
    (as.filterMap mark).count U = (as.filterMap mark).count D := by
  obtain ⟨w, hw⟩ := h
  rw [← hw]
  exact w.count_U_eq_count_D

end Balanced

/-! Blocks -/

/-- A block. -/
def enclose (head : String) (body : List String) : List String :=
  (head ++ " \x7b") :: body.map ("  " ++ ·) ++ ["\x7d"]

/-- What holds of some lines whatever they are made of: of lines with a semicolon and of blocks, if
something holds of the text before the semicolon and of the heads; and the latter holds of texts
without braces and line breaks, and of all that is made of texts of which it holds. -/
structure Kept (P : String → Prop) (Q : List String → Prop) : Prop where
  plain (s : String) (h : Plain s) : P s
  join (s t : String) (hs : P s) (ht : P t) : P (s ++ t)
  nil : Q []
  append (as bs : List String) (ha : Q as) (hb : Q bs) : Q (as ++ bs)
  line (s : String) (h : P s) : Q [s ++ ";"]
  block (head : String) (body : List String) (hh : P head) (hb : Q body) : Q (enclose head body)

section

variable {P : String → Prop} {Q : List String → Prop}

theorem Kept.flatMap {α : Type} (kept : Kept P Q) {as : List α} {f : α → List String}
    (h : ∀ a ∈ as, Q (f a)) : Q (as.flatMap f) := by
  induction as with
  | nil => exact kept.nil
  | cons a rest ih =>
    rw [List.flatMap_cons]
    exact kept.append _ _ (h a List.mem_cons_self) (ih fun b hb => h b (List.mem_cons_of_mem a hb))

theorem Kept.lines {α : Type} (kept : Kept P Q) {as : List α} {f : α → String}
    (h : ∀ a ∈ as, P (f a)) : Q (as.map fun a => f a ++ ";") := by
  have all : Q (as.flatMap fun a => [f a ++ ";"]) := kept.flatMap fun a ha => kept.line _ (h a ha)
  rwa [← List.map_eq_flatMap] at all

/-- Numbers have neither braces nor line breaks. -/
theorem Kept.number (kept : Kept P Q) (n : Nat) : P (toString n) := by
  refine kept.plain _ fun c hc => ?_
  have digit : c.isDigit := Nat.isDigit_of_mem_toDigits (by decide) (by decide)
    (Nat.toList_repr (n := n) ▸ hc)
  constructor
  · unfold brace
    split
    · cases digit
    · cases digit
    · rfl
  · rintro rfl
    cases digit

theorem Kept.integer (kept : Kept P Q) : ∀ z : Int, P (toString z)
  | .ofNat n => kept.number n
  | .negSucc n => kept.join "-" _ (kept.plain _ (by decide)) (kept.number (n + 1))

end

/-! Lines stay lines -/

theorem kept_unbroken : Kept Unbroken fun ls => ∀ l ∈ ls, Unbroken l where
  plain s h mem := (h '\n' mem).2 rfl
  join s t hs ht := unbroken_append.2 ⟨hs, ht⟩
  nil := nofun
  append as bs ha hb l hl := (List.mem_append.1 hl).elim (ha l) (hb l)
  line s h l hl := by
    obtain rfl := List.mem_singleton.1 hl
    exact unbroken_append.2 ⟨h, by decide⟩
  block head body hh hb l hl := by
    simp only [enclose, List.cons_append, List.mem_cons, List.mem_append, List.mem_map,
      List.not_mem_nil, or_false] at hl
    rcases hl with rfl | ⟨l, mem, rfl⟩ | rfl
    · exact unbroken_append.2 ⟨hh, by decide⟩
    · exact unbroken_append.2 ⟨by decide, hb l mem⟩
    · decide

/-! Blocks match -/

theorem turn_append {s t : String} {c : Char} (h : t.toList.getLast? = some c) :
    turn (s ++ t) = brace c := by
  rw [turn, String.toList_append, List.getLast?_append, h]
  rfl

/-- Blanks in front do not change what a line does. -/
theorem turn_indented (l : String) : turn ("  " ++ l) = turn l := by
  cases h : l.toList.getLast? with
  | some c => rw [turn_append h, turn, h]; rfl
  | none =>
    have nothing : l = "" := String.toList_injective (by simpa using h)
    rw [nothing]
    rfl

theorem turn_head (head : String) : turn (head ++ " \x7b") = some U :=
  turn_append (c := '\x7b') (by decide)

theorem turn_line (s : String) : turn (s ++ ";") = none := turn_append (c := ';') (by decide)

theorem filterMap_turn_indented (ls : List String) :
    (ls.map ("  " ++ ·)).filterMap turn = ls.filterMap turn := by
  rw [List.filterMap_map]
  exact List.filterMap_congr fun l _ => turn_indented l

theorem kept_turns : Kept (fun _ => True) (Balanced turn) where
  plain _ _ := trivial
  join _ _ _ _ := trivial
  nil := .of_none nofun
  append as bs ha hb := ha.append hb
  line s _ := .of_none fun l hl => by
    obtain rfl := List.mem_singleton.1 hl
    exact turn_line s
  block head body _ hb :=
    .nest (turn_head head) (hb.congr (filterMap_turn_indented body).symm) rfl

/-! Braces match -/

theorem Plain.matched {s : String} (h : Plain s) : Matched s := .of_none fun c hc => (h c hc).1

theorem Matched.append {s t : String} (hs : Matched s) (ht : Matched t) : Matched (s ++ t) := by
  rw [Matched, String.toList_append]
  exact Balanced.append hs ht

/-- Line breaks do not change which braces there are. -/
theorem filterMap_brace_intercalate (ls : List String) :
    ("\n".intercalate ls).toList.filterMap brace = (ls.flatMap String.toList).filterMap brace := by
  rw [String.toList_intercalate]
  induction ls with
  | nil => rfl
  | cons l rest ih =>
    cases rest with
    | nil => simp
    | cons l' rest =>
      rw [List.map_cons, List.map_cons, List.intercalate_cons_cons, List.flatMap_cons,
        List.filterMap_append, List.filterMap_append, List.filterMap_append]
      rw [List.map_cons] at ih
      have none : "\n".toList.filterMap brace = [] := by decide
      rw [ih, none, List.append_nil]

theorem filterMap_brace_indented (ls : List String) :
    ((ls.map ("  " ++ ·)).flatMap String.toList).filterMap brace =
      (ls.flatMap String.toList).filterMap brace := by
  induction ls with
  | nil => rfl
  | cons l rest ih =>
    rw [List.map_cons, List.flatMap_cons, List.flatMap_cons, List.filterMap_append,
      List.filterMap_append, ih, String.toList_append, List.filterMap_append]
    rfl

theorem kept_braces : Kept Matched fun ls => Balanced brace (ls.flatMap String.toList) where
  plain s h := h.matched
  join s t hs ht := hs.append ht
  nil := .of_none nofun
  append as bs ha hb := by
    rw [List.flatMap_append]
    exact ha.append hb
  line s h := by
    rw [List.flatMap_singleton]
    have semicolon : Plain ";" := by decide
    exact h.append semicolon.matched
  block head body hh hb := by
    have inside := hb.congr (filterMap_brace_indented body).symm
    have braces : Balanced brace
        ('\x7b' :: (body.map ("  " ++ ·)).flatMap String.toList ++ ['\x7d']) :=
      .nest rfl inside rfl
    refine (Balanced.append hh braces).congr ?_
    simp [enclose, brace]

end DynamicRpc.Text
