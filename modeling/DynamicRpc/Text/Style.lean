/-!
Lines of text with coloured spans. Without colour a line is just its text.
-/
namespace DynamicRpc.Text

inductive Style where
  | plain
  | cyan
  | green
  | yellow
  | purple
  | headline
  deriving DecidableEq, Repr

/-- The code that starts a style; plain text has none. -/
def Style.code : Style → String
  | .plain => ""
  | .cyan => "36"
  | .green => "32"
  | .yellow => "33"
  | .purple => "35"
  | .headline => "1;31"

structure Span where
  style : Style
  text : String
  deriving DecidableEq, Repr

abbrev Line := List Span

def plain (s : String) : Span := ⟨.plain, s⟩

def reset : List Char := ['\x1b', '[', '0', 'm']

/-- Starts the style again after each reset inside the text. -/
def restart (start : List Char) : List Char → List Char
  | '\x1b' :: '[' :: '0' :: 'm' :: rest => reset ++ start ++ restart start rest
  | c :: rest => c :: restart start rest
  | [] => []

def Span.render (colour : Bool) (s : Span) : String :=
  if colour && s.style ≠ .plain then
    let start := '\x1b' :: '[' :: s.style.code.toList ++ ['m']
    String.ofList (start ++ restart start s.text.toList ++ reset)
  else s.text

def renderLine (colour : Bool) (l : Line) : String := String.join (l.map (·.render colour))

def renderLines (colour : Bool) (ls : List Line) : String :=
  String.intercalate "\n" (ls.map (renderLine colour))

end DynamicRpc.Text
