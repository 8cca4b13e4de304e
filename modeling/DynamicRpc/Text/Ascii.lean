import DynamicRpc.Text.Utf8

/-!
Comparison of text up to the case of ASCII letters, and the blank characters that are trimmed from
the ends of a text.
-/
namespace DynamicRpc.Text

def lowerAscii (s : String) : String := String.ofList (s.toList.map Char.toLower)

/-- Equal up to the case of ASCII letters. -/
def equalIgnoringCase (a b : String) : Bool := lowerAscii a = lowerAscii b

/-- Characters of the Unicode property White_Space. -/
def isBlank (c : Char) : Bool :=
  let n := c.toNat
  (9 ≤ n && n ≤ 13) || n = 0x20 || n = 0x85 || n = 0xa0 || n = 0x1680 ||
    (0x2000 ≤ n && n ≤ 0x200a) || n = 0x2028 || n = 0x2029 || n = 0x202f || n = 0x205f ||
    n = 0x3000

def trimStartChars (cs : List Char) : List Char := cs.dropWhile isBlank

def trimEndChars (cs : List Char) : List Char := (cs.reverse.dropWhile isBlank).reverse

def trim (s : String) : String := String.ofList (trimEndChars (trimStartChars s.toList))

def trimEnd (s : String) : String := String.ofList (trimEndChars s.toList)

/-- The parts before and after the first `c`, if there is one. -/
def splitFirst? (c : Char) (s : String) : Option (String × String) :=
  match s.toList.span (· ≠ c) with
  | (_, []) => none
  | (before, _ :: after) => some (String.ofList before, String.ofList after)

/-- The parts before and after the last `c`, if there is one. -/
def splitLast? (c : Char) (s : String) : Option (String × String) :=
  match s.toList.reverse.span (· ≠ c) with
  | (_, []) => none
  | (after, _ :: before) => some (String.ofList before.reverse, String.ofList after.reverse)

end DynamicRpc.Text
