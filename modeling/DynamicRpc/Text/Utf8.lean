/-!
Text and its bytes. A byte string reads as text only if it is well formed; the lenient reader puts
one replacement character for each longest part that could have begun a character.
-/
namespace DynamicRpc

/-- Byte strings, as they travel on a wire or lie in a file. -/
abbrev Bytes := List UInt8

namespace Text

def toBytes (s : String) : Bytes := s.toUTF8.data.toList

def ofBytes? (b : Bytes) : Option String := String.fromUTF8? ⟨b.toArray⟩

/-- A trailing byte of a character of several bytes. -/
def isContinuation (b : UInt8) : Bool := 0x80 ≤ b && b ≤ 0xbf

/-- Whether `b` may follow the lead byte `a` of a character of three or four bytes. -/
def maySecond (a b : UInt8) : Bool :=
  if a = 0xe0 then 0xa0 ≤ b && b ≤ 0xbf
  else if a = 0xed then 0x80 ≤ b && b ≤ 0x9f
  else if a = 0xf0 then 0x90 ≤ b && b ≤ 0xbf
  else if a = 0xf4 then 0x80 ≤ b && b ≤ 0x8f
  else isContinuation b

private def bits6 (b : UInt8) : Nat := b.toNat % 64

def replacement : Char := '\uFFFD'

/-- The first character, or a replacement for the longest part that could begin one, and how many
bytes it takes. -/
def lenientChar (a : UInt8) (r : Bytes) : Char × Nat :=
  if a < 0x80 then (Char.ofNat a.toNat, 1)
  else if 0xc2 ≤ a && a ≤ 0xdf then
    match r with
    | b :: _ =>
      if isContinuation b then (Char.ofNat (a.toNat % 32 * 64 + bits6 b), 2) else (replacement, 1)
    | [] => (replacement, 1)
  else if 0xe0 ≤ a && a ≤ 0xef then
    match r with
    | b :: c :: _ =>
      if maySecond a b then
        if isContinuation c then
          (Char.ofNat (a.toNat % 16 * 4096 + bits6 b * 64 + bits6 c), 3)
        else (replacement, 2)
      else (replacement, 1)
    | [b] => (replacement, if maySecond a b then 2 else 1)
    | [] => (replacement, 1)
  else if 0xf0 ≤ a && a ≤ 0xf4 then
    match r with
    | b :: c :: d :: _ =>
      if maySecond a b then
        if isContinuation c then
          if isContinuation d then
            (Char.ofNat (a.toNat % 8 * 262144 + bits6 b * 4096 + bits6 c * 64 + bits6 d), 4)
          else (replacement, 3)
        else (replacement, 2)
      else (replacement, 1)
    | [b, c] => (replacement, if maySecond a b then if isContinuation c then 3 else 2 else 1)
    | [b] => (replacement, if maySecond a b then 2 else 1)
    | [] => (replacement, 1)
  else (replacement, 1)

def lenientChars : Bytes → List Char
  | [] => []
  | a :: r =>
    let step := lenientChar a r
    step.1 :: lenientChars (r.drop (step.2 - 1))
  termination_by b => b.length

/-- Reads any bytes as text; what is not well formed shows as replacement characters. -/
def ofBytesLenient (b : Bytes) : String :=
  match ofBytes? b with
  | some s => s
  | none => String.ofList (lenientChars b)

end Text

end DynamicRpc
