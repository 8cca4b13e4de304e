import DynamicRpc.Number.Decimal

/-!
Socket addresses: an address of version 4 and a port, or one of version 6 in brackets, with an
optional scope, and a port.
-/
namespace DynamicRpc.Net

inductive SocketAddress where
  | v4 (octets : List Nat) (port : Nat)
  | v6 (groups : List Nat) (scope : Nat) (port : Nat)
  deriving DecidableEq, Repr

namespace SocketAddress

def hexDigit? (c : Char) : Option Nat :=
  if c.isDigit then some (c.toNat - 48)
  else if 'a' ≤ c && c ≤ 'f' then some (c.toNat - 87)
  else if 'A' ≤ c && c ≤ 'F' then some (c.toNat - 55)
  else none

def decimalDigit? (c : Char) : Option Nat := if c.isDigit then some (c.toNat - 48) else none

/-- How a number is written and how large it may be. -/
structure NumberRule where
  radix : Nat
  digit? : Char → Option Nat
  /-- No limit if zero. -/
  maxDigits : Nat
  leadingZeros : Bool
  max : Nat

def NumberRule.read? (r : NumberRule) (cs : List Char) : Option (Nat × List Char) :=
  let digits := cs.takeWhile fun c => (r.digit? c).isSome
  let n := digits.foldl (fun n c => n * r.radix + (r.digit? c).getD 0) 0
  if digits.isEmpty || n > r.max then none
  else if r.maxDigits ≠ 0 && digits.length > r.maxDigits then none
  else if !r.leadingZeros && digits.length > 1 && digits.head? = some '0' then none
  else some (n, cs.drop digits.length)

def octet : NumberRule := ⟨10, decimalDigit?, 3, false, 255⟩

def portNumber : NumberRule := ⟨10, decimalDigit?, 0, true, 65535⟩

def group : NumberRule := ⟨16, hexDigit?, 4, true, 65535⟩

def scopeNumber : NumberRule := ⟨10, decimalDigit?, 0, true, 0xffffffff⟩

def readChar? (c : Char) : List Char → Option (List Char)
  | d :: rest => if d = c then some rest else none
  | [] => none

def readV4? (cs : List Char) : Option (List Nat × List Char) := do
  let (a, cs) ← octet.read? cs
  let (b, cs) ← octet.read? (← readChar? '.' cs)
  let (c, cs) ← octet.read? (← readChar? '.' cs)
  let (d, cs) ← octet.read? (← readChar? '.' cs)
  return ([a, b, c, d], cs)

/-- Reads at most `limit` groups; the last two may be written as an address of version 4. Says
whether they were. -/
def readGroups (first : Bool) : Nat → List Char → List Nat × Bool × List Char
  | 0, cs => ([], false, cs)
  | limit + 1, cs =>
    match if first then some cs else readChar? ':' cs with
    | none => ([], false, cs)
    | some inner =>
      let embedded := if limit ≥ 1 then readV4? inner else none
      match embedded with
      | some ([a, b, c, d], rest) => ([a * 256 + b, c * 256 + d], true, rest)
      | _ =>
        match group.read? inner with
        | none => ([], false, cs)
        | some (g, rest) =>
          let (more, embeds, rest) := readGroups false limit rest
          (g :: more, embeds, rest)

def readV6? (cs : List Char) : Option (List Nat × List Char) := do
  let (front, embeds, cs) := readGroups true 8 cs
  if front.length = 8 then return (front, cs)
  else if embeds then none
  else
    let cs ← readChar? ':' (← readChar? ':' cs)
    let (back, _, cs) := readGroups true (7 - front.length) cs
    return (front ++ List.replicate (8 - front.length - back.length) 0 ++ back, cs)

def readPort? (cs : List Char) : Option Nat := do
  let (port, rest) ← portNumber.read? (← readChar? ':' cs)
  if rest.isEmpty then return port else none

def ofText? (s : String) : Option SocketAddress :=
  match readV4? s.toList with
  | some (octets, rest) => (readPort? rest).map (.v4 octets)
  | none => do
    let (groups, rest) ← readV6? (← readChar? '[' s.toList)
    let (scope, rest) ← match rest with
      | '%' :: r => scopeNumber.read? r
      | r => some (0, r)
    let port ← readPort? (← readChar? ']' rest)
    return .v6 groups scope port

def dotted (octets : List Nat) : String := String.intercalate "." (octets.map toString)

def hexText (n : Nat) : String := String.ofList (Nat.toDigits 16 n)

/-- Zeros at the start of a list. -/
def leadingZeros (gs : List Nat) : Nat := (gs.takeWhile (· = 0)).length

/-- Start and length of the first longest run of zeros. -/
def longestZeros (start : Nat) : List Nat → Nat × Nat
  | [] => (start, 0)
  | g :: rest =>
    let here := leadingZeros (g :: rest)
    let later := longestZeros (start + 1) rest
    if here ≥ later.2 then (start, here) else later

def groupsText (gs : List Nat) : String := String.intercalate ":" (gs.map hexText)

/-- The shortest form: the first longest run of two or more zeros is left out, and an embedded
address of version 4 is written as one. -/
def v6Text (groups : List Nat) : String :=
  match groups with
  | [0, 0, 0, 0, 0, 0xffff, a, b] =>
    "::ffff:" ++ dotted [a / 256, a % 256, b / 256, b % 256]
  | _ =>
    let (start, n) := longestZeros 0 groups
    if n > 1 then groupsText (groups.take start) ++ "::" ++ groupsText (groups.drop (start + n))
    else groupsText groups

def text : SocketAddress → String
  | .v4 octets port => s!"{dotted octets}:{port}"
  | .v6 groups scope port =>
    let mark := if scope = 0 then "" else s!"%{scope}"
    s!"[{v6Text groups}{mark}]:{port}"

def invalidMessage : String := "invalid socket address syntax"

end SocketAddress

end DynamicRpc.Net
