import DynamicRpc.Date
import DynamicRpc.Tls.Fault

/-!
Reading of tagged values: a tag, a length in its shortest form, and so many bytes. Tags have one
byte and lengths at most two.
-/
namespace DynamicRpc.Tls.Der

/-- A reader takes values from the front of the bytes. -/
abbrev Read := StateT Bytes (Except CertificateFault)

inductive Tag where
  | boolean
  | integer
  | bitString
  | octetString
  | oid
  | sequence
  | utcTime
  | generalizedTime
  /-- A context-specific tag of a value made of values. -/
  | context (n : Nat)
  deriving DecidableEq, Repr

def Tag.byte : Tag → UInt8
  | boolean => 0x01
  | integer => 0x02
  | bitString => 0x03
  | octetString => 0x04
  | oid => 0x06
  | sequence => 0x30
  | utcTime => 0x17
  | generalizedTime => 0x18
  | context n => UInt8.ofNat (0xa0 + n)

def malformed : CertificateFault := .encoding .value

def trailing : CertificateFault := .encoding .trailing

/-- Contents are shorter than this. -/
def maxLength : Nat := 65535

/-- A length in its shortest form. -/
def splitLength? : Bytes → Option (Nat × Bytes)
  | 0x81 :: a :: rest => if a.toNat < 128 then none else some (a.toNat, rest)
  | 0x82 :: a :: b :: rest =>
    let n := a.toNat * 256 + b.toNat
    if n < 256 then none else some (n, rest)
  | a :: rest => if a.toNat < 128 then some (a.toNat, rest) else none
  | [] => none

/-- Tag, content and what comes after them. -/
def split? : Bytes → Option (UInt8 × Bytes × Bytes)
  | tag :: b =>
    match splitLength? b with
    | some (n, rest) =>
      if tag.toNat % 32 = 31 || maxLength ≤ n || rest.length < n then none
      else some (tag, rest.take n, rest.drop n)
    | none => none
  | [] => none

/-- Any value, with its tag. -/
def any : Read (UInt8 × Bytes) := fun b =>
  match split? b with
  | some (tag, content, rest) => .ok ((tag, content), rest)
  | none => .error malformed

/-- The content of a value with a tag. -/
def expect (t : Tag) : Read Bytes := fun b =>
  match split? b with
  | some (tag, content, rest) => if tag = t.byte then .ok (content, rest) else .error malformed
  | none => .error malformed

def atEnd : Read Bool := return (← get).isEmpty

def peek (t : Tag) : Read Bool := return (← get).head? = some t.byte

/-- Reads all of the bytes. -/
def whole (fault : CertificateFault) (r : Read α) (b : Bytes) : Except CertificateFault α := do
  let (a, rest) ← r b
  if rest.isEmpty then return a else throw fault

/-- Reads all of the content of a value with a tag. -/
def nested (t : Tag) (fault : CertificateFault) (r : Read α) : Read α := fun b =>
  match split? b with
  | some (tag, content, rest) =>
    if tag = t.byte then return (← whole fault r content, rest) else throw fault
  | none => throw fault

/-- Reads values to the end; a reader that takes nothing ends it too. -/
def toEnd (r : Read α) : Read (List α) := do
  go (← get).length
where
  go : Nat → Read (List α)
    | 0 => return []
    | n + 1 => do
      if ← atEnd then return []
      let a ← r
      return a :: (← go n)

def readByte : Read UInt8 := fun b =>
  match b with
  | a :: rest => .ok (a, rest)
  | [] => .error malformed

/-- A truth value, false if it is left out. -/
def readBoolean : Read Bool := do
  if ← peek .boolean then
    nested .boolean trailing do
      let b ← readByte
      if b = 0xff then return true
      else if b = 0 then return false
      else throw malformed
  else return false

/-- A number in its shortest form that is not negative. -/
def readNatural : Read Nat := do
  let content ← expect .integer
  match content with
  | [] => throw malformed
  | [a] => if a.toNat < 128 then return a.toNat else throw malformed
  | a :: b :: rest =>
    if a.toNat ≥ 128 || (a = 0 && b.toNat < 128) then throw malformed
    else return (a :: b :: rest).foldl (fun n x => n * 256 + x.toNat) 0

def readSmall : Read Nat := do
  let n ← readNatural
  if n < 256 then return n else throw malformed

/-- A bit string of whole bytes. -/
def readBits : Read Bytes := do
  match ← expect .bitString with
  | 0 :: content => return content
  | _ => throw malformed

/-! Object identifiers -/

/-- The numbers of an identifier, of which the first byte holds two. -/
def oidNumbers (b : Bytes) : List Nat :=
  match go 0 b with
  | n :: rest => if n < 40 then 0 :: n :: rest else if n < 80 then 1 :: (n - 40) :: rest
      else 2 :: (n - 80) :: rest
  | [] => []
where
  go (n : Nat) : Bytes → List Nat
    | [] => []
    | a :: rest =>
      let n := n * 128 + a.toNat % 128
      if a.toNat ≥ 128 then go n rest else n :: go 0 rest

/-! Times -/

/-- Two digits within bounds. -/
def readTwo (low high : Nat) : Read Nat := fun b =>
  match b with
  | a :: c :: rest =>
    let isDigit (x : UInt8) : Bool := 48 ≤ x && x ≤ 57
    let n := (a.toNat - 48) * 10 + (c.toNat - 48)
    if isDigit a && isDigit c && low ≤ n && n ≤ high then .ok (n, rest)
    else .error (.encoding .time)
  | _ => .error (.encoding .time)

/-- A point in time as seconds since the start of 1970, with a year of two digits or of four. -/
def readTime : Read Nat := do
  let short ← peek .utcTime
  nested (if short then .utcTime else .generalizedTime) trailing do
    let year ← if short then do
        let low ← readTwo 0 99
        pure (low + if low ≥ 50 then 1900 else 2000)
      else do
        let high ← readTwo 0 99
        pure (high * 100 + (← readTwo 0 99))
    let month ← readTwo 1 12
    let day ← readTwo 1 (Date.daysInMonth year month)
    let hour ← readTwo 0 23
    let minute ← readTwo 0 59
    let second ← readTwo 0 59
    let mark ← fun b => match b with
      | a :: rest => .ok (a, rest)
      | [] => .error (.encoding .time)
    if mark = 90 && year ≥ 1970 then
      return ((Date.toDays ⟨year, month, day⟩).toNat * 24 + hour) * 3600 + minute * 60 + second
    else throw (.encoding .time)

end DynamicRpc.Tls.Der
