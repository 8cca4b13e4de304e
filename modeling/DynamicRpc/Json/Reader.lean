import DynamicRpc.Json.Value
import DynamicRpc.Number.Shortest
import DynamicRpc.Text.Quoted

/-!
Reading JSON text. A cursor counts lines and columns in bytes, so that a fault can be reported with
its place. Numbers beyond 64 bits are rounded the quick way: the leading digits as a floating point
number times or divided by a power of ten.
-/
namespace DynamicRpc.Json

structure Cursor where
  rest : Bytes
  line : Nat
  column : Nat

def Cursor.start (text : Bytes) : Cursor := ⟨text, 1, 0⟩

def Cursor.advance (c : Cursor) : Cursor :=
  match c.rest with
  | [] => c
  | b :: rest => if b = 10 then ⟨rest, c.line + 1, 0⟩ else ⟨rest, c.line, c.column + 1⟩

/-- What stands where something else was expected. -/
inductive Found where
  | null
  | boolean (b : Bool)
  | number (n : Number)
  | text (s : String)
  | sequence
  | map

def Found.message : Found → String
  | .null => "null"
  | .boolean b => s!"boolean \x60{b}\x60"
  | .number (.natural n) => s!"integer \x60{n}\x60"
  | .number (.negative n) => s!"integer \x60-{n}\x60"
  | .number (.real x) => s!"floating point \x60{Number.doubleText x}\x60"
  | .text s => s!"string {Text.quote s}"
  | .sequence => "sequence"
  | .map => "map"

def Found.ofValue : Value → Found
  | .null => .null
  | .boolean b => .boolean b
  | .number n => .number n
  | .text s => .text s
  | .list _ => .sequence
  | .object _ => .map

inductive Cause where
  | endInValue
  | endInString
  | endInList
  | endInObject
  | expectedColon
  | expectedListComma
  | expectedObjectComma
  | expectedIdent
  | expectedValue
  | invalidEscape
  | invalidNumber
  | numberOutOfRange
  | loneSurrogate
  | endOfHexEscape
  | controlCharacter
  | keyNotString
  | trailingComma
  | trailingCharacters
  | tooDeep
  | wrongType (found : Found) (expected : String)
  | wrongValue (found : Found) (expected : String)
  | unknownField (name : String) (known : List String)
  | duplicateField (name : String)
  | missingField (name : String)
  | wrongLength (count : Nat) (expected : String)
  | other (message : String)

def oneOf (names : List String) : String :=
  let ticked := names.map fun n => s!"\x60{n}\x60"
  match ticked with
  | [] => "there are no fields"
  | [a] => s!"expected {a}"
  | [a, b] => s!"expected {a} or {b}"
  | _ => "expected one of " ++ String.intercalate ", " ticked

def Cause.message : Cause → String
  | .endInValue => "EOF while parsing a value"
  | .endInString => "EOF while parsing a string"
  | .endInList => "EOF while parsing a list"
  | .endInObject => "EOF while parsing an object"
  | .expectedColon => "expected \x60:\x60"
  | .expectedListComma => "expected \x60,\x60 or \x60]\x60"
  | .expectedObjectComma => "expected \x60,\x60 or \x60\x7d\x60"
  | .expectedIdent => "expected ident"
  | .expectedValue => "expected value"
  | .invalidEscape => "invalid escape"
  | .invalidNumber => "invalid number"
  | .numberOutOfRange => "number out of range"
  | .loneSurrogate => "lone leading surrogate in hex escape"
  | .endOfHexEscape => "unexpected end of hex escape"
  | .controlCharacter => "control character (\\u0000-\\u001F) found while parsing a string"
  | .keyNotString => "key must be a string"
  | .trailingComma => "trailing comma"
  | .trailingCharacters => "trailing characters"
  | .tooDeep => "recursion limit exceeded"
  | .wrongType found expected => s!"invalid type: {found.message}, expected {expected}"
  | .wrongValue found expected => s!"invalid value: {found.message}, expected {expected}"
  | .unknownField name known => s!"unknown field \x60{name}\x60, {oneOf known}"
  | .duplicateField name => s!"duplicate field \x60{name}\x60"
  | .missingField name => s!"missing field \x60{name}\x60"
  | .wrongLength n expected => s!"invalid length {n}, expected {expected}"
  | .other message => message

/-- A fault and its line and column. Faults in the meaning of a value get a place only when the
value that holds them has been left. -/
structure ReadError where
  cause : Cause
  place : Option (Nat × Nat)

def ReadError.message (e : ReadError) : String :=
  match e.place with
  | none => e.cause.message
  | some (line, column) => s!"{e.cause.message} at line {line} column {column}"

abbrev Reader (α : Type) := ExceptT ReadError (StateM Cursor) α

namespace Reader

def run (r : Reader α) (c : Cursor) : Except ReadError α × Cursor := StateT.run (ExceptT.run r) c

def cursor : Reader Cursor := fun c => (.ok c, c)

def peek : Reader (Option UInt8) := fun c => (.ok c.rest.head?, c)

def advance : Reader Unit := fun c => (.ok (), c.advance)

/-- Takes the next byte, if there is one. -/
def next : Reader (Option UInt8) := fun c => (.ok c.rest.head?, c.advance)

/-- Fails at the cursor. -/
def failHere (cause : Cause) : Reader α := fun c => (.error ⟨cause, some (c.line, c.column)⟩, c)

/-- Fails behind the next byte. -/
def failNext (cause : Cause) : Reader α := fun c =>
  let d := c.advance
  (.error ⟨cause, some (d.line, d.column)⟩, c)

def failUnplaced (cause : Cause) : Reader α := fun c => (.error ⟨cause, none⟩, c)

/-- Gives a fault without a place the place of the cursor. -/
def placed (r : Reader α) : Reader α := fun c =>
  match r.run c with
  | (.error ⟨cause, none⟩, d) => (.error ⟨cause, some (d.line, d.column)⟩, d)
  | result => result

/-- Runs `r`, then `after` even if `r` fails; the fault of `r` counts first. -/
def finally_ (r : Reader α) (after : Reader Unit) : Reader α := fun c =>
  let (a, d) := r.run c
  let (b, e) := after.run d
  match a, b with
  | .ok a, .ok _ => (.ok a, e)
  | .error x, _ => (.error x, e)
  | _, .error x => (.error x, e)

end Reader

open Reader

def isSpace (b : UInt8) : Bool := b = 32 || b = 10 || b = 9 || b = 13

def skipBlanks : List UInt8 → Nat → Nat → Cursor
  | [], line, column => ⟨[], line, column⟩
  | b :: rest, line, column =>
    if b = 10 then skipBlanks rest (line + 1) 0
    else if isSpace b then skipBlanks rest line (column + 1)
    else ⟨b :: rest, line, column⟩

/-- Skips blanks and shows the next byte. -/
def peekValue : Reader (Option UInt8) := fun c =>
  let d := skipBlanks c.rest c.line c.column
  (.ok d.rest.head?, d)

def isDigit (b : UInt8) : Bool := 48 ≤ b && b ≤ 57

/-- The rest of a word whose first letter was taken. -/
def readIdent : Bytes → Reader Unit
  | [] => pure ()
  | b :: rest => do
    match ← next with
    | none => failHere .endInValue
    | some a => if a = b then readIdent rest else failHere .expectedIdent

/-! Numbers -/

def maxNatural : Nat := 0xffffffffffffffff

/-- Products and quotients of doubles, as codes. -/
def mulCode (a b : Nat) : Nat :=
  Number.double.round (Number.double.units a * Number.double.units b)
    (Nat.pow 2 (2 * Number.double.depth))

def divCode (a b : Nat) : Nat :=
  Number.double.round (Number.double.units a) (Number.double.units b)

def powerCode (k : Nat) : Nat := Number.double.round (Nat.pow 10 k) 1

/-- The greatest power of ten that a double holds. -/
def maxPower : Nat := 308

/-- Divides by a power of ten, in steps that a double holds. -/
def shrink (code : Nat) (k : Nat) : Nat :=
  if k ≤ maxPower then divCode code (powerCode k)
  else if code = 0 then 0
  else shrink (divCode code (powerCode maxPower)) (k - maxPower)
  termination_by k
  decreasing_by simp [maxPower] at *; omega

/-- A double from its leading digits and a power of ten. -/
def scaledReal (positive : Bool) (significand : Nat) (exponent : Int) : Reader Number := do
  let code := Number.double.round significand 1
  let result (c : Nat) : Number := .real ⟨!positive, c⟩
  if exponent < 0 then return result (shrink code exponent.natAbs)
  else if exponent ≤ maxPower then
    let c := mulCode code (powerCode exponent.toNat)
    if c = Number.double.infinity then failHere .numberOutOfRange else return result c
  else if code = 0 then return result 0
  else failHere .numberOutOfRange

/-- Takes digits as long as the number stays within a bound: how many, and the number. -/
def takeDigits (bound : Nat) (n : Nat) (count : Nat) : Bytes → Nat × Nat
  | [] => (n, count)
  | b :: rest =>
    if isDigit b then
      let m := n * 10 + (b.toNat - 48)
      if m > bound then (n, count) else takeDigits bound m (count + 1) rest
    else (n, count)

def advanceBy : Nat → Reader Unit
  | 0 => pure ()
  | n + 1 => do advance; advanceBy n

/-- Reads digits within a bound: the number and how many there were. -/
def readDigits (bound n : Nat) : Reader (Nat × Nat) := do
  let (m, count) := takeDigits bound n 0 (← cursor).rest
  advanceBy count
  return (m, count)

/-- Skips digits and counts them. -/
def skipDigits : Reader Nat := do
  let count := ((← cursor).rest.takeWhile isDigit).length
  advanceBy count
  return count

def nextIsDigit : Reader Bool := do return (← peek).any isDigit

def nextIsExponent : Reader Bool := do return (← peek).any fun b => b = 101 || b = 69

def maxExponent : Nat := 0x7fffffff

def readExponent (positive : Bool) (significand : Nat) (start : Int) : Reader Number := do
  advance
  let sign ← peek
  if sign = some 43 || sign = some 45 then advance
  let up := sign ≠ some 45
  match ← next with
  | none => failHere .endInValue
  | some b =>
    if !isDigit b then failHere .invalidNumber
    else
      let (e, _) ← readDigits maxExponent (b.toNat - 48)
      if ← nextIsDigit then
        advance
        if significand ≠ 0 && up then failHere .numberOutOfRange
        let _ ← skipDigits
        return .real ⟨!positive, 0⟩
      else
        let e : Int := e
        let limit : Int := 0x80000000
        scaledReal positive significand
          (if up then min (start + e) (limit - 1) else max (start - e) (-limit))

def readFraction (positive : Bool) (significand : Nat) (start : Int) : Reader Number := do
  advance
  let (n, count) ← readDigits maxNatural significand
  let exponent : Int := start - count
  if ← nextIsDigit then
    let _ ← skipDigits
    if ← nextIsExponent then readExponent positive n exponent
    else scaledReal positive n exponent
  else if count = 0 then
    match ← peek with
    | some _ => failNext .invalidNumber
    | none => failNext .endInValue
  else if ← nextIsExponent then readExponent positive n exponent
  else scaledReal positive n exponent

/-- What follows the whole digits. -/
def readTail (positive : Bool) (significand : Nat) : Reader Number := do
  if (← peek) = some 46 then readFraction positive significand 0
  else if ← nextIsExponent then readExponent positive significand 0
  else if positive then return .natural significand
  else if significand = 0 || significand > 0x8000000000000000 then
    return .real ⟨true, Number.double.round significand 1⟩
  else return .negative significand

/-- Reads a number whose sign was taken. -/
def readNumber (positive : Bool) : Reader Number := do
  match ← next with
  | none => failHere .endInValue
  | some b =>
    if b = 48 then
      if ← nextIsDigit then failNext .invalidNumber else readTail positive 0
    else if isDigit b then
      let (n, _) ← readDigits maxNatural (b.toNat - 48)
      if ← nextIsDigit then
        let exponent ← skipDigits
        if (← peek) = some 46 then readFraction positive n exponent
        else if ← nextIsExponent then readExponent positive n exponent
        else scaledReal positive n exponent
      else readTail positive n
    else failHere .invalidNumber

/-! Strings -/

def hexValue? (b : UInt8) : Option Nat :=
  if isDigit b then some (b.toNat - 48)
  else if 97 ≤ b && b ≤ 102 then some (b.toNat - 87)
  else if 65 ≤ b && b ≤ 70 then some (b.toNat - 55)
  else none

/-- Four hexadecimal digits. -/
def readHex4 : Reader Nat := do
  match (← cursor).rest with
  | a :: b :: c :: d :: _ =>
    advanceBy 4
    match hexValue? a, hexValue? b, hexValue? c, hexValue? d with
    | some a, some b, some c, some d => return ((a * 16 + b) * 16 + c) * 16 + d
    | _, _, _, _ => failHere .invalidEscape
  | rest =>
    advanceBy rest.length
    failHere .endInString

def expectInEscape (b : UInt8) : Reader Unit := do
  match ← peek with
  | none => failHere .endInString
  | some a =>
    advance
    if a = b then pure () else failHere .endOfHexEscape

/-- A character by its code; one beyond the first plane takes two codes. -/
def readUnicodeEscape : Reader Char := do
  let n ← readHex4
  if 0xdc00 ≤ n && n ≤ 0xdfff then failHere .loneSurrogate
  else if 0xd800 ≤ n && n ≤ 0xdbff then
    expectInEscape 92
    expectInEscape 117
    let low ← readHex4
    if 0xdc00 ≤ low && low ≤ 0xdfff then
      return Char.ofNat ((n - 0xd800) * 1024 + (low - 0xdc00) + 0x10000)
    else failHere .loneSurrogate
  else return Char.ofNat n

def readEscape : Reader Bytes := do
  match ← next with
  | none => failHere .endInString
  | some b =>
    if b = 34 || b = 92 || b = 47 then return [b]
    else if b = 98 then return [8]
    else if b = 102 then return [12]
    else if b = 110 then return [10]
    else if b = 114 then return [13]
    else if b = 116 then return [9]
    else if b = 117 then return Text.toBytes (String.singleton (← readUnicodeEscape))
    else failHere .invalidEscape

def isPlain (b : UInt8) : Bool := b ≠ 34 && b ≠ 92 && b ≥ 32

/-- The rest of a string whose opening quote was taken, after the pieces in `before`. Each piece but
the last takes at least one of the bytes that are left. -/
def readStringFrom (before : List Bytes) : Bytes → Reader String
  | [] => failHere .endInString
  | _ :: left => do
    let plain := (← cursor).rest.takeWhile isPlain
    advanceBy plain.length
    let before := plain :: before
    match ← next with
    | none => failHere .endInString
    | some 34 => return ((Text.ofBytes? before.reverse.flatten).getD "")
    | some 92 =>
      let escaped ← readEscape
      readStringFrom (escaped :: before) left
    | some _ => failHere .controlCharacter

def readString : Reader String := do readStringFrom [] (0 :: (← cursor).rest)

/-! Lists and objects -/

/-- Whether another item follows; takes the comma before it. -/
def anotherItem (first : Bool) : Reader Bool := do
  match ← peekValue with
  | none => failNext .endInList
  | some 93 => return false
  | some b =>
    if first then return true
    else if b = 44 then
      advance
      match ← peekValue with
      | some 93 => failNext .trailingComma
      | some _ => return true
      | none => failNext .endInValue
    else failNext .expectedListComma

/-- Whether another member follows; takes the comma before it. -/
def anotherMember (first : Bool) : Reader Bool := do
  match ← peekValue with
  | none => failNext .endInObject
  | some 125 => return false
  | some b =>
    if first then
      if b = 34 then return true else failNext .keyNotString
    else if b = 44 then
      advance
      match ← peekValue with
      | some 34 => return true
      | some 125 => failNext .trailingComma
      | some _ => failNext .keyNotString
      | none => failNext .endInValue
    else failNext .expectedObjectComma

def readKey : Reader String := do
  advance
  readString

def readColon : Reader Unit := do
  match ← peekValue with
  | some 58 => advance
  | some _ => failNext .expectedColon
  | none => failNext .endInObject

def endList : Reader Unit := do
  match ← peekValue with
  | some 93 => advance
  | some 44 =>
    advance
    match ← peekValue with
    | some 93 => failNext .trailingComma
    | _ => failNext .trailingCharacters
  | some _ => failNext .trailingCharacters
  | none => failNext .endInList

def endObject : Reader Unit := do
  match ← peekValue with
  | some 125 => advance
  | some 44 => failNext .trailingComma
  | some _ => failNext .trailingCharacters
  | none => failNext .endInObject

/-- Nothing but blanks may follow. -/
def endText : Reader Unit := do
  match ← peekValue with
  | some _ => failNext .trailingCharacters
  | none => pure ()

/-- Brackets may not be nested this deep. -/
def maxDepth : Nat := 128

mutual

/-- Reads any value; `depth` is how many more brackets may open. -/
def readValue (depth : Nat) : Nat → Reader Value
  | 0 => failHere .endInValue
  | fuel + 1 => do
    match ← peekValue with
    | none => failNext .endInValue
    | some b =>
      if b = 110 then advance; readIdent [117, 108, 108]; return .null
      else if b = 116 then advance; readIdent [114, 117, 101]; return .boolean true
      else if b = 102 then advance; readIdent [97, 108, 115, 101]; return .boolean false
      else if b = 45 then advance; return .number (← readNumber false)
      else if isDigit b then return .number (← readNumber true)
      else if b = 34 then advance; return .text (← readString)
      else if b = 91 then
        if depth ≤ 1 then failNext .tooDeep
        else
          advance
          let items ← finally_ (readItems (depth - 1) true fuel) endList
          return .list items
      else if b = 123 then
        if depth ≤ 1 then failNext .tooDeep
        else
          advance
          let members ← finally_ (readMembers (depth - 1) true fuel) endObject
          return .ofMembers members
      else failNext .expectedValue

def readItems (depth : Nat) (first : Bool) : Nat → Reader (List Value)
  | 0 => failHere .endInList
  | fuel + 1 => do
    if ← anotherItem first then
      let v ← readValue depth fuel
      let rest ← readItems depth false fuel
      return v :: rest
    else return []

def readMembers (depth : Nat) (first : Bool) : Nat → Reader (List (String × Value))
  | 0 => failHere .endInObject
  | fuel + 1 => do
    if ← anotherMember first then
      let name ← readKey
      readColon
      let v ← readValue depth fuel
      let rest ← readMembers depth false fuel
      return (name, v) :: rest
    else return []

end

/-- Reads a whole text with `r`. -/
def Reader.whole (r : Reader α) (text : Bytes) : Except ReadError α :=
  ((do let a ← r; endText; return a : Reader α).run (Cursor.start text)).1

/-- Reads a text that holds one value. Each bracket and item takes at least one byte. -/
def parse (text : Bytes) : Except ReadError Value :=
  (readValue maxDepth (2 * text.length + 2)).whole text

end DynamicRpc.Json
