import DynamicRpc.Text.Ascii

/-!
Header names and header values. Names are kept in lower case, so that two spellings of a name are
one.
-/
namespace DynamicRpc.Http

/-- Characters of a token, capital letters apart. -/
def isNameChar (c : Char) : Bool :=
  c.isLower || c.isDigit || "!#$%&'*+-.^_\x60|~".toList.contains c

def maxNameLength : Nat := 65535

/-- A name in its lower case form. -/
def isHeaderName (s : String) : Bool :=
  !s.isEmpty && s.utf8ByteSize ≤ maxNameLength && s.toList.all isNameChar

structure HeaderName where
  text : String
  wellFormed : isHeaderName text = true
  deriving DecidableEq, Repr

/-- Any spelling of a name. -/
def HeaderName.ofText? (s : String) : Option HeaderName :=
  let lower := Text.lowerAscii s
  if h : isHeaderName lower = true then some ⟨lower, h⟩ else none

def isValueByte (b : UInt8) : Bool := b = 9 || (32 ≤ b && b ≠ 127)

structure HeaderValue where
  bytes : Bytes
  wellFormed : bytes.all isValueByte = true
  deriving DecidableEq, Repr

def HeaderValue.ofBytes? (b : Bytes) : Option HeaderValue :=
  if h : b.all isValueByte = true then some ⟨b, h⟩ else none

def HeaderValue.ofText? (s : String) : Option HeaderValue := ofBytes? (Text.toBytes s)

/-- The value as text, if it is ASCII. -/
def HeaderValue.text? (v : HeaderValue) : Option String :=
  if v.bytes.all (· < 127) then some (String.ofList (v.bytes.map fun b => Char.ofNat b.toNat))
  else none

end DynamicRpc.Http
