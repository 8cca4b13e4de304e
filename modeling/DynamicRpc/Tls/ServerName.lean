import DynamicRpc.Net.SocketAddress
import DynamicRpc.Text.Ascii
import DynamicRpc.Text.Utf8

/-!
Names under which a server proves who it is: a domain name or an address. Domain names are labels
with dots between them; the last label is not a number, so that no address is a domain name.
-/
namespace DynamicRpc.Tls

namespace DomainName

def maxLength : Nat := 253

def maxLabelLength : Nat := 63

def isLetter (c : Char) : Bool := c.isAlpha || c = '_'

/-- Labels may not begin or end with a hyphen. -/
def isLabel (label : List Char) : Bool :=
  !label.isEmpty && label.length ≤ maxLabelLength && label.head? ≠ some '-' &&
    label.getLast? ≠ some '-' && label.all fun c => isLetter c || c.isDigit || c = '-'

def isNumber (label : List Char) : Bool := label.all Char.isDigit

def labels (name : List Char) : List (List Char) := name.splitOn '.'

/-- The labels without the empty one that a dot at the end leaves. -/
def relativeLabels (name : List Char) : List (List Char) :=
  match (labels name).reverse with
  | [] :: more => more.reverse
  | _ => labels name

def isValid (name : List Char) : Bool :=
  let parts := relativeLabels name
  name.length ≤ maxLength && !parts.isEmpty && parts.all isLabel &&
    match parts.getLast? with
    | some last => !isNumber last
    | none => false

end DomainName

inductive ServerName where
  | domain (name : String)
  | v4 (octets : List Nat)
  | v6 (groups : List Nat)
  deriving DecidableEq, Repr

namespace ServerName

def addressOf? (cs : List Char) : Option ServerName :=
  match Net.SocketAddress.readV4? cs with
  | some (octets, []) => some (.v4 octets)
  | _ =>
    match Net.SocketAddress.readV6? cs with
    | some (groups, []) => some (.v6 groups)
    | _ => none

def ofText? (s : String) : Option ServerName :=
  if DomainName.isValid s.toList then some (.domain s) else addressOf? s.toList

def text : ServerName → String
  | domain name => name
  | v4 octets => Net.SocketAddress.dotted octets
  | v6 groups => Net.SocketAddress.v6Text groups

end ServerName

example : (ServerName.ofText? "a_b.c").isSome := by decide +kernel
example : ServerName.ofText? "256.1.1.1" = none := by decide +kernel

/-! Names in certificates -/

/-- A name that a certificate presents. -/
inductive GeneralName where
  | domain (b : Bytes)
  | directory
  | address (b : Bytes)
  | uri (b : Bytes)
  | unsupported (tag : Nat)
  deriving DecidableEq, Repr

namespace GeneralName

def hexPair (b : UInt8) : String :=
  let digits := Nat.toDigits 16 b.toNat
  String.ofList (List.replicate (2 - digits.length) '0' ++ digits)

def groupTexts : Bytes → List String
  | a :: b :: rest => (if a = 0 && b = 0 then "0" else hexPair a ++ hexPair b) :: groupTexts rest
  | _ => []

def addressText (b : Bytes) : String :=
  if b.length = 4 then String.intercalate "." (b.map fun x => toString x.toNat)
  else if b.length = 16 then String.intercalate ":" (groupTexts b)
  else "[invalid: " ++ String.intercalate ", " (b.map hexPair) ++ "]"

/-- How diagnostics show a name. -/
def shown : GeneralName → String
  | domain b => s!"DnsName(\"{Text.ofBytesLenient b}\")"
  | directory => "DirectoryName"
  | address b => s!"IpAddress({addressText b})"
  | uri b => s!"UniformResourceIdentifier(\"{Text.ofBytesLenient b}\")"
  | unsupported tag => s!"Unsupported(0x{hexPair (UInt8.ofNat tag)})"

end GeneralName

namespace DomainName

/-- What a domain name in a certificate is compared with. -/
inductive Role where
  | presented
  | reference
  | constraint
  deriving DecidableEq, Repr

/-- Presented names may have a wildcard as their first label, with two labels after it; references
may end in a dot; constraints may begin with one or be empty. -/
def fits (role : Role) (name : List Char) : Bool :=
  let parts := labels name
  let wildcard := role = .presented && parts.head? = some ['*']
  let body := if wildcard then parts.drop 1
    else if role = .constraint && parts.length > 1 && parts.head? = some [] then parts.drop 1
    else if role = .reference then relativeLabels name
    else parts
  name.length ≤ maxLength &&
    ((role = .constraint && name.isEmpty) ||
      (!body.isEmpty && body.all isLabel && (!wildcard || body.length ≥ 2) &&
        match body.getLast? with
        | some last => !isNumber last
        | none => false))

def charsOf (b : Bytes) : List Char := b.map fun x => Char.ofNat x.toNat

def lower (cs : List Char) : List Char := (Text.lowerAscii (String.ofList cs)).toList

/-- Whether a presented name covers a name, in which a wildcard stands for one label. -/
def covers (presented name : List Char) : Bool :=
  let presented := lower presented
  let name := lower name
  let relative := if name.getLast? = some '.' then name.dropLast else name
  match presented with
  | '*' :: rest => relative.head? ≠ some '.' && relative.dropWhile (· ≠ '.') = rest
  | _ => presented = relative

/-- Whether a name lies in the tree that a constraint names: its own name, or one that ends in it
behind a dot. -/
def within (name constraint : List Char) : Bool :=
  let name := lower name
  let constraint := lower constraint
  if constraint.isEmpty then true
  else if name.length ≤ constraint.length then name = constraint
  else if constraint.head? = some '.' then constraint.isSuffixOf name
  else ('.' :: constraint).isSuffixOf name

end DomainName

end DynamicRpc.Tls
