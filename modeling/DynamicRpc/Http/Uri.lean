import DynamicRpc.Text.Ascii

/-!
Request targets: a lone path, a lone authority, or a scheme, an authority and a path. The reader
looks at the scheme first, then at the authority up to the first slash, question mark or hash sign,
then at the path and query. A fragment is dropped.
-/
namespace DynamicRpc.Http

inductive UriError where
  | character
  | authority
  | format
  | empty
  | tooLong
  | schemeTooLong
  deriving DecidableEq, Repr

def UriError.message : UriError → String
  | .character => "invalid uri character"
  | .authority => "invalid authority"
  | .format => "invalid format"
  | .empty => "empty string"
  | .tooLong => "uri too long"
  | .schemeTooLong => "scheme too long"

structure Uri where
  scheme : Option String
  /-- Never empty. -/
  authority : Option String
  /-- Empty only in a lone authority. -/
  path : String
  query : Option String
  deriving DecidableEq, Repr

namespace Uri

def isAlphanumeric (c : Char) : Bool := c.isAlpha || c.isDigit

def isSchemeChar (c : Char) : Bool := isAlphanumeric c || c = '+' || c = '-' || c = '.'

/-- Characters that may stand in an authority. The percent sign is treated apart. -/
def isAuthorityChar (c : Char) : Bool :=
  isAlphanumeric c || "!$&'()*+,-.:;=@[]_~".toList.contains c

def endsAuthority (c : Char) : Bool := c = '/' || c = '?' || c = '#'

/-- What was seen of an authority. Colons and percent signs of user information, and those inside
brackets, are forgotten. -/
structure AuthorityScan where
  colons : Nat
  opened : Bool
  closed : Bool
  percent : Bool
  deriving DecidableEq, Repr

/-- More colons than this are no address. -/
def maxColons : Nat := 8

def AuthorityScan.step (s : AuthorityScan) (c : Char) : Except UriError AuthorityScan :=
  if c = ':' then
    if s.colons ≥ maxColons then .error .authority else .ok { s with colons := s.colons + 1 }
  else if c = '[' then
    if s.percent || s.opened then .error .authority else .ok { s with opened := true }
  else if c = ']' then
    if !s.opened || s.closed then .error .authority
    else .ok { s with closed := true, colons := 0, percent := false }
  else if c = '@' then .ok { s with colons := 0, percent := false }
  else if c = '%' then .ok { s with percent := true }
  else if isAuthorityChar c then .ok s
  else .error .character

def AuthorityScan.accepts (s : AuthorityScan) : Bool :=
  s.opened == s.closed && s.colons ≤ 1 && !s.percent

/-- Splits off the authority at the start of a text. -/
def splitAuthority (cs : List Char) : Except UriError (List Char × List Char) := do
  let text := cs.takeWhile (!endsAuthority ·)
  let s ← text.foldlM AuthorityScan.step ⟨0, false, false, false⟩
  if s.accepts && text.getLast? != some '@' then
    return (text, cs.dropWhile (!endsAuthority ·))
  else throw .authority

/-- Characters of a path. Beyond ASCII all are taken. -/
def isPathChar (c : Char) : Bool :=
  c.toNat ≥ 0x7f || isAlphanumeric c || "!$%&'()*+,-./:;=@[\\]^_|~\"\x7b\x7d".toList.contains c

def isQueryChar (c : Char) : Bool :=
  c.toNat ≥ 0x7f || isAlphanumeric c ||
    "!$%&'()*+,-./:;=?@[\\]^_\x60\x7b|\x7d~".toList.contains c

def dropFragment (cs : List Char) : List Char := cs.takeWhile (· ≠ '#')

/-- The path and the query at the end of a text. -/
def readPath (cs : List Char) : Except UriError (String × Option String) :=
  let cs := dropFragment cs
  let path := cs.takeWhile (· ≠ '?')
  if path.all isPathChar then
    match cs.dropWhile (· ≠ '?') with
    | [] => .ok (String.ofList path, none)
    | _ :: query =>
      if query.all isQueryChar then .ok (String.ofList path, some (String.ofList query))
      else .error .character
  else .error .character

/-- The name before `://`, if the text begins with one. -/
def splitScheme? (cs : List Char) : Option (List Char × List Char) :=
  match cs.dropWhile isSchemeChar with
  | ':' :: '/' :: '/' :: rest =>
    let name := cs.takeWhile isSchemeChar
    if name.isEmpty && rest.isEmpty then none else some (name, rest)
  | _ => none

def maxSchemeLength : Nat := 64

/-- The two schemes of the web are written in lower case, others as they come. -/
def schemeName (name : String) : String :=
  let lower := Text.lowerAscii name
  if lower = "http" || lower = "https" then lower else name

def maxLength : Nat := 65534

def ofChars (cs : List Char) : Except UriError Uri :=
  match cs with
  | [] => .error .empty
  | ['*'] => .ok ⟨none, none, "*", none⟩
  | '/' :: _ => do
    let (path, query) ← readPath cs
    return ⟨none, none, path, query⟩
  | _ =>
    match splitScheme? cs with
    | none => do
      let (authority, rest) ← splitAuthority cs
      if rest.isEmpty then return ⟨none, some (String.ofList authority), "", none⟩
      else if cs.length = 1 then throw .character
      else throw .format
    | some (name, rest) => do
      if name.length > maxSchemeLength then throw .schemeTooLong
      if rest.isEmpty then throw .empty
      let (authority, rest) ← splitAuthority rest
      if authority.isEmpty then throw .format
      let (path, query) ← readPath rest
      return ⟨some (schemeName (String.ofList name)), some (String.ofList authority),
        if path.isEmpty then "/" else path, query⟩

def ofText (s : String) : Except UriError Uri :=
  if s.utf8ByteSize > maxLength then .error .tooLong else ofChars s.toList

def toText (u : Uri) : String :=
  (match u.scheme with | some s => s ++ "://" | none => "") ++ u.authority.getD "" ++ u.path ++
    (match u.query with | some q => "?" ++ q | none => "")

end Uri

/-- A path and query on their own, as they name a method. -/
def readMethodPath? (path : String) : Option (String × Option String) :=
  (Uri.readPath path.toList).toOption

namespace Authority

/-- What follows the user information. -/
def withoutUser (cs : List Char) : List Char := (cs.reverse.takeWhile (· ≠ '@')).reverse

/-- The host, in its brackets if it has them. -/
def host (cs : List Char) : List Char :=
  match withoutUser cs with
  | '[' :: rest => '[' :: rest.takeWhile (· ≠ ']') ++ [']']
  | rest => rest.takeWhile (· ≠ ':')

def isDigits (cs : List Char) : Bool := !cs.isEmpty && cs.all Char.isDigit

def digitsValue (cs : List Char) : Nat := cs.foldl (fun n c => n * 10 + (c.toNat - 48)) 0

/-- A port is a number below 65536. A plus sign may stand before it. -/
def isPort (cs : List Char) : Bool :=
  let digits := match cs with
    | '+' :: rest => rest
    | _ => cs
  isDigits digits && digitsValue digits < 65536

/-- The port as written, if the text after the last colon is one. -/
def port? (cs : List Char) : Option (List Char) :=
  if cs.contains ':' then
    let text := (cs.reverse.takeWhile (· ≠ ':')).reverse
    if isPort text then some text else none
  else none

end Authority

end DynamicRpc.Http
