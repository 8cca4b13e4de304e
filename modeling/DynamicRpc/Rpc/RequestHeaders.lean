import DynamicRpc.Http.Header
import DynamicRpc.Http.Uri

/-!
Headers that a user gives for a call. Some names belong to the protocol and are refused; a header
named host is not sent but decides the authority of the call; the others become metadata.
-/
namespace DynamicRpc.Rpc

open Http

/-- Names and values as the user wrote them. -/
abbrev RequestHeaders := List (String × String)

def reservedNames : List String :=
  ["accept", "accept-encoding", "content-type", "content-encoding", "te", "transfer-encoding"]

def reservedStarts : List String := ["connect-", "grpc-"]

/-- Names that the protocol manages itself, in any case. -/
def isReserved (name : String) : Bool :=
  let lower := Text.lowerAscii name
  reservedNames.contains lower || reservedStarts.any (·.toList.isPrefixOf lower.toList)

def isHost (name : String) : Bool := Text.equalIgnoringCase name "host"

namespace RequestHeaders

/-- The first reserved name, as written. -/
def reserved? (headers : RequestHeaders) : Option String :=
  (headers.find? fun h => isReserved h.1).map (·.1)

end RequestHeaders

def reservedMessage (name : String) : String :=
  s!"header '{name}' is reserved by the protocol and cannot be set"

/-- What follows the first `://`, or the whole text. -/
def afterScheme : List Char → List Char
  | ':' :: '/' :: '/' :: rest => rest
  | cs => go cs cs
where
  go (whole : List Char) : List Char → List Char
    | [] => whole
    | _ :: rest =>
      match rest with
      | ':' :: '/' :: '/' :: after => after
      | _ => go whole rest

/-- The text between the scheme and the path, for a URL that does not read as one. -/
def rawHost (cs : List Char) : List Char :=
  Authority.withoutUser ((afterScheme cs).takeWhile (· ≠ '/'))

/-- The host of a URL, with its port if the URL spells one out. -/
def urlAuthority (url : String) : String :=
  match Uri.ofText url with
  | .ok ⟨_, some authority, _, _⟩ =>
    let cs := authority.toList
    match Authority.port? cs with
    | some port => String.ofList (Authority.host cs ++ ':' :: port)
    | none => String.ofList (Authority.host cs)
  | _ => String.ofList (rawHost url.toList)

/-- The authority of a call: the first header named host wins over the URL. -/
def callAuthority (url : String) (headers : RequestHeaders) : String :=
  match headers.find? fun h => isHost h.1 with
  | some h => h.2
  | none => urlAuthority url

/-- Service and method of a path such as `demo.Shop/Place`; slashes in front do not count. -/
def splitMethodPath? (path : String) : Option (String × String) :=
  match Text.splitLast? '/' (String.ofList (path.toList.dropWhile (· = '/'))) with
  | some (service, method) =>
    if service.isEmpty || method.isEmpty then none else some (service, method)
  | none => none

inductive HeaderError where
  | reserved (name : String)
  | key (name : String)
  | value (name : String)
  deriving DecidableEq, Repr

def HeaderError.message : HeaderError → String
  | .reserved name => reservedMessage name
  | .key name => s!"Invalid metadata (header) key '{name}': 'invalid gRPC metadata key name'"
  | .value name =>
    s!"Invalid metadata (header) value for key '{name}': 'failed to parse metadata value'"

/-- A metadata key with a text value. Names ending in `-bin` are kept for binary values. -/
def metadataKey? (name : String) : Option HeaderName :=
  match HeaderName.ofText? name with
  | some n => if "-bin".toList.isSuffixOf n.text.toList then none else some n
  | none => none

/-- Why no call is made: something is wrong with it, or a collection of headers overflowed, which
ends the caller without an answer. -/
inductive Stop (ε : Type) where
  | refused (e : ε)
  | overflow
  deriving DecidableEq, Repr

namespace Stop

def map (f : ε → δ) : Stop ε → Stop δ
  | refused e => refused (f e)
  | overflow => overflow

/-- A collection of headers, unless it overflowed. -/
def overflowing (headers : Option HeaderMap) : Except (Stop ε) HeaderMap :=
  match headers with
  | some m => .ok m
  | none => .error overflow

end Stop

namespace RequestHeaders

/-- Adds a header to the metadata. One named host is left out. -/
def addTo (m : HeaderMap) (h : String × String) : Except (Stop HeaderError) HeaderMap :=
  if isHost h.1 then .ok m
  else
    match metadataKey? h.1 with
    | none => .error (.refused (.key h.1))
    | some n =>
      match HeaderValue.ofText? h.2 with
      | none => .error (.refused (.value h.1))
      | some v => Stop.overflowing (m.append? n v)

/-- The metadata of a call, or the first fault. A reserved name anywhere comes before others; the
headers are added one by one, so an overflow may come before a later invalid one. -/
def metadata (headers : RequestHeaders) : Except (Stop HeaderError) HeaderMap :=
  match headers.reserved? with
  | some name => .error (.refused (.reserved name))
  | none => headers.foldlM addTo .empty

end RequestHeaders

end DynamicRpc.Rpc
