import DynamicRpc.Text.Quoted
import DynamicRpc.Text.Utf8

/-!
Sections of a text file that hold binary objects in base64, between a line that begins them and one
that ends them. Text outside of sections does not count, nor do sections with other labels, but an
unfinished one is a fault whatever its label.
-/
namespace DynamicRpc.Tls

/-- What a section holds, by its label. -/
inductive SectionKind where
  | certificate
  | publicKey
  | rsaKey
  | privateKey
  | ecKey
  | revocationList
  | request
  | clientHello
  deriving DecidableEq, Repr

def SectionKind.label : SectionKind → String
  | .certificate => "CERTIFICATE"
  | .publicKey => "PUBLIC KEY"
  | .rsaKey => "RSA PRIVATE KEY"
  | .privateKey => "PRIVATE KEY"
  | .ecKey => "EC PRIVATE KEY"
  | .revocationList => "X509 CRL"
  | .request => "CERTIFICATE REQUEST"
  | .clientHello => "ECHCONFIG"

structure Section where
  kind : SectionKind
  content : Bytes
  deriving DecidableEq, Repr

def Section.isPrivateKey (s : Section) : Bool :=
  s.kind = .rsaKey || s.kind = .privateKey || s.kind = .ecKey

/-- Faults of base64 text in which blanks may stand anywhere. -/
inductive BodyFault where
  | character (b : UInt8)
  | earlyPadding
  | ending
  deriving DecidableEq, Repr

def BodyFault.message : BodyFault → String
  | character b => s!"InvalidCharacter({b.toNat})"
  | earlyPadding => "PrematurePadding"
  | ending => "InvalidTrailingPadding"

inductive PemFault where
  | unfinished (label : Bytes)
  | start (line : Bytes)
  | body (f : BodyFault)
  deriving DecidableEq, Repr

def PemFault.message : PemFault → String
  | unfinished label => s!"section end {Text.quote (Text.ofBytesLenient label)} missing"
  | start line => s!"illegal section start: {Text.quote (Text.ofBytesLenient line)}"
  | body f => f.message

namespace Pem

/-! Base64 -/

/-- A symbol of the alphabet, or a pad. -/
inductive Symbol where
  | value (n : Nat)
  | pad
  deriving DecidableEq, Repr

def isBlank (b : UInt8) : Bool := (9 ≤ b && b ≤ 13) || b = 32

def symbol? (b : UInt8) : Option Symbol :=
  if 65 ≤ b && b ≤ 90 then some (.value (b.toNat - 65))
  else if 97 ≤ b && b ≤ 122 then some (.value (b.toNat - 97 + 26))
  else if 48 ≤ b && b ≤ 57 then some (.value (b.toNat - 48 + 52))
  else if b = 43 then some (.value 62)
  else if b = 47 then some (.value 63)
  else if b = 61 then some .pad
  else none

/-- The bytes of the last four symbols or fewer. Pads may be left out, and bits to spare do not
count. -/
def lastBytes : List Symbol → Except BodyFault Bytes
  | [] => .ok []
  | [.value a, .value b, .value c, .value d] =>
    .ok <| [a * 4 + b / 16, b % 16 * 16 + c / 4, c % 4 * 64 + d].map UInt8.ofNat
  | [.value a, .value b, .value c, .pad] | [.value a, .value b, .value c] =>
    .ok <| [a * 4 + b / 16, b % 16 * 16 + c / 4].map UInt8.ofNat
  | [.value a, .value b, .pad, .pad] | [.value a, .value b] => .ok [UInt8.ofNat (a * 4 + b / 16)]
  | _ => .error .ending

/-- The bytes of eight symbols or fewer; only the last four may have pads. -/
def groupBytes (symbols : List Symbol) : Except BodyFault Bytes :=
  if symbols.length ≤ 4 then lastBytes symbols
  else if (symbols.take 4).contains .pad then .error .earlyPadding
  else do return (← lastBytes (symbols.take 4)) ++ (← lastBytes (symbols.drop 4))

/-- Reads symbols in groups of eight, of which only the last may have pads. -/
def decodeFrom (group : List Symbol) : Bytes → Except BodyFault Bytes
  | [] => groupBytes group
  | b :: rest =>
    if isBlank b then decodeFrom group rest
    else
      match symbol? b with
      | none => .error (.character b)
      | some s =>
        if group.length < 8 then decodeFrom (group ++ [s]) rest
        else if group.contains .pad then .error .earlyPadding
        else do return (← groupBytes group) ++ (← decodeFrom [s] rest)

def decode (text : Bytes) : Except BodyFault Bytes := decodeFrom [] text

example : (decode [90, 109, 10, 57, 118]).toOption = some [102, 111, 111] := by decide

/-! Lines -/

/-- Lines with their ends, of which each is a line feed or a carriage return. -/
def lines (b : Bytes) : List Bytes :=
  go [] b
where
  go (line : Bytes) : Bytes → List Bytes
    | [] => if line.isEmpty then [] else [line.reverse]
    | c :: rest =>
      if c = 10 || c = 13 then (c :: line).reverse :: go [] rest else go (c :: line) rest

def kinds : List SectionKind :=
  [.certificate, .publicKey, .rsaKey, .privateKey, .ecKey, .revocationList, .request, .clientHello]

def kindOf? (label : Bytes) : Option SectionKind :=
  kinds.find? fun k => Text.toBytes k.label = label

def beginMark : Bytes := Text.toBytes "-----BEGIN "

def endMark : Bytes := Text.toBytes "-----END "

def dashes : Bytes := List.replicate 5 45

/-- The label of a line that begins a section: what stands before five dashes at its end, among
which blanks and line ends do not count. -/
def labelOf? (line : Bytes) : Option Bytes :=
  let tail := line.reverse.takeWhile fun b => b = 45 || b = 10 || b = 13 || b = 32
  if tail.count 45 = 5 then
    let marks := tail.reverse.dropWhile (· ≠ 45)
    some ((line.take (line.length - marks.length)).drop beginMark.length)
  else none

def ends (label line : Bytes) : Bool := (endMark ++ label ++ dashes).isPrefixOf line

/-- The sections before the first fault, and that fault. `label?` is the label of an open section
and `body` holds its lines, the last one first. -/
def sectionsFrom (label? : Option Bytes) (body : List Bytes) :
    List Bytes → List Section × Option PemFault
  | [] => ([], label?.map .unfinished)
  | line :: rest =>
    if beginMark.isPrefixOf line then
      match labelOf? line with
      | none => ([], some (.start line))
      | some label => sectionsFrom (some label) body rest
    else
      match label? with
      | none => sectionsFrom none body rest
      | some label =>
        if ends label line then
          match kindOf? label with
          | none => sectionsFrom none [] rest
          | some kind =>
            match decode body.reverse.flatten with
            | .error f => ([], some (.body f))
            | .ok content =>
              let (more, fault?) := sectionsFrom none [] rest
              (⟨kind, content⟩ :: more, fault?)
        else sectionsFrom (some label) (line :: body) rest

def sections (text : Bytes) : List Section × Option PemFault := sectionsFrom none [] (lines text)

/-- All certificates of a text without a fault. -/
def certificates (text : Bytes) : Except PemFault (List Bytes) :=
  match sections text with
  | (_, some fault) => .error fault
  | (found, none) => .ok ((found.filter (·.kind = .certificate)).map (·.content))

/-- The first private key. Faults behind it are not seen. -/
def privateKey? (text : Bytes) : Except PemFault (Option Section) :=
  let (found, fault?) := sections text
  match found.find? Section.isPrivateKey, fault? with
  | some key, _ => .ok (some key)
  | none, some fault => .error fault
  | none, none => .ok none

end Pem

end DynamicRpc.Tls
