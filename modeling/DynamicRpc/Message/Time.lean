import DynamicRpc.Date
import DynamicRpc.Number.Decimal
import DynamicRpc.Text.Utf8

/-!
Points in time and lengths of time as text. A point in time is a date and a time of day with an
offset; a length is a decimal count of seconds. Both are kept as seconds and nanoseconds.
-/
namespace DynamicRpc.Message

def nanosPerSecond : Int := 1000000000

/-! Digits -/

def padded (width : Nat) (n : Nat) : String :=
  let digits := toString n
  String.ofList (List.replicate (width - digits.length) '0') ++ digits

/-- A fraction of a second: none, or three, six or nine digits. -/
def fractionText (nanos : Nat) : String :=
  if nanos = 0 then ""
  else if nanos % 1000000 = 0 then "." ++ padded 3 (nanos / 1000000)
  else if nanos % 1000 = 0 then "." ++ padded 6 (nanos / 1000)
  else "." ++ padded 9 nanos

/-- The nanoseconds of the digits after a point; digits after the ninth do not count. -/
def fractionNanos (digits : List Char) : Nat :=
  Number.digitsToNat (digits.take 9 ++ List.replicate (9 - digits.length) '0')

/-- Splits off a number of digits. -/
def takeDigits? (count : Nat) (cs : List Char) : Option (Nat × List Char) :=
  let digits := cs.take count
  if digits.length = count && digits.all Char.isDigit then
    some (Number.digitsToNat digits, cs.drop count)
  else none

def takeChar? (c : Char) : List Char → Option (List Char)
  | [] => none
  | d :: rest => if d = c then some rest else none

/-! Points in time -/

structure Timestamp where
  seconds : Int
  nanos : Int
  deriving DecidableEq, Repr

/-- How a point in time departs from its form. -/
inductive TimeFault where
  | date
  | separator (found : Option UInt8)
  | time
  | fraction
  | zone (found : Option UInt8)
  | offset
  deriving DecidableEq, Repr

def hexByte (b : UInt8) : List Char :=
  let digits := Nat.toDigits 16 b.toNat
  List.replicate (2 - digits.length) '0' ++ digits

/-- A byte as a character literal shows it. -/
def escapeByte (b : UInt8) : String :=
  if b = 9 then "\\t"
  else if b = 13 then "\\r"
  else if b = 10 then "\\n"
  else if b = 39 || b = 34 || b = 92 then String.ofList ['\\', Char.ofNat b.toNat]
  else if 32 ≤ b && b < 127 then String.ofList [Char.ofNat b.toNat]
  else String.ofList ('\\' :: 'x' :: hexByte b)

def foundText : Option UInt8 → String
  | some b => s!"'{escapeByte b}'"
  | none => "end of string"

def TimeFault.message : TimeFault → String
  | date => "invalid date"
  | separator found => s!"expected 'T' but found {foundText found}"
  | time => "invalid time"
  | fraction => "empty fractional seconds"
  | zone found => s!"expected 'Z', '+' or '-' but found {foundText found}"
  | offset => "invalid offset"

inductive TimestampError where
  | form (f : TimeFault)
  | invalid
  | range
  deriving DecidableEq, Repr

def TimestampError.message : TimestampError → String
  | form f => s!"invalid rfc3339 timestamp: {f.message}"
  | invalid => "failed to parse RFC-3339 formatted timestamp"
  | range => "timestamp out of range"

/-- The parts of a written point in time; the offset is in minutes, `none` for an unknown one. -/
structure TimeParts where
  date : Date
  hour : Nat
  minute : Nat
  second : Nat
  nanos : Nat
  offset : Option Int

namespace Timestamp

def minSeconds : Int := -62135596800

def maxSeconds : Int := 253402300799

def inRange (t : Timestamp) : Bool := minSeconds ≤ t.seconds && t.seconds ≤ maxSeconds

/-- The first byte of a text. -/
def nextByte? (cs : List Char) : Option UInt8 := (Text.toBytes (String.ofList (cs.take 1))).head?

def readDate? (cs : List Char) : Option (Date × List Char) := do
  let (year, cs) ← takeDigits? 4 cs
  let (month, cs) ← takeDigits? 2 (← takeChar? '-' cs)
  let (day, cs) ← takeDigits? 2 (← takeChar? '-' cs)
  return (⟨year, month, day⟩, cs)

def readTime? (cs : List Char) : Option ((Nat × Nat × Nat) × List Char) := do
  let (hour, cs) ← takeDigits? 2 cs
  let (minute, cs) ← takeDigits? 2 (← takeChar? ':' cs)
  let (second, cs) ← takeDigits? 2 (← takeChar? ':' cs)
  return ((hour, minute, second), cs)

def readFraction (cs : List Char) : Except TimeFault (Nat × List Char) :=
  match cs with
  | '.' :: rest =>
    let digits := rest.takeWhile Char.isDigit
    if digits.isEmpty then .error .fraction
    else .ok (fractionNanos digits, rest.dropWhile Char.isDigit)
  | _ => .ok (0, cs)

/-- Reads an offset of hours and minutes. An offset of minus zero is unknown, and one of a day or
more or with minutes beyond 59 is none. -/
def readOffset? (negative : Bool) (cs : List Char) : Option (Option Int × List Char) := do
  let (hour, cs) ← takeDigits? 2 cs
  let (minute, cs) ← takeDigits? 2 (← takeChar? ':' cs)
  let known := hour < 24 && minute < 60 && (!negative || hour > 0 || minute > 0)
  let minutes : Int := hour * 60 + minute
  return (if known then some (if negative then -minutes else minutes) else none, cs)

def readZone (cs : List Char) : Except TimeFault (Option Int × List Char) :=
  match cs with
  | 'Z' :: rest => .ok (some 0, rest)
  | '+' :: rest | '-' :: rest =>
    match readOffset? (cs.head? = some '-') rest with
    | some r => .ok r
    | none => .error .offset
  | _ => .error (.zone (nextByte? cs))

/-- Takes a written point in time apart, and gives what follows it. -/
def readParts (cs : List Char) : Except TimeFault (TimeParts × List Char) :=
  match readDate? cs with
  | none => .error .date
  | some (date, cs) =>
    match takeChar? 'T' cs with
    | none => .error (.separator (nextByte? cs))
    | some cs =>
      match readTime? cs with
      | none => .error .time
      | some ((hour, minute, second), cs) => do
        let (nanos, cs) ← readFraction cs
        let (offset, cs) ← readZone cs
        return (⟨date, hour, minute, second, nanos, offset⟩, cs)

/-- The point in time, if its parts are in their ranges. A leap second counts as the one before. -/
def ofParts? (t : TimeParts) : Option Timestamp :=
  match t.offset with
  | none => none
  | some offset =>
    let second := if t.second = 60 then 59 else t.second
    if t.date.isValid && t.hour < 24 && t.minute < 60 && second < 60 then
      let ofDay : Int := (t.hour * 3600 + t.minute * 60 + second : Nat)
      some ⟨t.date.toDays * 86400 + ofDay - offset * 60, t.nanos⟩
    else none

def ofText (s : String) : Except TimestampError Timestamp :=
  match readParts s.toList with
  | .error f => .error (.form f)
  | .ok (parts, rest) =>
    match ofParts? parts with
    | none => .error .invalid
    | some t =>
      if !rest.isEmpty then .error .invalid
      else if t.inRange then .ok t
      else .error .range

/-- Nanoseconds between zero and a second. -/
def normalized (t : Timestamp) : Timestamp :=
  ⟨t.seconds + t.nanos / nanosPerSecond, t.nanos % nanosPerSecond⟩

def toText (t : Timestamp) : String :=
  let t := t.normalized
  let date := Date.ofDays (t.seconds / 86400)
  let ofDay := (t.seconds % 86400).toNat
  let year :=
    if date.year > 9999 then s!"+{date.year}"
    else if date.year < 0 then "-" ++ padded 4 date.year.natAbs
    else padded 4 date.year.natAbs
  s!"{year}-{padded 2 date.month}-{padded 2 date.day}T{padded 2 (ofDay / 3600)}:" ++
    s!"{padded 2 (ofDay / 60 % 60)}:{padded 2 (ofDay % 60)}{fractionText t.nanos.toNat}Z"

end Timestamp

/-! Lengths of time -/

structure Duration where
  seconds : Int
  nanos : Int
  deriving DecidableEq, Repr

inductive DurationError where
  | form
  | range
  deriving DecidableEq, Repr

def DurationError.message : DurationError → String
  | form => "failed to parse duration"
  | range => "duration out of range"

namespace Duration

/-- Ten thousand years. -/
def maxSeconds : Int := 315576000000

def secondsInRange (d : Duration) : Bool := -maxSeconds ≤ d.seconds && d.seconds ≤ maxSeconds

/-- Whether a length can be written. -/
def inRange (d : Duration) : Bool :=
  d.secondsInRange && -nanosPerSecond < d.nanos && d.nanos < nanosPerSecond

/-- Reads seconds with an optional fraction and the letter `s`. -/
def readText? (cs : List Char) : Option Duration := do
  let (negative, cs) := match cs with
    | '-' :: rest => (true, rest)
    | rest => (false, rest)
  let digits := cs.takeWhile Char.isDigit
  let seconds : Int := Number.digitsToNat digits
  if digits.isEmpty || seconds ≥ 0x8000000000000000 then none
  else
    let (nanos, rest) ← match cs.dropWhile Char.isDigit with
      | '.' :: rest =>
        let digits := rest.takeWhile Char.isDigit
        if digits.isEmpty then none
        else some (fractionNanos digits, rest.dropWhile Char.isDigit)
      | rest => some (0, rest)
    if rest = ['s'] then
      some (if negative then ⟨-seconds, -(nanos : Int)⟩ else ⟨seconds, nanos⟩)
    else none

def ofText (s : String) : Except DurationError Duration :=
  match readText? s.toList with
  | none => .error .form
  | some d => if d.secondsInRange then .ok d else .error .range

/-- Seconds and nanoseconds of one sign, for nanoseconds of less than a second. -/
def normalized (d : Duration) : Duration :=
  if d.seconds < 0 && d.nanos > 0 then ⟨d.seconds + 1, d.nanos - nanosPerSecond⟩
  else if d.seconds > 0 && d.nanos < 0 then ⟨d.seconds - 1, d.nanos + nanosPerSecond⟩
  else d

/-- The sign is shown if either part has one, also when it vanishes in the sum. -/
def toText (d : Duration) : String :=
  let n := d.normalized
  let sign := if d.seconds < 0 || d.nanos < 0 then "-" else ""
  s!"{sign}{n.seconds.natAbs}{fractionText n.nanos.natAbs}s"

end Duration

end DynamicRpc.Message
