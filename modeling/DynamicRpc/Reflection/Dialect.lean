import DynamicRpc.Json.Record
import DynamicRpc.Text.Ascii

/-!
The two generations of the reflection protocol. A client may leave the choice open: it then tries
the newer one first.
-/
namespace DynamicRpc.Reflection

inductive Dialect where
  | v1
  | v1alpha
  deriving DecidableEq, Repr

namespace Dialect

def name : Dialect → String
  | v1 => "v1"
  | v1alpha => "v1alpha"

def serviceName (d : Dialect) : String := s!"grpc.reflection.{d.name}.ServerReflection"

/-- The name of a fixed dialect, or of the open choice. -/
def choiceName : Option Dialect → String
  | some d => d.name
  | none => "auto"

def unknownMessage (s : String) : String :=
  s!"unknown reflection protocol '{s}', expected one of: auto, v1, v1alpha"

/-- Reads a choice in any case. The empty text leaves it open. -/
def readChoice? (s : String) : Option (Option Dialect) :=
  if s.isEmpty || Text.equalIgnoringCase s "auto" then some none
  else if Text.equalIgnoringCase s v1.name then some (some v1)
  else if Text.equalIgnoringCase s v1alpha.name then some (some v1alpha)
  else none

open Json in
def reader : Reader (Option Dialect) := do
  let s ← readText "a string"
  match readChoice? s with
  | some d => return d
  | none => Reader.failUnplaced (.other (unknownMessage s))

end Dialect

end DynamicRpc.Reflection
