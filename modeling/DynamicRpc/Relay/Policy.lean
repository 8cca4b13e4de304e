import DynamicRpc.Relay.Config
import DynamicRpc.Relay.Envelope

/-!
Which headers of an envelope the relay refuses, and which inbound headers replace headers of the
outbound request. Names are compared in their lower case form.
-/
namespace DynamicRpc.Relay

open Http

structure Policy where
  disallowed : List HeaderName
  /-- Source and target names, applied in order. -/
  forward : List (HeaderName × HeaderName)
  deriving DecidableEq, Repr

def configuredName (name : String) : Except ConfigError HeaderName :=
  match HeaderName.ofText? name with
  | some n => .ok n
  | none => .error (.headerName name)

namespace Policy

def ofNames (disallowed : List String) (forward : List ForwardEntry) :
    Except ConfigError Policy := do
  let disallowed ← disallowed.mapM configuredName
  let forward ← forward.mapM fun f => do
    return (← configuredName f.source, ← configuredName f.target)
  return ⟨disallowed, forward⟩

def refuses (p : Policy) (h : EnvelopeHeader) : Bool :=
  match HeaderName.ofText? h.key with
  | some n => p.disallowed.contains n
  | none => false

/-- The name of the first refused header, as written. -/
def refused? (p : Policy) (headers : List EnvelopeHeader) : Option String :=
  (headers.find? p.refuses).map (·.key)

/-- Replaces the values of the target by those of the source, if the source is present. -/
def forwardOne (inbound : HeaderMap) (outbound : HeaderMap) (entry : HeaderName × HeaderName) :
    Option HeaderMap :=
  match inbound.values entry.1 with
  | [] => some outbound
  | values => (outbound.remove entry.2).appendAll? (values.map fun v => (entry.2, v))

/-- Applies all entries; none if the collection overflows. -/
def applyForwarding? (p : Policy) (inbound outbound : HeaderMap) : Option HeaderMap :=
  p.forward.foldlM (forwardOne inbound) outbound

end Policy

end DynamicRpc.Relay
