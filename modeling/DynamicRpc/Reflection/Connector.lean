import DynamicRpc.Reflection.Cache
import DynamicRpc.Reflection.Dialect
import DynamicRpc.Reflection.Query

/-!
Reflection streams as a client sees them. A client waits in three places: for a stream to open, for
a query to be written and for a reply to be read. A connector is anything that decides how each wait
ends, from all that happened before; the caller's losing patience is one of the ways. It decides
besides in which order new files are linked, which a client leaves open as well.
-/
namespace DynamicRpc.Reflection

/-- How an operation ends that may be given up while it waits. -/
inductive Outcome (ε α : Type) where
  | done (a : α)
  | failed (e : ε)
  | dropped
  deriving DecidableEq, Repr

/-- An operation that has ended, with the state that it left. -/
abbrev Ended (σ ε α : Type) := Outcome ε α × σ

namespace Ended

/-- Goes on with the result; a failure or a drop ends there. -/
def andThen (x : Ended σ ε α) (next : α → σ → Ended σ ε β) : Ended σ ε β :=
  match x with
  | (.done a, s) => next a s
  | (.failed e, s) => (.failed e, s)
  | (.dropped, s) => (.dropped, s)

@[simp] theorem andThen_done (a : α) (s : σ) (next : α → σ → Ended σ ε β) :
    andThen (.done a, s) next = next a s := rfl

@[simp] theorem andThen_failed (e : ε) (s : σ) (next : α → σ → Ended σ ε β) :
    andThen (.failed e, s) next = (.failed e, s) := rfl

@[simp] theorem andThen_dropped (s : σ) (next : α → σ → Ended σ ε β) :
    andThen ((.dropped : Outcome ε α), s) next = (.dropped, s) := rfl

end Ended

/-- A stream of a dialect; the number tells apart the streams that one client opened. -/
structure Stream where
  dialect : Dialect
  number : Nat
  deriving DecidableEq, Repr

/-- One wait and how it ended. -/
inductive Event where
  | opening (stream : Stream) (outcome : Outcome QueryError Unit)
  | writing (stream : Stream) (query : Query) (outcome : Outcome QueryError Unit)
  | reading (stream : Stream) (outcome : Outcome QueryError Reply)
  deriving DecidableEq, Repr

/-- All waits, the oldest first. -/
abbrev History := List Event

def Event.isOpening : Event → Bool
  | opening .. => true
  | _ => false

/-- The next stream that a client opens. -/
def History.nextStream (h : History) (d : Dialect) : Stream := ⟨d, h.countP Event.isOpening⟩

structure Connector where
  opening : History → Stream → Outcome QueryError Unit
  writing : History → Stream → Query → Outcome QueryError Unit
  reading : History → Stream → Outcome QueryError Reply
  linking : History → LinkOrder

end DynamicRpc.Reflection
