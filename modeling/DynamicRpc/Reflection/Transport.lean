import DynamicRpc.Reflection.Connector

/-!
A client's side of the reflection protocol. It holds at most one stream, and a stream only while no
query on it waits for its reply: an exchange takes the stream out and puts it back once the reply is
read, so one that fails or is given up takes the stream down with it. The first dialect that
brings a reply is kept for good.
-/
namespace DynamicRpc.Reflection

inductive Connection where
  | idle
  | streaming (s : Stream)
  | closed
  deriving DecidableEq, Repr

structure Transport where
  choice : Option Dialect
  connection : Connection
  history : History
  deriving Repr

namespace Transport

def ofChoice (choice : Option Dialect) : Transport := ⟨choice, .idle, []⟩

def isOpen (t : Transport) : Bool := t.connection matches .streaming _

def record (t : Transport) (e : Event) : Transport := { t with history := t.history ++ [e] }

/-- Drops the stream. A closed transport stays closed. -/
def reset (t : Transport) : Transport :=
  match t.connection with
  | .closed => t
  | _ => { t with connection := .idle }

def close (t : Transport) : Transport := { t with connection := .closed }

def openStream (c : Connector) (t : Transport) (d : Dialect) :
    Ended Transport QueryError Stream :=
  let stream := t.history.nextStream d
  let outcome := c.opening t.history stream
  Ended.andThen (outcome, t.record (.opening stream outcome)) fun () t => (.done stream, t)

def write (c : Connector) (t : Transport) (s : Stream) (q : Query) :
    Ended Transport QueryError Unit :=
  let outcome := c.writing t.history s q
  (outcome, t.record (.writing s q outcome))

def read (c : Connector) (t : Transport) (s : Stream) : Ended Transport QueryError Reply :=
  let outcome := c.reading t.history s
  (outcome, t.record (.reading s outcome))

/-- Writes a query and reads its reply. The stream is kept if the reply is of the right kind. -/
def roundTrip (c : Connector) (t : Transport) (s : Stream) (q : Query) :
    Ended Transport QueryError Reply :=
  (t.write c s q).andThen fun () t => (t.read c s).andThen fun reply t =>
    if reply.answers q then (.done reply, { t with connection := .streaming s })
    else (.failed (.unexpected s!"{reply.kind} in reply to {q.text}"), t)

/-- A round trip in a dialect, on the open stream if it speaks it and otherwise on a new one. -/
def exchange (c : Connector) (t : Transport) (d : Dialect) (q : Query) :
    Ended Transport QueryError Reply :=
  let idle := { t with connection := .idle }
  match t.connection with
  | .closed => (.failed .closed, t)
  | .streaming s =>
    if s.dialect = d then idle.roundTrip c s q
    else (idle.openStream c d).andThen fun s t => t.roundTrip c s q
  | .idle => (idle.openStream c d).andThen fun s t => t.roundTrip c s q

def pin (d : Dialect) (reply : Reply) (t : Transport) : Ended Transport QueryError Reply :=
  (.done reply, { t with choice := some d })

/-- Asks in the chosen dialect. While there is none, the older dialect is tried once a service has
no notion of the newer one. -/
def send (c : Connector) (t : Transport) (q : Query) : Ended Transport QueryError Reply :=
  match t.choice with
  | some d => t.exchange c d q
  | none =>
    match t.exchange c .v1 q with
    | (.done reply, t) => t.pin .v1 reply
    | (.failed e, t) =>
      if e.isUnimplemented then (t.exchange c .v1alpha q).andThen fun r t => t.pin .v1alpha r
      else (.failed e, t)
    | (.dropped, t) => (.dropped, t)

end Transport

end DynamicRpc.Reflection
