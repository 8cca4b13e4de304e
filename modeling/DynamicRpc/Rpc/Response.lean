import DynamicRpc.Rpc.Status
import DynamicRpc.Wire.Basic

/-!
What a server answers to a call. The body is a sequence of frames, each a flag, a length and a
message; the status comes after it, or alone in the headers. A fault in a message does not end the
stream: reading goes on behind the bytes that were taken.
-/
namespace DynamicRpc.Rpc

inductive Response where
  | headersOnly (status : Status)
  | answered (body : Bytes) (status : Status)
  deriving DecidableEq, Repr

def bigEndian (b : Bytes) : Nat := b.foldl (fun n x => n * 256 + x.toNat) 0

/-- Writes a message as a frame. -/
def frame (payload : Bytes) : Bytes :=
  let n := payload.length
  let length := [n / 0x1000000, n / 0x10000, n / 0x100, n].map UInt8.ofNat
  0 :: length ++ payload

/-- Messages may not be longer. -/
def maxMessageLength : Nat := 4194304

inductive FrameError where
  | compressed
  | flag (b : UInt8)
  | tooLong (length : Nat)
  | message (e : Wire.DecodeError)
  deriving DecidableEq, Repr

def FrameError.status : FrameError → Status
  | compressed =>
    ⟨.internal, "protocol error: received message with compressed-flag but no grpc-encoding was " ++
      "specified"⟩
  | flag b =>
    ⟨.internal, s!"protocol error: received message with invalid compression flag: {b.toNat} " ++
      "(valid flags are 0 and 1) while receiving response with status: 200 OK"⟩
  | tooLong n =>
    ⟨.outOfRange, s!"Error, decoded message length too large: found {n} bytes, the limit is: " ++
      s!"{maxMessageLength} bytes"⟩
  | message e => ⟨.internal, s!"Failed to decode Protobuf bytes: {e.message}"⟩

/-- Reads the flag and the length of a frame, if they are there. A bad flag is taken alone. -/
def readFrameHead? : Bytes → Option (Except FrameError Nat × Bytes)
  | f :: a :: b :: c :: d :: rest =>
    let n := bigEndian [a, b, c, d]
    if f = 1 then some (.error .compressed, a :: b :: c :: d :: rest)
    else if f ≠ 0 then some (.error (.flag f), a :: b :: c :: d :: rest)
    else if n > maxMessageLength then some (.error (.tooLong n), rest)
    else some (.ok n, rest)
  | _ => none

theorem readFrameHead?_length {b rest : Bytes} {r : Except FrameError Nat}
    (h : readFrameHead? b = some (r, rest)) : rest.length < b.length := by
  unfold readFrameHead? at h
  split at h
  · simp only at h
    repeat' split at h
    all_goals
      simp only [Option.some.injEq, Prod.mk.injEq] at h
      obtain ⟨_, rfl⟩ := h
      simp only [List.length_cons]
      omega
  · simp at h

/-- Messages and faults in order, given the length of the message that comes next if its head was
read already. After a fault in a message so many bytes are read again from where it showed; where
none were taken that would not end, and the stream ends here. -/
def readFrames (decode : Bytes → Wire.Result α) (awaited : Option Nat) (b : Bytes) :
    List (Except FrameError α) :=
  match awaited with
  | none =>
    match _h : readFrameHead? b with
    | none => []
    | some (.error e, rest) => .error e :: readFrames decode none rest
    | some (.ok n, rest) => readFrames decode (some n) rest
  | some n =>
    if _h : b.length < n then []
    else
      match decode (b.take n) with
      | .ok m => .ok m :: readFrames decode none (b.drop n)
      | .error e =>
        .error (.message e) ::
          if _h : (e.unread ++ b.drop n).length < b.length then
            readFrames decode (some n) (e.unread ++ b.drop n)
          else []
termination_by 2 * b.length + awaited.toList.length
decreasing_by
  all_goals simp only [Option.toList, List.length_cons, List.length_nil, List.length_drop]
  · have := readFrameHead?_length _h
    omega
  · have := readFrameHead?_length _h
    omega
  · omega
  · omega

namespace Response

/-- What a client reads of a response, in order. A status other than success is the last. -/
def items (decode : Bytes → Wire.Result α) (body : Bytes) (status : Status) :
    List (Except Status α) :=
  (readFrames decode none body).map (fun
    | .ok m => .ok m
    | .error e => .error e.status) ++
    if status.code = .ok then [] else [.error status]

def missing : Status := ⟨.internal, "Missing response message."⟩

/-- The first message, if nothing after it fails. -/
def first (items : List (Except Status α)) : Except Status α :=
  match items with
  | [] => .error missing
  | item :: rest => do
    let m ← item
    let _ ← rest.mapM id
    return m

/-- A response read as one message. -/
def single (decode : Bytes → Wire.Result α) : Response → Except Status α
  | headersOnly status => if status.code = .ok then .error missing else .error status
  | answered body status => first (items decode body status)

/-- A response read as a stream. -/
def stream (decode : Bytes → Wire.Result α) : Response → Except Status (List (Except Status α))
  | headersOnly status => if status.code = .ok then .ok [] else .error status
  | answered body status => .ok (items decode body status)

end Response

end DynamicRpc.Rpc
