import DynamicRpc.Proofs.Rpc.RequestHeaders
import DynamicRpc.Proofs.Schema.Definitions
import DynamicRpc.Rpc.Client

/-!
What a request asks for, and what may keep it from being made: its service, its method, its body
with all its items, and its headers. A call is prepared from all of these, and where nothing is in
the way, what it carries follows from the request.
-/
namespace DynamicRpc.Message

open Schema

/-- A message that was read is of the type that was asked for. -/
theorem type_of_ofJson {p : Pool} {type : String} {v : Json.Value} {m : Message}
    (h : ofJson p type v = .ok m) : m.type = type := by
  obtain ⟨x, _, h⟩ := Success.bind_eq_ok.1 h
  split at h
  next fields => exact (Success.pure_eq_ok.1 h) ▸ rfl
  next => exact (Success.pure_eq_ok.1 h) ▸ rfl

end DynamicRpc.Message

namespace DynamicRpc.Rpc

open Message Reflection Schema Success

variable {p : Pool} {e : Endpoint} {ms : List Message} {body : Json.Value} {call : Call}
  {r : Request}

/-! Bodies -/

namespace Endpoint

/-- The messages that a body stands for: one for all of it, or one for each item. -/
inductive Reads (p : Pool) (e : Endpoint) : Json.Value → List Message → Prop where
  | whole (body : Json.Value) (m : Message) (single : e.method.clientStreaming = false)
    (h : ofJson p e.method.input body = .ok m) : Reads p e body [m]
  | items (items : List Json.Value) (ms : List Message) (streams : e.method.clientStreaming = true)
    (h : List.Forall₂ (fun v m => ofJson p e.method.input v = .ok m) items ms) :
    Reads p e (.list items) ms

/-- What keeps a body from being read. -/
inductive Unreadable (p : Pool) (e : Endpoint) : Json.Value → Prop where
  | body (body : Json.Value) (single : e.method.clientStreaming = false)
    (unfit : ∀ m, ofJson p e.method.input body ≠ .ok m) : Unreadable p e body
  | notAList (body : Json.Value) (streams : e.method.clientStreaming = true)
    (other : ∀ items, body ≠ .list items) : Unreadable p e body
  | item (items : List Json.Value) (streams : e.method.clientStreaming = true) (v : Json.Value)
    (mem : v ∈ items) (unfit : ∀ m, ofJson p e.method.input v ≠ .ok m) :
    Unreadable p e (.list items)

theorem Reads.readable (x : e.Reads p body ms) : ¬ e.Unreadable p body := by
  intro un
  cases x with
  | whole _ m single h =>
    cases un with
    | body _ _ unfit => exact unfit m h
    | notAList _ streams _ => cases single.symm.trans streams
    | item _ streams => cases single.symm.trans streams
  | items items ms streams h =>
    cases un with
    | body _ single _ => cases single.symm.trans streams
    | notAList _ _ other => exact other items rfl
    | item _ _ v mem unfit =>
      obtain ⟨m, _, read⟩ := exists_of_forall₂_left h mem
      exact unfit m read

theorem readMessage_eq_ok {v : Json.Value} {m : Message} :
    e.readMessage p v = .ok m ↔ ofJson p e.method.input v = .ok m := by
  unfold readMessage
  split
  next x hx => rw [hx, Except.ok.injEq, Except.ok.injEq]
  next fault hx => simp [hx]

/-- A body is read, or something in it keeps it from being read. -/
theorem messages_or_unreadable (p : Pool) (e : Endpoint) (body : Json.Value) :
    (∃ ms, e.messages p body = .ok ms ∧ e.Reads p body ms) ∨
      (∃ fault, e.messages p body = .error fault) ∧ e.Unreadable p body := by
  unfold messages
  split
  next streams =>
    split
    next items =>
      -- The walk stops at the first item that is not read, so one such item is enough.
      by_cases fit : ∀ v ∈ items, ∃ m, e.readMessage p v = .ok m
      · obtain ⟨ms, read⟩ := exists_mapM_eq_ok fit
        exact .inl ⟨ms, read, .items items ms streams
          ((mapM_eq_ok.1 read).imp fun _ _ => readMessage_eq_ok.1)⟩
      · push Not at fit
        obtain ⟨v, mem, unfit⟩ := fit
        refine .inr ⟨?_, .item items streams v mem fun m h => unfit m (readMessage_eq_ok.2 h)⟩
        cases read : items.mapM (e.readMessage p) with
        | error fault => exact ⟨fault, rfl⟩
        | ok ms =>
          obtain ⟨m, _, read⟩ := exists_of_forall₂_left (mapM_eq_ok.1 read) mem
          exact absurd read (unfit m)
    next other => exact .inr ⟨⟨_, rfl⟩, .notAList body streams other⟩
  next single =>
    have single : e.method.clientStreaming = false := Bool.eq_false_iff.2 single
    cases read : e.readMessage p body with
    | ok m => exact .inl ⟨[m], rfl, .whole body m single (readMessage_eq_ok.1 read)⟩
    | error fault =>
      refine .inr ⟨⟨fault, rfl⟩, .body body single fun m h => ?_⟩
      cases read.symm.trans (readMessage_eq_ok.2 h)

theorem Reads.type (x : e.Reads p body ms) : ∀ m ∈ ms, m.type = e.method.input := by
  intro m mem
  cases x with
  | whole _ m' single h =>
    rw [List.mem_singleton.1 mem]
    exact type_of_ofJson h
  | items items ms streams h =>
    obtain ⟨v, _, hv⟩ := exists_of_forall₂_right h mem
    exact type_of_ofJson hv

/-- Messages of the input type are all written. -/
theorem Reads.written (x : e.Reads p body ms) :
    ms.mapM (e.writeMessage p) = .ok (ms.map (·.encode p)) := by
  rw [mapM_eq_ok, List.forall₂_map_right_iff, List.forall₂_same]
  intro m mem
  rw [writeMessage, if_pos (x.type m mem)]

/-- What a call is prepared to, from messages and headers. -/
inductive Preparing (p : Pool) (e : Endpoint) (ms : List Message) (headers : RequestHeaders) :
    Except (Stop RequestError) Call → Prop where
  | header (fault : RequestError) (h : String × String) (mem : h ∈ headers)
    (bad : isReserved h.1 = true ∨ ¬ RequestHeaders.Fit h) :
    Preparing p e ms headers (.error (.refused fault))
  | crowded (many : Http.HeaderMap.guardedNames ≤ headers.keys.dedup.length) :
    Preparing p e ms headers (.error .overflow)
  | path (fault : RequestError) (invalid : Http.readMethodPath? e.path = none) :
    Preparing p e ms headers (.error (.refused fault))
  | prepared (metadata : Http.HeaderMap) (path : String) (query : Option String)
    (made : headers.metadata = .ok metadata) (sendable : headers.Sendable)
    (names : ∀ n, n ∈ metadata.names ↔ n ∈ headers.keys)
    (read : Http.readMethodPath? e.path = some (path, query)) :
    Preparing p e ms headers (.ok ⟨path, query, metadata, ms.mapM (e.writeMessage p)⟩)

theorem call_preparing (p : Pool) (e : Endpoint) (ms : List Message) (headers : RequestHeaders) :
    Preparing p e ms headers (e.call p ms headers) := by
  unfold Endpoint.call
  have becoming := headers.metadata_becoming
  cases made : headers.metadata with
  | error stop =>
    rw [made] at becoming
    cases becoming with
    | refused fault h mem bad => exact .header _ h mem bad
    | overflow many => exact .crowded many
  | ok metadata =>
    rw [made] at becoming
    cases becoming with
    | metadata _ sendable names =>
      dsimp only
      split
      next invalid => exact .path _ invalid
      next path query read => exact .prepared metadata path query made sendable names read

end Endpoint

/-! Requests -/

namespace Request

/-- The endpoint that a request names, as far as a schema knows it. -/
def endpoint? (r : Request) (p : Pool) : Option Endpoint :=
  match p.find? r.service with
  | some (.service found) => (found.methods.find? (·.name = r.method)).map (⟨found.fullName, ·⟩)
  | _ => none

/-- The path of an endpoint is made of the names that the request gives, less a leading dot. -/
theorem path_of_endpoint? (h : r.endpoint? p = some e) :
    e.path = "/" ++ withoutDot r.service ++ "/" ++ r.method := by
  unfold endpoint? at h
  split at h
  next found hf =>
    obtain ⟨m, hm, rfl⟩ := Option.map_eq_some_iff.1 h
    have service : found.fullName = withoutDot r.service := (Pool.find?_mem hf).2
    have method : m.name = r.method := by simpa using List.find?_some hm
    rw [Endpoint.path, service, method]
  next => cases h

/-- What keeps a request from being made, once its service is looked up. -/
inductive Obstacle (r : Request) (p : Pool) : Prop where
  | notAService (d : Descriptor) (found : p.find? r.service = some d)
    (other : ∀ service, d ≠ .service service)
  | unknownMethod (service : Service) (found : p.find? r.service = some (.service service))
    (absent : ∀ m ∈ service.methods, m.name ≠ r.method)
  | body (e : Endpoint) (he : r.endpoint? p = some e) (unreadable : e.Unreadable p r.body)
  | header (h : String × String) (mem : h ∈ r.headers)
    (bad : isReserved h.1 = true ∨ ¬ RequestHeaders.Fit h)

theorem no_obstacle (he : r.endpoint? p = some e) (reads : e.Reads p r.body ms)
    (sendable : r.headers.Sendable) : ¬ r.Obstacle p := by
  intro obstacle
  cases obstacle with
  | notAService d found other =>
    unfold endpoint? at he
    split at he
    next service hs => exact other service (Option.some.inj (found.symm.trans hs))
    next => cases he
  | unknownMethod service found absent =>
    simp only [endpoint?, found, Option.map_eq_some_iff] at he
    obtain ⟨m, hm, _⟩ := he
    exact absent m (List.mem_of_find?_eq_some hm) (by simpa using List.find?_some hm)
  | body e' he' unreadable =>
    cases he.symm.trans he'
    exact reads.readable unreadable
  | header h mem bad =>
    rcases bad with reserved | unfit
    · cases (sendable h mem).1.symm.trans reserved
    · exact unfit (sendable h mem).2

/-- The names of the headers of a call: those that the request brings and those of the protocol. -/
def headerNames (r : Request) : List Http.HeaderName :=
  r.headers.keys ++ Client.ownHeaders.map (·.1)

/-- A call as it follows from a request. -/
structure Made (r : Request) (p : Pool) (call : Call) : Prop where
  endpoint : ∃ e ms, r.endpoint? p = some e ∧ e.Reads p r.body ms ∧
    call.messages = .ok (ms.map (·.encode p))
  headers : r.headers.Sendable ∧ ∃ metadata, r.headers.metadata = .ok metadata ∧
    metadata.appendAll? Client.ownHeaders = some call.headers
  names : ∀ n, n ∈ call.headers.names ↔ n ∈ r.headerNames
  path : Http.readMethodPath? ("/" ++ withoutDot r.service ++ "/" ++ r.method) =
    some (call.path, call.query)

theorem Made.no_obstacle (made : r.Made p call) : ¬ r.Obstacle p := by
  obtain ⟨e, ms, he, reads, _⟩ := made.endpoint
  exact Request.no_obstacle he reads made.headers.1

/-- The headers of a call fit into a collection. -/
theorem Made.room (made : r.Made p call) :
    r.headerNames.dedup.length ≤ Http.HeaderMap.maxNames := by
  have names : r.headerNames.dedup ⊆ call.headers.names :=
    fun n mem => (made.names n).2 (List.mem_dedup.1 mem)
  exact Nat.le_trans ((List.nodup_dedup _).subperm names).length_le
    call.headers.length_names_le_maxNames

/-- The names that a request gives are made of letters, digits, underscores and dots. -/
def Plain (r : Request) : Prop := ∀ ch ∈ (r.service ++ r.method).toList, Http.isIdentifierChar ch

instance (r : Request) : Decidable r.Plain :=
  decidable_of_iff ((r.service ++ r.method).toList.all Http.isIdentifierChar) List.all_eq_true

/-- A path of plain names reads as it is written. -/
theorem Plain.readMethodPath? (plain : r.Plain) :
    Http.readMethodPath? ("/" ++ withoutDot r.service ++ "/" ++ r.method) =
      some ("/" ++ withoutDot r.service ++ "/" ++ r.method, none) := by
  refine Http.readMethodPath?_of_plain fun ch mem => ?_
  simp only [Plain, String.toList_append, List.mem_append] at mem plain
  rcases mem with ((slash | service) | slash) | method
  · exact .inl (List.mem_singleton.1 slash)
  · exact .inr (plain ch (.inl (mem_of_withoutDot service)))
  · exact .inl (List.mem_singleton.1 slash)
  · exact .inr (plain ch (.inr method))

theorem Made.path_of_plain (made : r.Made p call) (plain : r.Plain) :
    call.path = "/" ++ withoutDot r.service ++ "/" ++ r.method ∧ call.query = none := by
  have read := made.path
  rw [plain.readMethodPath?] at read
  obtain ⟨path, query⟩ := Prod.mk.inj (Option.some.inj read)
  exact ⟨path.symm, query.symm⟩

end Request

end DynamicRpc.Rpc
