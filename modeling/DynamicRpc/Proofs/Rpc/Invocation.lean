import DynamicRpc.Proofs.Reflection.StableNames
import DynamicRpc.Proofs.Relay.CrowdedForwarding
import DynamicRpc.Proofs.Rpc.Requests

/-!
When a call is made. Everything that can be wrong with a request is found out before anything is
sent, so a request comes to one call, which carries the whole body, or to none. What is called is
what the request names, except for a leading dot; and what has more header names than a collection
can hold is neither called nor refused.
-/
namespace DynamicRpc.Rpc

open Message Reflection Schema

namespace Client

variable {c c' : Client} {s : Server} {patience : Nat} {r : Request} {call : Call} {d : Descriptor}

/-- What sending a call comes to. -/
inductive Sending (c : Client) (s : Server) (call : Call) :
    Except (Stop RequestError) (Response × Client) → Prop where
  | notReady (reason : String) (fault : s.fault? c.calls = some reason) :
    Sending c s call (.error (.refused (.notReady reason)))
  | crowded (many : Http.HeaderMap.guardedNames ≤
      (call.headers.names ++ ownHeaders.map (·.1)).dedup.length) :
    Sending c s call (.error .overflow)
  | sent (headers : Http.HeaderMap) (response : Response)
    (room : call.headers.appendAll? ownHeaders = some headers) :
    Sending c s call (.ok (response, { c with calls := c.calls ++ [{ call with headers }] }))

theorem send_sending (c : Client) (s : Server) (call : Call) :
    Sending c s call (c.send s call) := by
  unfold send
  split
  next reason fault => exact .notReady reason fault
  next =>
    cases room : call.headers.appendAll? ownHeaders with
    | some headers => exact .sent headers _ room
    | none =>
      have added : ∀ own ∈ ownHeaders, own.1 ∈ call.headers.names ++ ownHeaders.map (·.1) :=
        fun own mem => List.mem_append_right _ (List.mem_map_of_mem mem)
      rcases Http.HeaderMap.appendAll_names ownHeaders (List.subset_append_left _ _) added with
        ⟨m, fits, _⟩ | full
      · cases room.symm.trans fits
      · exact .crowded full

/-- The client with what it has learnt from looking a service up. -/
def informed (c : Client) (s : Server) (patience : Nat) (r : Request) : Client :=
  (c.describe s patience r.service).2

theorem informed_of_describe {o : Outcome ResolveError Descriptor}
    (h : c.describe s patience r.service = (o, c')) : c.informed s patience r = c' :=
  congrArg Prod.snd h

/-- A service that is described is known to the client afterwards. -/
theorem pool_informed (h : (c.describe s patience r.service).1 = .done d) :
    (c.informed s patience r).pool.find? r.service = some d := by
  rcases found : c.resolver.find s.reflection patience r.service with ⟨o, resolver⟩
  simp only [describe, resolve, found] at h
  simp only [informed, describe, resolve, found]
  exact Resolver.cached_of_find (h ▸ found)

/-- What looking a method up comes to: the lookup of the service ends without a result, or there is
an obstacle, or the endpoint is the one that the request names. -/
inductive Finding (c : Client) (s : Server) (patience : Nat) (r : Request) :
    Outcome InvokeError Endpoint → Prop where
  | unresolved (o : Outcome InvokeError Endpoint) (none : ∀ e, o ≠ .done e)
    (missing : ∀ d, (c.describe s patience r.service).1 ≠ .done d) : Finding c s patience r o
  | hindered (fault : InvokeError) (obstacle : r.Obstacle (c.informed s patience r).pool) :
    Finding c s patience r (.failed fault)
  | found (e : Endpoint) (he : r.endpoint? (c.informed s patience r).pool = some e) :
    Finding c s patience r (.done e)

theorem findMethod_finding (c : Client) (s : Server) (patience : Nat) (r : Request) :
    ∃ o, c.findMethod s patience r.service r.method = (o, c.informed s patience r) ∧
      Finding c s patience r o := by
  obtain ⟨o, described⟩ : ∃ o, c.describe s patience r.service = (o, c.informed s patience r) :=
    ⟨_, rfl⟩
  unfold findMethod
  rw [described]
  cases o with
  | failed e => exact ⟨_, rfl, .unresolved _ (by simp) (by simp [described])⟩
  | dropped => exact ⟨_, rfl, .unresolved _ (by simp) (by simp [described])⟩
  | done d =>
    have known : (c.informed s patience r).pool.find? r.service = some d :=
      pool_informed (by rw [described])
    cases d with
    | service service =>
      dsimp only
      split
      next m hm =>
        refine ⟨_, rfl, .found _ ?_⟩
        simp only [Request.endpoint?, known, hm, Option.map_some]
      next absent =>
        exact ⟨_, rfl, .hindered _ (.unknownMethod service known
          (by simpa using List.find?_eq_none.1 absent))⟩
    | message => exact ⟨_, rfl, .hindered _ (.notAService _ known (by simp))⟩
    | enum => exact ⟨_, rfl, .hindered _ (.notAService _ known (by simp))⟩
    | extension => exact ⟨_, rfl, .hindered _ (.notAService _ known (by simp))⟩

/-- What a request comes to. Only the last way to end makes a call. -/
inductive Invoking (c : Client) (s : Server) (patience : Nat) (r : Request) :
    Ended Client (Stop InvokeError) Answer → Prop where
  | unresolved (o : Outcome (Stop InvokeError) Answer) (none : ∀ a, o ≠ .done a)
    (answers : o ≠ .failed .overflow)
    (missing : ∀ d, (c.describe s patience r.service).1 ≠ .done d) :
    Invoking c s patience r (o, c.informed s patience r)
  | hindered (fault : InvokeError) (obstacle : r.Obstacle (c.informed s patience r).pool) :
    Invoking c s patience r (.failed (.refused fault), c.informed s patience r)
  | pathless (fault : InvokeError)
    (invalid : Http.readMethodPath? ("/" ++ withoutDot r.service ++ "/" ++ r.method) = none) :
    Invoking c s patience r (.failed (.refused fault), c.informed s patience r)
  | notReady (reason : String) (fault : s.fault? c.calls = some reason) :
    Invoking c s patience r
      (.failed (.refused (.request (.notReady reason))), c.informed s patience r)
  | crowded (many : Http.HeaderMap.guardedNames ≤ r.headerNames.dedup.length) :
    Invoking c s patience r (.failed .overflow, c.informed s patience r)
  | called (a : Answer) (call : Call) (made : r.Made (c.informed s patience r).pool call) :
    Invoking c s patience r
      (.done a, { c.informed s patience r with calls := c.calls ++ [call] })

theorem invoke_invoking (c : Client) (s : Server) (patience : Nat) (r : Request) :
    Invoking c s patience r (c.invoke s patience r) := by
  obtain ⟨o, found, finding⟩ := findMethod_finding c s patience r
  -- Every step is told by what it comes to; each ending before the last step is one without a call.
  unfold invoke
  rw [found]
  cases finding with
  | unresolved _ none missing =>
    cases o with
    | done e => exact absurd rfl (none e)
    | failed e => exact .unresolved _ nofun nofun missing
    | dropped => exact .unresolved _ nofun nofun missing
  | hindered fault obstacle => exact .hindered _ obstacle
  | found e he =>
    dsimp only
    have path : e.path = "/" ++ withoutDot r.service ++ "/" ++ r.method :=
      Request.path_of_endpoint? he
    rcases e.messages_or_unreadable (c.informed s patience r).pool r.body with
      ⟨ms, read, reads⟩ | ⟨⟨fault, unread⟩, unreadable⟩
    · rw [read]
      dsimp only
      have preparing := e.call_preparing (c.informed s patience r).pool ms r.headers
      generalize e.call (c.informed s patience r).pool ms r.headers = prepared at preparing
      cases preparing with
      | header fault h mem bad => exact .hindered _ (.header h mem bad)
      | crowded many =>
        exact .crowded (Nat.le_trans many
          (Http.HeaderMap.length_dedup_le (List.subset_append_left _ _)))
      | path fault invalid => exact .pathless _ (path ▸ invalid)
      | prepared metadata target query made sendable names valid =>
        dsimp only
        have among : metadata.names ++ ownHeaders.map (·.1) ⊆ r.headerNames :=
          List.append_subset.2 ⟨fun n mem => List.mem_append_left _ ((names n).1 mem),
            List.subset_append_right _ _⟩
        have sending := (c.informed s patience r).send_sending s
          ⟨target, query, metadata, ms.mapM (e.writeMessage (c.informed s patience r).pool)⟩
        generalize (c.informed s patience r).send s _ = sent at sending
        cases sending with
        | notReady reason fault => exact .notReady reason fault
        | crowded many =>
          exact .crowded (Nat.le_trans many (Http.HeaderMap.length_dedup_le among))
        | sent headers response room =>
          refine .called _ _ ⟨⟨e, ms, he, reads, reads.written⟩, ⟨sendable, metadata, made, room⟩,
            fun n => ?_, path ▸ valid⟩
          rw [Http.HeaderMap.mem_names_appendAll room, names, Request.headerNames, List.mem_append]
    · rw [unread]
      exact .hindered _ (.body e he unreadable)

/-- Once its service is described, a request of plain names with few headers is called if nothing
keeps it from being made and the connection is ready. -/
theorem called_of_unhindered (described : (c.describe s patience r.service).1 = .done d)
    (free : ¬ r.Obstacle (c.informed s patience r).pool) (plain : r.Plain)
    (ready : s.fault? c.calls = none)
    (few : r.headerNames.dedup.length < Http.HeaderMap.guardedNames) :
    ∃ a call, r.Made (c.informed s patience r).pool call ∧ c.invoke s patience r =
      (.done a, { c.informed s patience r with calls := c.calls ++ [call] }) := by
  have invoking := c.invoke_invoking s patience r
  generalize c.invoke s patience r = ended at invoking
  cases invoking with
  | unresolved o none answers missing => exact absurd described (missing d)
  | hindered fault obstacle => exact absurd obstacle free
  | pathless fault invalid => cases invalid.symm.trans plain.readMethodPath?
  | notReady reason fault => cases ready.symm.trans fault
  | crowded many => exact absurd few (Nat.not_lt.2 many)
  | called a call made => exact ⟨a, call, made, rfl⟩

/-- Such a request gets no answer, not even a refusal, if it has too many header names. -/
theorem no_answer_of_crowded (described : (c.describe s patience r.service).1 = .done d)
    (free : ¬ r.Obstacle (c.informed s patience r).pool) (plain : r.Plain)
    (ready : s.fault? c.calls = none)
    (many : Http.HeaderMap.maxNames < r.headerNames.dedup.length) :
    c.invoke s patience r = (.failed .overflow, c.informed s patience r) := by
  have invoking := c.invoke_invoking s patience r
  generalize c.invoke s patience r = ended at invoking
  cases invoking with
  | unresolved o none answers missing => exact absurd described (missing d)
  | hindered fault obstacle => exact absurd obstacle free
  | pathless fault invalid => cases invalid.symm.trans plain.readMethodPath?
  | notReady reason fault => cases ready.symm.trans fault
  | crowded => rfl
  | called a call made => exact absurd made.room (Nat.not_le.2 many)

/-- A request that ends without an answer has made no call; one that ends with an answer has made a
single call, to the path of its names and with the messages that its body stands for. Nothing is
called over an obstacle, and only many headers keep a request from ending. Where none of this is in
the way, a request of plain names is called. -/
theorem request_makes_one_call_or_none {o : Outcome (Stop InvokeError) Answer}
    (h : c.invoke s patience r = (o, c')) :
    ((∀ a, o ≠ .done a) → c'.calls = c.calls) ∧
    (∀ a, o = .done a → ∃ call, c'.calls = c.calls ++ [call] ∧ r.Made c'.pool call ∧
      (r.Plain → call.path = "/" ++ withoutDot r.service ++ "/" ++ r.method ∧ call.query = none) ∧
      (r.Plain → r.service.toList.head? ≠ some '.' →
        call.path = "/" ++ r.service ++ "/" ++ r.method ∧
        ∀ text, splitMethodPath? text = some (r.service, r.method) →
          call.path = "/" ++ String.ofList (text.toList.dropWhile (· = '/')))) ∧
    (r.Obstacle c'.pool → (∀ a, o ≠ .done a) ∧ c'.calls = c.calls) ∧
    (r.headerNames.dedup.length < Http.HeaderMap.guardedNames → o ≠ .failed .overflow ∧
      (∀ d, (c.describe s patience r.service).1 = .done d → ¬ r.Obstacle c'.pool → r.Plain →
        s.fault? c.calls = none → ∃ a, o = .done a)) := by
  have invoking := c.invoke_invoking s patience r
  rw [h] at invoking
  cases invoking with
  | unresolved _ none answers missing =>
    exact ⟨fun _ => rfl, fun a done => absurd done (none a), fun _ => ⟨none, rfl⟩,
      fun _ => ⟨answers, fun d described => absurd described (missing d)⟩⟩
  | hindered fault obstacle =>
    exact ⟨fun _ => rfl, nofun, fun _ => ⟨nofun, rfl⟩,
      fun _ => ⟨nofun, fun _ _ free => absurd obstacle free⟩⟩
  | pathless fault invalid =>
    refine ⟨fun _ => rfl, nofun, fun _ => ⟨nofun, rfl⟩, fun _ => ⟨nofun, fun _ _ _ plain => ?_⟩⟩
    cases invalid.symm.trans plain.readMethodPath?
  | notReady reason fault =>
    refine ⟨fun _ => rfl, nofun, fun _ => ⟨nofun, rfl⟩, fun _ => ⟨nofun, fun _ _ _ _ ready => ?_⟩⟩
    cases ready.symm.trans fault
  | crowded many =>
    exact ⟨fun _ => rfl, nofun, fun _ => ⟨nofun, rfl⟩, fun few => absurd few (Nat.not_lt.2 many)⟩
  | called a call made =>
    refine ⟨fun none => absurd rfl (none a), fun _ _ => ⟨call, rfl, made, made.path_of_plain, ?_⟩,
      fun obstacle => absurd obstacle made.no_obstacle, fun _ => ⟨nofun, fun _ _ _ _ _ => ⟨a, rfl⟩⟩⟩
    intro plain undotted
    have path : call.path = "/" ++ r.service ++ "/" ++ r.method := by
      rw [(made.path_of_plain plain).1, withoutDot_eq undotted]
    refine ⟨path, fun text split => ?_⟩
    rw [path, splitMethodPath?_eq_some split, String.append_assoc, String.append_assoc,
      String.append_assoc]

/-! A stage with one service -/

/-- The file `s.proto` with a message `p.M` and a service `p.S`, whose method `Go` takes one message
and whose method `All` takes a stream of them. -/
def stageFile : Bytes :=
  [10, 7, 115, 46, 112, 114, 111, 116, 111, 18, 1, 112, 34, 3, 10, 1, 77, 50, 42, 10, 1, 83, 18, 16,
  10, 2, 71, 111, 18, 4, 46, 112, 46, 77, 26, 4, 46, 112, 46, 77, 18, 19, 10, 3, 65, 108, 108, 18,
  4, 46, 112, 46, 77, 26, 4, 46, 112, 46, 77, 40, 1, 98, 6, 112, 114, 111, 116, 111, 51]

def stage : Shelf := .ofEncoded [stageFile] (by decide +kernel)

/-- A server of the stage that is always ready and leaves every call unanswered. -/
def stageServer : Server where
  reflection := stage.service
  fault? _ := none
  answer _ _ := .headersOnly ⟨.unimplemented, ""⟩

/-- What a client knows that has looked `p.S` up. -/
def stagePool : Pool := (Cache.empty.adding .asGiven (stage.holding "p.S")).pool

def stageGo : Endpoint := ⟨"p.S", ⟨"Go", "p.M", "p.M", false, false⟩⟩

theorem stage_is_described : ∃ d c, (ofChoice none).describe stageServer 1 "p.S" = (.done d, c) ∧
    c.calls = [] ∧ c.pool = stagePool := by
  have mem : decoded stageFile ∈ stage.files := List.mem_cons_self
  have defines : (decoded stageFile).Defines "p.S" := by decide +kernel
  have kept : stage.Kept stage.service (.ofChoice none) := Catalog.kept_ofChoice none
  obtain ⟨resolver, h, cached, _⟩ := Shelf.find_of_closed 1 kept mem defines nofun
    (Option.isNone_iff_eq_none.1 (by decide +kernel)) (by decide +kernel)
  obtain ⟨d, found⟩ : ∃ d, stagePool.find? "p.S" = some d :=
    Option.isSome_iff_exists.1 (by decide +kernel)
  have looked : ((Resolver.ofChoice none).cache.adding .asGiven (stage.holding "p.S")).find? "p.S" =
      some d := found
  rw [looked] at h
  refine ⟨d, ⟨resolver, []⟩, ?_, rfl, congrArg Cache.pool cached⟩
  rw [describe, resolve, ofChoice, stageServer, h]

theorem stage_reads : ofJson stagePool "p.M" (.object []) = .ok ⟨"p.M", []⟩ :=
  Success.eq_ok_of_toOption rfl

/-- Two messages and a header for a method that takes a stream. -/
def bothRequest : Request :=
  ⟨"p.S", "All", .list [.object [], .object []], [("x-tag", "a")]⟩

/-- A request with the full name of a service, leading dot included. -/
def dottedRequest : Request := ⟨".p.S", "Go", .object [], []⟩

theorem both_free : ¬ bothRequest.Obstacle stagePool := by
  have he : bothRequest.endpoint? stagePool = some ⟨"p.S", "All", "p.M", "p.M", true, false⟩ := by
    decide +kernel
  refine Request.no_obstacle he (.items _ [⟨"p.M", []⟩, ⟨"p.M", []⟩] rfl ?_) ?_
  · exact .cons stage_reads (.cons stage_reads .nil)
  · refine List.forall_mem_singleton.2 ⟨by decide, .inr ⟨?_, ?_⟩⟩
    · exact Option.isSome_iff_exists.1 (by decide)
    · exact Option.isSome_iff_exists.1 (by decide)

/-- Two messages in a list are one call. -/
theorem both_are_one_call : ∃ a c call,
    (ofChoice none).invoke stageServer 1 bothRequest = (.done a, c) ∧ c.calls = [call] ∧
    bothRequest.Made stagePool call ∧ call.path = "/p.S/All" := by
  obtain ⟨d, c, described, _, pool⟩ := stage_is_described
  have known : ((ofChoice none).informed stageServer 1 bothRequest).pool = stagePool := by
    rw [informed_of_describe (r := bothRequest) described, pool]
  have plain : bothRequest.Plain := by decide
  obtain ⟨a, _, _, h⟩ := called_of_unhindered (r := bothRequest) (congrArg Prod.fst described)
    (known.symm ▸ both_free) plain rfl (by decide)
  obtain ⟨call, calls, made, path, _⟩ := (request_makes_one_call_or_none h).2.1 a rfl
  exact ⟨a, _, call, h, calls, known ▸ made, (path plain).1⟩

/-- A service that is named with a leading dot is called without it. -/
theorem leading_dot_is_dropped : ∃ d c a c' call,
    (ofChoice none).describe stageServer 1 "p.S" = (.done d, c) ∧
    c.invoke stageServer 0 dottedRequest = (.done a, c') ∧ c'.calls = [call] ∧
    dottedRequest.Plain ∧
    splitMethodPath? ".p.S/Go" = some (dottedRequest.service, dottedRequest.method) ∧
    call.path = "/p.S/Go" ∧
    call.path ≠ "/" ++ dottedRequest.service ++ "/" ++ dottedRequest.method := by
  obtain ⟨d, c, described, uncalled, pool⟩ := stage_is_described
  have plain : dottedRequest.Plain := by decide
  have he : dottedRequest.endpoint? stagePool = some stageGo := by decide +kernel
  have free : ¬ dottedRequest.Obstacle stagePool :=
    Request.no_obstacle he (.whole _ ⟨"p.M", []⟩ rfl stage_reads) nofun
  obtain ⟨d', found⟩ : ∃ d', stagePool.find? ".p.S" = some d' :=
    Option.isSome_iff_exists.1 (by decide +kernel)
  have cached : c.describe stageServer 0 ".p.S" = (.done d', c) := by
    rw [describe, resolve, Resolver.find_of_cached _ _ (pool.symm ▸ found)]
  have known : (c.informed stageServer 0 dottedRequest).pool = stagePool := by
    rw [informed_of_describe (r := dottedRequest) cached, pool]
  obtain ⟨a, call, made, h⟩ := called_of_unhindered (r := dottedRequest) (congrArg Prod.fst cached)
    (known.symm ▸ free) plain rfl (by decide)
  have path : call.path = "/p.S/Go" := (made.path_of_plain plain).1.trans (by decide)
  refine ⟨d, c, a, _, call, described, h, ?_, plain, by decide, path, ?_⟩
  · rw [uncalled]
    rfl
  · rw [path]
    decide

/-! More headers than fit -/

/-- A header without a value for every word. -/
def crowd : RequestHeaders := Relay.words.map (·, "")

section

open RequestHeaders Relay

theorem isReserved_word {w : String} (h : w ∈ words) : isReserved w = false := by
  rw [isReserved, lowerAscii_word h]
  obtain ⟨a, _, b, _, c, _, rfl⟩ := exists_letters_of_mem h
  simp [reservedNames, reservedStarts, ← String.toList_inj, List.isPrefixOf]

theorem isHost_word {w : String} (h : w ∈ words) : isHost w = false := by
  rw [isHost, Text.equalIgnoringCase, lowerAscii_word h]
  obtain ⟨a, _, b, _, c, _, rfl⟩ := exists_letters_of_mem h
  simp [Text.lowerAscii, ← String.toList_inj]

theorem metadataKey?_word {w : String} (h : w ∈ words) :
    metadataKey? w = some ⟨w, isHeaderName_word h⟩ := by
  simp only [metadataKey?, ofText?_word h]
  obtain ⟨a, _, b, _, c, _, rfl⟩ := exists_letters_of_mem h
  rw [if_neg]
  rw [List.isSuffixOf_iff_suffix]
  exact fun suffix => by simpa using suffix.length_le

theorem sendable_of_words {ws : List String} (h : ws ⊆ words) : Sendable (ws.map (·, "")) := by
  refine List.forall_mem_map.2 fun w hw => ⟨isReserved_word (h hw), .inr ⟨?_, ⟨[], rfl⟩, rfl⟩⟩
  exact ⟨_, metadataKey?_word (h hw)⟩

/-- Words are brought, each as it is. -/
theorem text_keys_of_words {ws : List String} (h : ws ⊆ words) :
    (keys (ws.map (·, ""))).map (·.text) = ws := by
  have brought : ∀ w ∈ ws,
      ((if isHost w then none else metadataKey? w).map (·.text)) = some w := by
    intro w hw
    rw [isHost_word (h hw), metadataKey?_word (h hw)]
    rfl
  rw [keys, List.map_filterMap, List.filterMap_map]
  exact (List.filterMap_congr brought).trans List.filterMap_some

theorem length_keys_of_words {ws : List String} (h : ws.Sublist words) :
    (keys (ws.map (·, ""))).dedup.length = ws.length := by
  have text := text_keys_of_words h.subset
  have distinct : (keys (ws.map (·, ""))).Nodup := by
    refine .of_map (·.text) ?_
    rw [text]
    exact nodup_words.sublist h
  rw [distinct.dedup, ← List.length_map (·.text), text]

theorem crowd_sendable : crowd.Sendable := sendable_of_words (List.Subset.refl words)

theorem length_keys_crowd : crowd.keys.dedup.length = Http.HeaderMap.maxNames + 1 :=
  (length_keys_of_words (List.Sublist.refl words)).trans length_words

end

/-- A request that brings all words. -/
def crowdedRequest : Request := ⟨"p.S", "Go", .object [], crowd⟩

theorem crowd_gets_no_answer : ∃ c,
    (ofChoice none).invoke stageServer 1 crowdedRequest = (.failed .overflow, c) ∧ c.calls = [] ∧
    ¬ crowdedRequest.Obstacle c.pool := by
  obtain ⟨d, c, described, _, pool⟩ := stage_is_described
  have known : ((ofChoice none).informed stageServer 1 crowdedRequest).pool = stagePool := by
    rw [informed_of_describe (r := crowdedRequest) described, pool]
  have he : crowdedRequest.endpoint? stagePool = some stageGo := by decide +kernel
  have free : ¬ crowdedRequest.Obstacle stagePool :=
    Request.no_obstacle he (.whole _ ⟨"p.M", []⟩ rfl stage_reads) crowd_sendable
  have many : Http.HeaderMap.maxNames < crowdedRequest.headerNames.dedup.length := by
    have brought : crowd.keys.dedup.length ≤ crowdedRequest.headerNames.dedup.length :=
      Http.HeaderMap.length_dedup_le (List.subset_append_left _ _)
    rw [length_keys_crowd] at brought
    exact Nat.lt_of_lt_of_le (Nat.lt_succ_self _) brought
  exact ⟨_, no_answer_of_crowded (r := crowdedRequest) (congrArg Prod.fst described)
    (known.symm ▸ free) (by decide) rfl many, rfl, known.symm ▸ free⟩

/-- Not every request that nothing is wrong with is called as it is written, or ends at all. -/
theorem dots_are_dropped_and_crowds_unanswered :
    (∃ d c a c' call, (ofChoice none).describe stageServer 1 "p.S" = (.done d, c) ∧
      c.invoke stageServer 0 dottedRequest = (.done a, c') ∧ c'.calls = [call] ∧
      dottedRequest.Plain ∧
      splitMethodPath? ".p.S/Go" = some (dottedRequest.service, dottedRequest.method) ∧
      call.path = "/p.S/Go" ∧
      call.path ≠ "/" ++ dottedRequest.service ++ "/" ++ dottedRequest.method) ∧
    ∃ c, (ofChoice none).invoke stageServer 1 crowdedRequest = (.failed .overflow, c) ∧
      c.calls = [] ∧ ¬ crowdedRequest.Obstacle c.pool :=
  ⟨leading_dot_is_dropped, crowd_gets_no_answer⟩

end Client

end DynamicRpc.Rpc
