import DynamicRpc.Message.ToJson
import DynamicRpc.Reflection.Resolver
import DynamicRpc.Rpc.RequestHeaders
import DynamicRpc.Rpc.Response

/-!
Calls of methods that are known only by name. The method is looked up, the JSON body is converted
into messages of its input type, and only then is anything sent: one call, or none if a step before
it fails.
-/
namespace DynamicRpc.Rpc

open Message Reflection Schema

/-- A call as the server receives it. Writing a message may fail, which the server sees too. -/
structure Call where
  path : String
  query : Option String
  headers : Http.HeaderMap
  messages : Except Status (List Bytes)

/-- A server and the way to it: its reflection service, and from the calls before, why the
connection takes no other call, if it takes none, and the answer to a call. -/
structure Server where
  reflection : Connector
  fault? : List Call → Option String
  answer : List Call → Call → Response

inductive RequestError where
  | notReady (reason : String)
  | header (e : HeaderError)
  | path (path : String)
  deriving DecidableEq, Repr

def RequestError.message : RequestError → String
  | notReady reason => s!"Internal error, the client was not ready: '{reason}'"
  | header e => e.message
  | path p => s!"Invalid method path '{p}'"

inductive InvokeError where
  | unresolved (name : String) (e : ResolveError)
  | notAService (name : String)
  | unknownMethod (service method : String)
  | input (type : String) (e : InputError)
  /-- A method that takes a stream needs a list. -/
  | notAList
  | request (e : RequestError)

def InvokeError.message : InvokeError → String
  | unresolved name e => s!"Failed to resolve '{name}': {e.message}"
  | notAService name => s!"'{name}' is not a service"
  | unknownMethod service method => s!"Method '{method}' not found in service '{service}'"
  | input type e => s!"Invalid input: 'JSON structure does not match '{type}': {e.message}'"
  | notAList => "Invalid input: 'Client streaming requires a JSON Array body'"
  | request e => s!"gRPC client request error: '{e.message}'"

structure Request where
  service : String
  method : String
  body : Json.Value
  headers : RequestHeaders

inductive Answer where
  | message (r : Except Status Message)
  | stream (r : Except Status (List (Except Status Message)))

/-- A method together with the full name of its service. -/
structure Endpoint where
  service : String
  method : Method
  deriving DecidableEq, Repr

structure Client where
  resolver : Resolver
  /-- The calls so far, the oldest first. -/
  calls : List Call

namespace Endpoint

def path (e : Endpoint) : String := "/" ++ e.service ++ "/" ++ e.method.name

/-- Writes a message, which has to be of the input type. -/
def writeMessage (p : Pool) (e : Endpoint) (m : Message) : Except Status Bytes :=
  if m.type = e.method.input then .ok (m.encode p)
  else
    let fault : Status :=
      ⟨.internal, s!"Expected a '{e.method.input}' request message, got '{m.type}'"⟩
    .error ⟨.internal, s!"Error encoding: {fault.text}"⟩

/-- The call of a method, if its headers and its path are valid. -/
def call (p : Pool) (e : Endpoint) (messages : List Message) (headers : RequestHeaders) :
    Except (Stop RequestError) Call :=
  match headers.metadata with
  | .error stop => .error (stop.map .header)
  | .ok metadata =>
    match Http.readMethodPath? e.path with
    | none => .error (.refused (.path e.path))
    | some (path, query) => .ok ⟨path, query, metadata, messages.mapM (e.writeMessage p)⟩

/-- Reads a message of the input type. -/
def readMessage (p : Pool) (e : Endpoint) (v : Json.Value) : Except InvokeError Message :=
  match Message.ofJson p e.method.input v with
  | .ok m => .ok m
  | .error fault => .error (.input e.method.input fault)

/-- The messages of a body: the body itself, or its items if the method takes a stream. -/
def messages (p : Pool) (e : Endpoint) (body : Json.Value) : Except InvokeError (List Message) :=
  if e.method.clientStreaming then
    match body with
    | .list items => items.mapM (e.readMessage p)
    | _ => .error .notAList
  else do return [← e.readMessage p body]

/-- Reads a response as the method says. -/
def answer (p : Pool) (e : Endpoint) (r : Response) : Answer :=
  let decode := Message.decode p e.method.output
  if e.method.serverStreaming then .stream (r.stream decode) else .message (r.single decode)

end Endpoint

namespace Client

def ofChoice (choice : Option Dialect) : Client := ⟨.ofChoice choice, []⟩

def pool (c : Client) : Pool := c.resolver.cache.pool

/-- Runs a lookup of the resolver. -/
def resolve (c : Client) (lookup : Resolver → Ended Resolver ε α) : Ended Client ε α :=
  let (outcome, resolver) := lookup c.resolver
  (outcome, { c with resolver })

def describe (c : Client) (s : Server) (patience : Nat) (name : String) :
    Ended Client ResolveError Descriptor :=
  c.resolve fun r => r.find s.reflection patience name

def services (c : Client) (s : Server) : Ended Client ResolveError (List String) :=
  c.resolve fun r => r.services s.reflection

def reset (c : Client) : Client := { c with resolver := c.resolver.reset }

def close (c : Client) : Client := { c with resolver := c.resolver.close }

theorem isHeaderName_te : Http.isHeaderName "te" = true := by decide

theorem isHeaderName_contentType : Http.isHeaderName "content-type" = true := by decide

/-- The headers that the protocol adds to those of a call. -/
def ownHeaders : List (Http.HeaderName × Http.HeaderValue) :=
  [(⟨"te", isHeaderName_te⟩, ⟨Text.toBytes "trailers", by decide⟩),
    (⟨"content-type", isHeaderName_contentType⟩, ⟨Text.toBytes "application/grpc", by decide⟩)]

/-- Makes a call, if the connection is ready for it. -/
def send (c : Client) (s : Server) (call : Call) : Except (Stop RequestError) (Response × Client) :=
  match s.fault? c.calls with
  | some reason => .error (.refused (.notReady reason))
  | none => do
    let headers ← Stop.overflowing (call.headers.appendAll? ownHeaders)
    let call := { call with headers }
    return (s.answer c.calls call, { c with calls := c.calls ++ [call] })

def findMethod (c : Client) (s : Server) (patience : Nat) (service method : String) :
    Ended Client InvokeError Endpoint :=
  match c.describe s patience service with
  | (.failed e, c) => (.failed (.unresolved service e), c)
  | (.dropped, c) => (.dropped, c)
  | (.done (.service found), c) =>
    match found.methods.find? (·.name = method) with
    | some m => (.done ⟨found.fullName, m⟩, c)
    | none => (.failed (.unknownMethod service method), c)
  | (.done _, c) => (.failed (.notAService service), c)

/-- Looks a method up and calls it. -/
def invoke (c : Client) (s : Server) (patience : Nat) (r : Request) :
    Ended Client (Stop InvokeError) Answer :=
  match c.findMethod s patience r.service r.method with
  | (.failed e, c) => (.failed (.refused e), c)
  | (.dropped, c) => (.dropped, c)
  | (.done endpoint, c) =>
    match endpoint.messages c.pool r.body with
    | .error e => (.failed (.refused e), c)
    | .ok messages =>
      match endpoint.call c.pool messages r.headers with
      | .error stop => (.failed (stop.map .request), c)
      | .ok call =>
        match c.send s call with
        | .error stop => (.failed (stop.map .request), c)
        | .ok (response, c) => (.done (endpoint.answer c.pool response), c)

end Client

end DynamicRpc.Rpc
