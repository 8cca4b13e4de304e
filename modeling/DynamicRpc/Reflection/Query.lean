import DynamicRpc.Rpc.Status
import DynamicRpc.Text.Quoted
import DynamicRpc.Text.Utf8

/-!
Questions to a reflection service and its answers, the same for both dialects. A response is what
stands on the wire; a reply is a response that a client can ask for.
-/
namespace DynamicRpc.Reflection

inductive Query where
  | symbol (name : String)
  | extension (message : String) (number : Int)
  | file (path : String)
  | services
  deriving DecidableEq, Repr, Inhabited

def Query.text : Query → String
  | symbol name => s!"FileContainingSymbol({Text.quote name})"
  | extension message number =>
    "FileContainingExtension \x7b " ++
      s!"containing_type: {Text.quote message}, extension_number: {number}" ++ " \x7d"
  | file path => s!"FileByFilename({Text.quote path})"
  | services => "ListServices"

inductive Reply where
  /-- Encoded files. -/
  | files (files : List Bytes)
  | services (names : List String)
  /-- The service refuses the question and keeps the stream. -/
  | refused (status : Rpc.Status)
  deriving DecidableEq, Repr, Inhabited

namespace Reply

/-- Whether a reply is of a kind that a query asks for. A refusal answers every query. -/
def answers : Reply → Query → Bool
  | refused _, _ => true
  | services _, q => q = .services
  | files _, q => q ≠ .services

def kind : Reply → String
  | files _ => "FileDescriptorResponse"
  | services _ => "ListServiceResponse"
  | refused _ => "ErrorResponse"

end Reply

/-- Why no reply came to a query. -/
inductive QueryError where
  | status (s : Rpc.Status)
  | streamClosed
  | sendFailed
  /-- The transport was closed before. -/
  | closed
  | unexpected (what : String)
  deriving DecidableEq, Repr

namespace QueryError

def message : QueryError → String
  | status s => s!"The reflection stream returned an error status: '{s.text}'"
  | streamClosed => "Reflection stream closed unexpectedly"
  | sendFailed => "Internal error: Failed to send request to stream"
  | closed => "The reflection transport has been closed"
  | unexpected what => s!"Protocol error: Received unexpected response type: {what}"

/-- The service does not know the dialect, or says so of the query. -/
def isUnimplemented : QueryError → Bool
  | status s => s.code = .unimplemented
  | _ => false

end QueryError

inductive Response where
  | reply (r : Reply)
  | extensionNumbers (type : String) (numbers : List Int)
  | empty
  deriving DecidableEq, Repr

/-- The reply in a response. Lists of extension numbers are never asked for. -/
def Response.reply? : Response → Except QueryError Reply
  | reply r => .ok r
  | extensionNumbers type numbers =>
    let numbers := ", ".intercalate (numbers.map toString)
    .error <| .unexpected <| "AllExtensionNumbersResponse(ExtensionNumberResponse \x7b " ++
      s!"base_type_name: {Text.quote type}, extension_number: [{numbers}]" ++ " \x7d)"
  | empty => .error (.unexpected "Empty Message")

end DynamicRpc.Reflection
