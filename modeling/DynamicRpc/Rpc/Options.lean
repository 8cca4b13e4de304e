import DynamicRpc.Reflection.Dialect
import DynamicRpc.Tls.Options

/-!
Options of a client: the dialect of its reflection queries and its TLS materials.
-/
namespace DynamicRpc.Rpc

structure ClientOptions where
  dialect : Option Reflection.Dialect
  tls : Tls.Options
  deriving DecidableEq, Repr

namespace ClientOptions

def empty : ClientOptions := ⟨none, .empty⟩

def toJson (o : ClientOptions) : Json.Value :=
  .ofMembers [("reflection",
      .ofMembers [("dialect", .text (Reflection.Dialect.choiceName o.dialect))]),
    ("tls", o.tls.toJson)]

open Json

def reflectionRecord : Record (Option Reflection.Dialect) where
  expected := "struct ResolverOptions"
  fields := [⟨"dialect", false, fun _ => Reflection.Dialect.reader⟩]

def record : Record ClientOptions where
  expected := "struct ClientOptions"
  fields :=
    [⟨"reflection", false, fun o => return { o with dialect := ← reflectionRecord.read none }⟩,
      ⟨"tls", false, fun o => return { o with tls := ← Tls.Options.reader }⟩]

def ofJsonText (text : Bytes) : Except ReadError ClientOptions := (record.read empty).whole text

end ClientOptions

end DynamicRpc.Rpc
