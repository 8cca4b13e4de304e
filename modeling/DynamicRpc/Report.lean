import DynamicRpc.Rpc.Status
import DynamicRpc.Text.Quoted
import DynamicRpc.Text.Style

/-!
What the command line prints besides descriptors and messages: lists of services, the status of a
failed call, and errors under a headline.
-/
namespace DynamicRpc.Report

open Text

def services (names : List String) : List Line :=
  if names.isEmpty then [[⟨.yellow, "No services found."⟩]]
  else [plain "Available Services:"] :: names.map fun n => [plain "  - ", ⟨.green, n⟩]

def failure (s : Rpc.Status) : List Line :=
  [[⟨.headline, "gRPC Failed:"⟩, plain s!" code={s.code.name} message={quote s.message}"]]

def error (headline message : String) : List Line :=
  [[⟨.headline, headline⟩, plain (" " ++ message)]]

end DynamicRpc.Report
