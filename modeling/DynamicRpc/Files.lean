import DynamicRpc.Text.Utf8

/-!
What stands at the paths of a machine, as far as a program reads it.
-/
namespace DynamicRpc

/-- What stands at a path. What cannot be opened or read has a reason for it. -/
inductive FileContent where
  | unopened (reason : String)
  | unread (reason : String)
  | bytes (b : Bytes)
  deriving DecidableEq, Repr

namespace FileContent

def missing : FileContent := .unopened "No such file or directory (os error 2)"

def directory : FileContent := .unread "Is a directory (os error 21)"

end FileContent

abbrev Files := String → FileContent

end DynamicRpc
