import DynamicRpc.CommandLine.Usage
import DynamicRpc.Relay.Setup
import DynamicRpc.Report

/-!
The program. It reads the command line and the files that it names and reports the first fault; the
network is left to whoever embeds the library, so that no server is ever reached from here.
-/
namespace DynamicRpc

open CommandLine

/-- Reads what an opened file holds. -/
def readOpened (handle : IO.FS.Handle) : IO FileContent := do
  try
    return .bytes (← handle.readBinToEnd).data.toList
  catch e =>
    match e with
    | .inappropriateType .. => return .directory
    | e => return .unread e.toString

/-- Reads what stands at a path. -/
def readContent (path : String) : IO FileContent := do
  try
    readOpened (← IO.FS.Handle.mk path .read)
  catch e =>
    match e with
    | .noFileOrDirectory .. => return .missing
    | e => return .unopened e.toString

/-- Reads the files at the given paths. -/
def readFiles (paths : List String) : IO Files := do
  let contents ← paths.mapM fun p => do return (p, ← readContent p)
  return fun p => ((contents.find? (·.1 = p)).map (·.2)).getD .missing

def tlsPaths (o : Tls.Options) : List String := o.ca.toList ++ o.cert.toList ++ o.key.toList

def printError (message : String) : IO Unit := do
  (← IO.getStderr).putStrLn (Text.renderLines false (Report.error "Error:" message))

/-- Roots of the machine are not looked for. -/
def noPlatform : Tls.Platform := ⟨[], []⟩

def connect (url : String) (headers : Rpc.RequestHeaders) (f : ConnectFlags) : IO UInt32 := do
  let o := f.clientOptions
  let files ← readFiles (tlsPaths o.tls)
  let (lines, result) := Rpc.Connection.prepare files noPlatform url (f.connectHeaders ++ headers) o
  for line in lines do (← IO.getStderr).putStrLn line
  let e : Rpc.ConnectError := match result with
    | .ok _ => .unreachable url
    | .error e => e
  printError s!"Connection to '{url}' failed: {e.message}"
  return 1

def serve (r : RelayCommand) : IO UInt32 := do
  let named ← readFiles r.config.toList
  match r.configure named with
  | .error e =>
    printError s!"Invalid relay configuration: {e.message}"
    return 1
  | .ok config =>
    let files ← readFiles (tlsPaths config.tls)
    match (Relay.setUp files noPlatform config).2 with
    | .error e => printError s!"Failed to set up the relay: {e.message}"
    | .ok _ => printError s!"Failed to listen on {config.listen.text}"
    return 1

def runCommand : Command → IO UInt32
  | .call c => connect c.url [] c.connect
  | .list c => connect c.url [] c.connect
  | .describe c => connect c.url [] c.connect
  | .relay c => serve c

end DynamicRpc

open DynamicRpc CommandLine in
def main (args : List String) : IO UInt32 := do
  match Invocation.read args with
  | .ok i => runCommand i.command
  | .error e =>
    if e.isAnswer then
      IO.println e.message
      return 0
    else
      (← IO.getStderr).putStrLn e.message
      return 2
