import DynamicRpc.CommandLine.Arguments
import DynamicRpc.Json.Reader
import DynamicRpc.Number.Decimal
import DynamicRpc.Relay.Config
import DynamicRpc.Rpc.Connection

/-!
The commands of the program and their options. Options given for the relay are laid over its
configuration file.
-/
namespace DynamicRpc.CommandLine

/-! Settings -/

/-- TLS materials as options name them. -/
structure TlsFlags where
  ca : Option String
  cert : Option String
  key : Option String
  serverName : Option String
  insecure : Bool
  deriving DecidableEq, Repr

structure ConnectFlags where
  dialect : Option Reflection.Dialect
  authority : Option String
  tls : TlsFlags
  deriving DecidableEq, Repr

structure CallCommand where
  url : String
  service : String
  method : String
  body : Json.Value
  headers : Rpc.RequestHeaders
  connect : ConnectFlags

structure ListCommand where
  url : String
  connect : ConnectFlags

structure DescribeCommand where
  url : String
  symbol : String
  connect : ConnectFlags

structure RelayCommand where
  config : Option String
  listen : Option Net.SocketAddress
  maxBodyBytes : Option Nat
  disallowedHeaders : List String
  forwardHeaders : List Relay.ForwardEntry
  allowedOrigin : Option String
  tls : TlsFlags

inductive Command where
  | call (c : CallCommand)
  | list (c : ListCommand)
  | describe (c : DescribeCommand)
  | relay (c : RelayCommand)

/-- A command and how much the program is to tell about its work. -/
structure Invocation where
  verbosity : Nat
  command : Command

namespace TlsFlags

def empty : TlsFlags := ⟨none, none, none, none, false⟩

/-- Lays flags over options. -/
def apply (f : TlsFlags) (o : Tls.Options) : Tls.Options where
  ca := f.ca <|> o.ca
  cert := f.cert <|> o.cert
  key := f.key <|> o.key
  serverName := f.serverName <|> o.serverName
  insecure := o.insecure || f.insecure

end TlsFlags

namespace ConnectFlags

def empty : ConnectFlags := ⟨none, none, .empty⟩

def clientOptions (f : ConnectFlags) : Rpc.ClientOptions := ⟨f.dialect, f.tls.apply .empty⟩

/-- Headers that only shape the connection. -/
def connectHeaders (f : ConnectFlags) : Rpc.RequestHeaders :=
  (f.authority.map (("host", ·))).toList

end ConnectFlags

namespace RelayCommand

def empty : RelayCommand := ⟨none, none, none, [], [], none, .empty⟩

/-- Lays flags over a configuration. Lists of headers are joined. -/
def overlay (f : RelayCommand) (c : Relay.Config) : Relay.Config where
  listen := f.listen.getD c.listen
  maxBodyBytes := f.maxBodyBytes.getD c.maxBodyBytes
  disallowedHeaders := c.disallowedHeaders ++ f.disallowedHeaders
  forwardHeaders := c.forwardHeaders ++ f.forwardHeaders
  allowedOrigin := f.allowedOrigin <|> c.allowedOrigin
  tls := f.tls.apply c.tls

/-- The configuration file, or the configuration that holds without one. -/
def base (f : RelayCommand) (files : Files) : Except Relay.FileError Relay.Config :=
  match f.config with
  | some path => Relay.Config.ofFile (files path)
  | none => .ok .empty

/-- The valid configuration of the relay. -/
def configure (f : RelayCommand) (files : Files) : Except Relay.FileError Relay.Config := do
  let config := f.overlay (← f.base files)
  match config.validate with
  | .ok () => return config
  | .error e => throw (.invalid e)

end RelayCommand

/-! Values -/

def readEndpoint (s : String) : Except ValueFault (String × String) :=
  match Rpc.splitMethodPath? s with
  | some parts => .ok parts
  | none => .error (.invalid
      s!"Invalid endpoint format: '{s}'. Expected 'package.Service/Method'")

def readHeader (s : String) : Except ValueFault (String × String) :=
  match Text.splitFirst? ':' s with
  | some (name, value) => .ok (Text.trim name, Text.trim value)
  | none => .error (.invalid "Format must be 'key:value'")

def readBody (s : String) : Except ValueFault Json.Value :=
  match Json.parse (Text.toBytes s) with
  | .ok v => .ok v
  | .error e => .error (.invalid s!"Invalid JSON: {e.message}")

def readDialect (s : String) : Except ValueFault (Option Reflection.Dialect) :=
  match Reflection.Dialect.readChoice? s with
  | some choice => .ok choice
  | none => .error (.invalid (Reflection.Dialect.unknownMessage s))

def readForward (s : String) : Except ValueFault Relay.ForwardEntry :=
  match Text.splitFirst? '=' s with
  | none => .error (.invalid "Format must be 'from=to'")
  | some (source, target) =>
    let entry : Relay.ForwardEntry := ⟨Text.trim source, Text.trim target⟩
    if entry.source.isEmpty || entry.target.isEmpty then
      .error (.invalid "Header names cannot be empty")
    else .ok entry

def readPath (s : String) : Except ValueFault String := if s.isEmpty then .error .empty else .ok s

def readAddress (s : String) : Except ValueFault Net.SocketAddress :=
  match Net.SocketAddress.ofText? s with
  | some a => .ok a
  | none => .error (.invalid Net.SocketAddress.invalidMessage)

def readSize (s : String) : Except ValueFault Nat :=
  match Number.readInteger 0 0xffffffffffffffff s with
  | .ok n => .ok n.toNat
  | .error e => .error (.invalid e.message)

/-! Options -/

def helpOption : OptionSpec σ := ⟨"help", some 'h', "", .help⟩

/-- Understood by every command; the settings of all of them count it apart. -/
def verboseOption : OptionSpec Nat := ⟨"verbose", some 'v', "", .count (· + 1)⟩

def tlsOptions : List (OptionSpec TlsFlags) :=
  [⟨"cacert", none, "CACERT", .once fun v s => do return { s with ca := some (← readPath v) }⟩,
    ⟨"cert", none, "CERT", .once fun v s => do return { s with cert := some (← readPath v) }⟩,
    ⟨"key", none, "KEY", .once fun v s => do return { s with key := some (← readPath v) }⟩,
    ⟨"servername", none, "SERVERNAME", .once fun v s => .ok { s with serverName := some v }⟩,
    ⟨"insecure", some 'k', "", .switch fun s => { s with insecure := true }⟩]

/-- A private key and a certificate need each other. -/
def tlsRequires : List (String × String) := [("cert", "key"), ("key", "cert")]

def connectOptions : List (OptionSpec ConnectFlags) :=
  [⟨"reflection", none, "REFLECTION", .once fun v s => do
      return { s with dialect := ← readDialect v }⟩,
    ⟨"authority", none, "AUTHORITY", .once fun v s => .ok { s with authority := some v }⟩] ++
  tlsOptions.map (·.within ⟨fun s => s.tls, fun s tls => { s with tls }⟩)

def callSpec : CommandSpec CallCommand where
  options :=
    [⟨"body", none, "BODY", .once fun v s => do return { s with body := ← readBody v }⟩,
      ⟨"header", some 'H', "HEADERS", .each fun v s => do
        return { s with headers := s.headers ++ [← readHeader v] }⟩] ++
    connectOptions.map (·.within ⟨fun s => s.connect, fun s connect => { s with connect }⟩)
  positionals :=
    [⟨"URL", fun v s => .ok { s with url := v }⟩,
      ⟨"ENDPOINT", fun v s => do
        let (service, method) ← readEndpoint v
        return { s with service, method }⟩]
  subcommands := []
  requires := tlsRequires

def listSpec : CommandSpec ListCommand where
  options := connectOptions.map (·.within ⟨fun s => s.connect, fun s connect => { s with connect }⟩)
  positionals := [⟨"URL", fun v s => .ok { s with url := v }⟩]
  subcommands := []
  requires := tlsRequires

def describeSpec : CommandSpec DescribeCommand where
  options := connectOptions.map (·.within ⟨fun s => s.connect, fun s connect => { s with connect }⟩)
  positionals :=
    [⟨"URL", fun v s => .ok { s with url := v }⟩, ⟨"SYMBOL", fun v s => .ok { s with symbol := v }⟩]
  subcommands := []
  requires := tlsRequires

def relaySpec : CommandSpec RelayCommand where
  options :=
    [⟨"config", some 'c', "CONFIG", .once fun v s => do
        return { s with config := some (← readPath v) }⟩,
      ⟨"listen", none, "LISTEN", .once fun v s => do
        return { s with listen := some (← readAddress v) }⟩,
      ⟨"max-body-bytes", none, "MAX_BODY_BYTES", .once fun v s => do
        return { s with maxBodyBytes := some (← readSize v) }⟩,
      ⟨"disallow-header", none, "DISALLOWED_HEADERS", .each fun v s =>
        .ok { s with disallowedHeaders := s.disallowedHeaders ++ [v] }⟩,
      ⟨"forward-header", none, "FORWARD_HEADERS", .each fun v s => do
        return { s with forwardHeaders := s.forwardHeaders ++ [← readForward v] }⟩,
      ⟨"allowed-origin", none, "ALLOWED_ORIGIN", .once fun v s =>
        .ok { s with allowedOrigin := some v }⟩] ++
    tlsOptions.map (·.within ⟨fun s => s.tls, fun s tls => { s with tls }⟩)
  positionals := []
  subcommands := []
  requires := tlsRequires

/-! Commands -/

/-- Settings together with how often the program was asked to tell more. -/
structure Counted (σ : Type) where
  verbosity : Nat
  settings : σ

namespace CommandSpec

/-- The command with the options that every command has. -/
def complete (c : CommandSpec σ) : CommandSpec (Counted σ) where
  options :=
    c.options.map (·.within ⟨fun s => s.settings, fun s settings => { s with settings }⟩) ++
    [verboseOption.within ⟨fun s => s.verbosity, fun s verbosity => { s with verbosity }⟩,
      helpOption]
  positionals := c.positionals.map fun p =>
    ⟨p.placeholder, fun v s => do return { s with settings := ← p.set v s.settings }⟩
  subcommands := c.subcommands
  requires := c.requires

/-- Reads all arguments of a command and checks that none is missing. -/
def read (c : CommandSpec σ) (settings : σ) (args : List String) :
    Except UsageError (Counted σ) := do
  let m ← c.complete.readFrom false (.start ⟨0, settings⟩) args
  if m.position < c.positionals.length then throw .missingArgument
  if c.requires.any fun r => m.seen.contains r.1 && !m.seen.contains r.2 then
    throw .missingArgument
  return m.settings

end CommandSpec

def commandNames : List String := ["call", "list", "describe", "relay"]

def programSpec : CommandSpec Nat where
  options := [verboseOption, ⟨"version", some 'V', "", .version⟩, helpOption]
  positionals := []
  subcommands := "help" :: commandNames
  requires := []

namespace Command

/-- Reads the arguments of a named command. -/
def read (name : String) (args : List String) : Except UsageError (Counted Command) :=
  let run {σ : Type} (spec : CommandSpec σ) (start : σ) (make : σ → Command) :
      Except UsageError (Counted Command) := do
    let r ← spec.read start args
    return ⟨r.verbosity, make r.settings⟩
  if name = "call" then run callSpec ⟨"", "", "", .object [], [], .empty⟩ call
  else if name = "list" then run listSpec ⟨"", .empty⟩ list
  else if name = "describe" then run describeSpec ⟨"", "", .empty⟩ describe
  else run relaySpec .empty relay

/-- Asks for help on a command, of which there is one level. -/
def help : List String → UsageError
  | [] => .help
  | [name] => if commandNames.contains name || name = "help" then .help else .unknownCommand
  | _ => .unknownCommand

end Command

/-- Of the verbosity before and behind the name of a command the latter counts, if there is one. -/
def maxVerbosity : Nat := 255

def Invocation.read (args : List String) : Except UsageError Invocation := do
  let m ← programSpec.readFrom false (.start 0) args
  match m.subcommand with
  | none => throw (if m.seen.isEmpty then .nothing else .missingCommand)
  | some (name, rest) =>
    if name = "help" then throw (Command.help rest)
    else
      let c ← Command.read name rest
      return ⟨min maxVerbosity (if c.verbosity = 0 then m.settings else c.verbosity), c.settings⟩

end DynamicRpc.CommandLine
