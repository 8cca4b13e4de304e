/-!
Arguments of a command, read from left to right into settings. A value is taken in only when the
next argument comes, so that an unknown argument is reported before a bad value just ahead of it.
-/
namespace DynamicRpc.CommandLine

/-- Why a value does not suit an argument. -/
inductive ValueFault where
  | empty
  | invalid (message : String)
  deriving DecidableEq, Repr

inductive UsageError where
  | missingArgument
  | unknownArgument
  | unknownCommand
  | missingCommand
  | conflict
  | missingValue
  | surplusValue
  | value (label message : String)
  | help
  /-- Nothing was asked for. -/
  | nothing
  | version
  deriving DecidableEq, Repr

/-- What an option does to the settings. -/
inductive Action (σ : Type) where
  /-- Takes a value, and may be given once. -/
  | once (set : String → σ → Except ValueFault σ)
  | each (set : String → σ → Except ValueFault σ)
  /-- Takes no value, and may be given once. -/
  | switch (set : σ → σ)
  | count (set : σ → σ)
  | help
  | version

/-- A part of settings. -/
structure Part (σ α : Type) where
  get : σ → α
  put : σ → α → σ

structure OptionSpec (σ : Type) where
  long : String
  short : Option Char
  /-- How faults name its value. -/
  placeholder : String
  action : Action σ

structure PositionalSpec (σ : Type) where
  placeholder : String
  set : String → σ → Except ValueFault σ

structure CommandSpec (σ : Type) where
  options : List (OptionSpec σ)
  /-- All of them have to be given. -/
  positionals : List (PositionalSpec σ)
  subcommands : List String
  /-- Options that need another one. -/
  requires : List (String × String)

namespace Action

def takesValue : Action σ → Bool
  | once _ | each _ => true
  | _ => false

/-- The same action on a part of larger settings. -/
def within (p : Part σ α) : Action α → Action σ
  | once set => once fun v s => do return p.put s (← set v (p.get s))
  | each set => each fun v s => do return p.put s (← set v (p.get s))
  | switch set => switch fun s => p.put s (set (p.get s))
  | count set => count fun s => p.put s (set (p.get s))
  | help => help
  | version => version

end Action

/-- A value that waits to be taken in. -/
inductive Pending (σ : Type) where
  | option (o : OptionSpec σ) (value : Option String)
  | positional (p : PositionalSpec σ) (value : String)

structure State (σ : Type) where
  settings : σ
  /-- Options given so far. -/
  seen : List String
  pending : Option (Pending σ)
  /-- How many positional arguments were given. -/
  position : Nat

/-- The settings, what was given, and a subcommand with its arguments. -/
structure Matched (σ : Type) where
  settings : σ
  seen : List String
  position : Nat
  subcommand : Option (String × List String)

/-- What an argument that is not a plain value turns out to be. -/
inductive Step (σ : Type) where
  | done (s : State σ)
  /-- Not an option after all. -/
  | plain

def setValue (label : String) (r : Except ValueFault σ) : Except UsageError σ :=
  match r with
  | .ok s => .ok s
  | .error .empty => .error .missingValue
  | .error (.invalid message) => .error (.value label message)

namespace OptionSpec

/-- The same option of a command whose settings are larger. -/
def within (p : Part σ α) (o : OptionSpec α) : OptionSpec σ :=
  { o with action := o.action.within p }

def label (o : OptionSpec σ) : String := s!"--{o.long} <{o.placeholder}>"

/-- Applies an option, with its value if it takes one. -/
def apply (o : OptionSpec σ) (value : Option String) (s : State σ) :
    Except UsageError (State σ) :=
  let once (r : Except UsageError σ) : Except UsageError (State σ) :=
    if s.seen.contains o.long then .error .conflict
    else do return { s with settings := ← r, seen := o.long :: s.seen }
  match o.action, value with
  | .once set, some v => once (setValue o.label (set v s.settings))
  | .each set, some v => do
    return { s with settings := ← setValue o.label (set v s.settings), seen := o.long :: s.seen }
  | .once _, none | .each _, none => .error .missingValue
  | .switch set, _ => once (.ok (set s.settings))
  | .count set, _ => .ok { s with settings := set s.settings, seen := o.long :: s.seen }
  | .help, _ => .error .help
  | .version, _ => .error .version

end OptionSpec

namespace State

def start (settings : σ) : State σ := ⟨settings, [], none, 0⟩

/-- Takes in the value that waits. -/
def resolve (s : State σ) : Except UsageError (State σ) :=
  match s.pending with
  | none => .ok s
  | some (.option o value) => o.apply value { s with pending := none }
  | some (.positional p value) => do
    let settings ← setValue s!"<{p.placeholder}>" (p.set value s.settings)
    return { s with settings, pending := none }

/-- Gives an option its value, or lets it wait for one. -/
def give (s : State σ) (o : OptionSpec σ) (value : Option String) :
    Except UsageError (State σ) := do
  let s ← s.resolve
  match o.action.takesValue, value with
  | true, none => return { s with pending := some (.option o none) }
  | _, _ => o.apply value s

end State

namespace CommandSpec

def long? (c : CommandSpec σ) (name : String) : Option (OptionSpec σ) :=
  c.options.find? (·.long = name)

def short? (c : CommandSpec σ) (name : Char) : Option (OptionSpec σ) :=
  c.options.find? (·.short = some name)

/-- An option by its long name, with what stands behind an equals sign. -/
def readLong (c : CommandSpec σ) (s : State σ) (body : List Char) : Except UsageError (State σ) :=
  let name := body.takeWhile (· ≠ '=')
  let value :=
    if body.contains '=' then some (String.ofList (body.drop (name.length + 1))) else none
  match c.long? (String.ofList name) with
  | none => .error .unknownArgument
  | some o =>
    if value.isSome && !o.action.takesValue then .error .surplusValue else s.give o value

/-- Options by their letters. What follows the letter of an option with a value is that value, less
an equals sign in front. -/
def readShort (c : CommandSpec σ) (s : State σ) : List Char → Except UsageError (State σ)
  | [] => .ok s
  | letter :: rest =>
    match c.short? letter with
    | none => .error .unknownArgument
    | some o =>
      if o.action.takesValue then
        let value := match rest with
          | [] => none
          | '=' :: rest => some (String.ofList rest)
          | rest => some (String.ofList rest)
        s.give o value
      else do c.readShort (← s.give o none) rest

/-- An argument that begins with a hyphen is an option, unless it is a lone hyphen. -/
def readOption (c : CommandSpec σ) (s : State σ) (arg : String) : Except UsageError (Step σ) :=
  match arg.toList with
  | '-' :: '-' :: body => .done <$> c.readLong s body
  | '-' :: first :: rest => .done <$> c.readShort s (first :: rest)
  | _ => .ok .plain

/-- A value that no option waits for. -/
def readPositional (c : CommandSpec σ) (trailing : Bool) (s : State σ) (arg : String) :
    Except UsageError (State σ) :=
  match c.positionals[s.position]? with
  | some p => do
    let s ← s.resolve
    return { s with pending := some (.positional p arg), position := s.position + 1 }
  | none =>
    if c.subcommands.isEmpty || (trailing && c.subcommands.contains arg) then
      .error .unknownArgument
    else .error .unknownCommand

/-- Reads arguments up to a subcommand; after two hyphens all are values. -/
def readFrom (c : CommandSpec σ) (trailing : Bool) (s : State σ) :
    List String → Except UsageError (Matched σ)
  | [] => do
    let s ← s.resolve
    return ⟨s.settings, s.seen, s.position, none⟩
  | arg :: rest =>
    if trailing then do c.readFrom true (← c.readPositional true s arg) rest
    else
      match s.pending with
      | some (.option o none) =>
        if arg = "--" then c.readFrom true s rest
        else do
          match ← c.readOption s arg with
          | .done s => c.readFrom false s rest
          | .plain => c.readFrom false { s with pending := some (.option o (some arg)) } rest
      | _ =>
        if c.subcommands.contains arg then do
          let s ← s.resolve
          return ⟨s.settings, s.seen, s.position, some (arg, rest)⟩
        else if arg = "--" then c.readFrom true s rest
        else do
          match ← c.readOption s arg with
          | .done s => c.readFrom false s rest
          | .plain => c.readFrom false (← c.readPositional false s arg) rest

end CommandSpec

end DynamicRpc.CommandLine
