import DynamicRpc.CommandLine.Command

/-!
What the program says about its own use.
-/
namespace DynamicRpc.CommandLine

def programName : String := "dynamic-rpc"

def versionText : String := s!"{programName} 0.1.0"

/-- How an option is written, with a placeholder for its value. -/
def OptionSpec.usage (o : OptionSpec σ) : String :=
  let short := match o.short with
    | some c => s!"-{c}, "
    | none => "    "
  let value := if o.action.takesValue then s!" <{o.placeholder}>" else ""
  s!"  {short}--{o.long}{value}"

/-- The lines on one command. -/
def CommandSpec.usage (name : String) (c : CommandSpec σ) : List String :=
  let values := c.positionals.map fun p => s!" <{p.placeholder}>"
  s!"{programName} {name}{String.join values} [OPTIONS]" :: c.options.map (·.usage)

def usageLines : List String :=
  callSpec.usage "call" ++ listSpec.usage "list" ++ describeSpec.usage "describe" ++
    relaySpec.usage "relay" ++ (programSpec.options.map (·.usage))

namespace UsageError

def message : UsageError → String
  | missingArgument => "a required argument is missing"
  | unknownArgument => "unexpected argument"
  | unknownCommand => "unrecognized subcommand"
  | missingCommand => "a subcommand is required"
  | conflict => "an argument is given more than once"
  | missingValue => "an argument lacks its value"
  | surplusValue => "an argument takes no value"
  | value label message => s!"invalid value for '{label}': {message}"
  | help | nothing => String.intercalate "\n" usageLines
  | version => versionText

/-- Whether the user asked for what the message says. -/
def isAnswer : UsageError → Bool
  | help | version => true
  | _ => false

end UsageError

end DynamicRpc.CommandLine
