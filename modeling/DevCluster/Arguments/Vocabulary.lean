/-!
The words of a command line: subcommands and options with their descriptions, and the formats of the
log.
-/

namespace DevCluster.Arguments

inductive Subcommand
  | up
  | down
  | completions
  | help
deriving DecidableEq, Repr

namespace Subcommand

def all : List Subcommand := [up, down, completions, help]

def name : Subcommand → String
  | up => "up"
  | down => "down"
  | completions => "completions"
  | help => "help"

def ofName? (name : String) : Option Subcommand :=
  all.find? (·.name = name)

def about : Subcommand → String
  | up => "Check prerequisites, bring up the kind cluster and run tilt until Ctrl-C"
  | down => "Stop tilt and delete the kind cluster (best effort, always exits 0)"
  | completions => "Generate shell completions (hidden)"
  | help => "Print this message or the help of the given subcommand(s)"

end Subcommand

inductive ValueOption
  | logLevel
  | logFormat
  | shell
deriving DecidableEq, Repr

namespace ValueOption

def name : ValueOption → String
  | logLevel => "log-level"
  | logFormat => "log-format"
  | shell => "shell"

def valueName : ValueOption → String
  | logLevel => "LOG_LEVEL"
  | logFormat => "LOG_FORMAT"
  | shell => "SHELL"

def about : ValueOption → String
  | logLevel => "Log level for diagnostics on stderr: trace|debug|info|warn|error"
  | logFormat => "Log format: auto|text|json"
  | shell => ""

def fallback : ValueOption → String
  | logLevel => "info"
  | logFormat => "auto"
  | shell => "bash"

def choices : ValueOption → List String
  | logFormat => ["auto", "text", "json"]
  | _ => []

def form (option : ValueOption) : String := s!"--{option.name} <{option.valueName}>"

end ValueOption

inductive Flag
  | help
  | version
deriving DecidableEq, Repr

namespace Flag

def name : Flag → String
  | help => "help"
  | version => "version"

def letter : Flag → Char
  | help => 'h'
  | version => 'V'

def about : Flag → String
  | help => "Print help"
  | version => "Print version"

def form (flag : Flag) : String := s!"--{flag.name}"

end Flag

/-- The command whose words are being read: a subcommand, or the program itself. -/
abbrev Scope := Option Subcommand

namespace Scope

def usualName : String := "lifeguard-dev"

def options : Scope → List ValueOption
  | none => [.logLevel, .logFormat]
  | some .completions => [.shell]
  | some _ => []

def flags : Scope → List Flag
  | none => [.help, .version]
  | some _ => [.help]

def optionNames (scope : Scope) : List String :=
  scope.options.map (·.name) ++ scope.flags.map (·.name)

end Scope

inductive LogFormat
  | auto
  | text
  | json
deriving DecidableEq, Repr

def LogFormat.ofName? : String → Option LogFormat
  | "auto" => some .auto
  | "text" => some .text
  | "json" => some .json
  | _ => none

end DevCluster.Arguments
