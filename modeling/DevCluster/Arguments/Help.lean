import DevCluster.Arguments.Vocabulary
import DevCluster.Text.Styled

/-!
Usage lines and help texts. A list of options or commands has one column of names and one of
descriptions, which begins two spaces behind the longest name.
-/

namespace DevCluster.Arguments

open Text (Styled)
open Text.Styled (ordinary joined)

inductive Mention
  | option (option : ValueOption)
  | flag (flag : Flag)
  | anyOf (options : List ValueOption)
deriving DecidableEq, Repr

def ValueOption.styled (option : ValueOption) : Styled :=
  [(.literal, s!"--{option.name}"), (.ordinary, s!" <{option.valueName}>")]

def Flag.styled (flag : Flag) : Styled := [(.literal, flag.form)]

def Mention.styled : Mention → Styled
  | option named => named.styled
  | flag named => named.styled
  | anyOf options =>
    let forms := "|".intercalate (options.map (·.form))
    ordinary s!"<{forms}>"

def Scope.mention? (scope : Scope) (name : String) : Option Mention :=
  let options := scope.options.map fun option => (option.name, Mention.option option)
  let flags := scope.flags.map fun flag => (flag.name, Mention.flag flag)
  (options ++ flags).lookup name

structure Row where
  name : Styled
  text : String

def Row.styled (width : Nat) (row : Row) : Styled :=
  let gap := String.ofList (List.replicate (width - row.name.length + 2) ' ')
  ordinary "  " ++ row.name ++ ordinary (gap ++ row.text)

def columns (rows : List Row) : List Styled :=
  let width := rows.foldl (fun width row => max width row.name.length) 0
  rows.map (·.styled width)

namespace Scope

/-- The program's name and the subcommand's. A program without a name goes by its usual name, which
its subcommands leave out. -/
def invocation (program : Option String) : Scope → String
  | none => program.getD usualName
  | some command => " ".intercalate (program.toList ++ [command.name])

/-- The usage of a command, with the options that were used in place of all its options. -/
def usage (program : Option String) (scope : Scope) (used : List Mention) : Styled :=
  let words := match scope, used with
    | none, [] => [ordinary "[OPTIONS]", ordinary "<COMMAND>"]
    | none, used => used.map (·.styled) ++ [ordinary "<COMMAND>"]
    | some .completions, [] => [ordinary "[OPTIONS]"]
    | some .help, _ => [ordinary "[COMMAND]..."]
    | some _, used => used.map (·.styled)
  [(.heading, "Usage:"), (.ordinary, " ")] ++
    joined " " ([(.literal, scope.invocation program)] :: words)

def about : Scope → String
  | none => "Start and stop the Lifeguard local development environment (kind + tilt)"
  | some command => command.about

end Scope

def ValueOption.choicesNote (option : ValueOption) : Option String :=
  match option.choices with
  | [] => none
  | choices =>
    let listed := ", ".intercalate choices
    some s!"[possible values: {listed}]"

def ValueOption.row (option : ValueOption) : Row :=
  let about := if option.about.isEmpty then [] else [option.about]
  let notes := about ++ [s!"[default: {option.fallback}]"] ++ option.choicesNote.toList
  { name := ordinary "    " ++ option.styled, text := " ".intercalate notes }

def Flag.row (flag : Flag) : Row where
  name := [(.literal, s!"-{flag.letter}"), (.ordinary, ", ")] ++ flag.styled
  text := flag.about

def Subcommand.row (command : Subcommand) : Row where
  name := [(.literal, command.name)]
  text := command.about

def listing (heading : String) (rows : List Row) : List Styled :=
  [[], [(.heading, heading)]] ++ columns rows

def helpText (program : Option String) (scope : Scope) : Styled :=
  let options := listing "Options:" (scope.options.map (·.row) ++ scope.flags.map (·.row))
  let lists := match scope with
    | none => listing "Commands:" ([Subcommand.up, .down, .help].map (·.row)) ++ options
    | some .help => listing "Arguments:" [
        { name := ordinary "[COMMAND]...", text := "Print help for the subcommand(s)" }]
    | some _ => options
  let lines := [ordinary scope.about, [], scope.usage program []] ++ lists
  lines.flatMap (· ++ ordinary "\n")

end DevCluster.Arguments
