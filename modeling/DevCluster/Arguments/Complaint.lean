import DevCluster.Arguments.Help
import DevCluster.Console
import DevCluster.Text.Similarity

/-!
What is answered to a command line that asks for no action: help, the version, or what is wrong with
it.
-/

namespace DevCluster.Arguments

open Text (Styled)
open Text.Styled (ordinary joined)

/-- What was perhaps meant by an unknown option or a stray word. -/
inductive Tip
  /-- An option of a similar name. -/
  | option (meant : String)
  /-- An option of the subcommand for completions. -/
  | elsewhere (meant : String)
  /-- A subcommand behind two dashes. -/
  | subcommand (name : String)
deriving DecidableEq, Repr

inductive Complaint
  | help (scope : Scope)
  | version
  /-- Nothing is asked for. -/
  | nothingGiven
  | missingSubcommand
  | unknownSubcommand (word : String) (scope : Scope) (similar : List String)
  | unknownArgument (word : String) (scope : Scope) (used : List Mention) (tip : Option Tip)
  | valueMissing (option : ValueOption)
  | valueRefused (option : ValueOption) (value : String)
  | valueUnexpected (flag : Flag) (value : String) (scope : Scope) (used : List Mention)
  | repeated (option : ValueOption) (scope : Scope)
deriving DecidableEq, Repr

namespace Complaint

/-- Help and version are answers to a question, all others are faults. -/
def code : Complaint → Int
  | help _ | version => 0
  | _ => 2

def channel : Complaint → Channel
  | help _ | version => .stdout
  | _ => .stderr

def versionText : String := "lifeguard-dev 0.1.0\n"

structure Parts where
  head : Styled
  choices : Styled := []
  tip : Option Styled := none
  usage : Option Styled := none
  pointsToHelp : Bool := true

def Parts.styled (parts : Parts) : Styled :=
  let tip := match parts.tip with
    | none => []
    | some tip => [(.ordinary, "\n\n  "), (.valid, "tip:"), (.ordinary, " ")] ++ tip
  let usage := match parts.usage with
    | none => []
    | some usage => ordinary "\n\n" ++ usage
  let closing := if parts.pointsToHelp then
      [(.ordinary, "\n\nFor more information, try '"), (.literal, "--help"), (.ordinary, "'.\n")]
    else ordinary "\n"
  [(.alarm, "error:"), (.ordinary, " ")] ++ parts.head ++ parts.choices ++ tip ++ usage ++ closing

def listed (what : String) : List String → Styled
  | [] => []
  | words =>
    let choices := joined ", " (words.map fun word => [(.valid, word)])
    ordinary s!"\n  [{what}: " ++ choices ++ ordinary "]"

def quoted (tone : Text.Tone) (word : String) : Styled :=
  [(.ordinary, "'"), (tone, word), (.ordinary, "'")]

/-- Tells the words that were perhaps meant, in increasing similarity. -/
def similarTip (what : String) : List String → Option Styled
  | [] => none
  | [word] => some (ordinary s!"a similar {what} exists: " ++ quoted .valid word)
  | words =>
    some (ordinary s!"some similar {what}s exist: " ++ joined ", " (words.map (quoted .valid)))

def tipText : Tip → Option Styled
  | .option meant => similarTip "argument" [s!"--{meant}"]
  | .elsewhere meant =>
    some (quoted .valid s!"{Subcommand.completions.name} --{meant}" ++ ordinary " exists")
  | .subcommand name =>
    some (ordinary "subcommand " ++ quoted .valid name ++
      ordinary " exists; to use it, remove the " ++ quoted .faulty "--" ++ ordinary " before it")

def valueNeeded (option : ValueOption) : Parts where
  head := ordinary "a value is required for " ++ quoted .faulty option.form ++
    ordinary " but none was supplied"
  choices := listed "possible values" option.choices

def message (program : Option String) : Complaint → Styled
  | help scope => helpText program scope
  | version => ordinary versionText
  | nothingGiven => helpText program none
  | missingSubcommand =>
    Parts.styled {
      head := quoted .faulty (Scope.invocation program none) ++
        ordinary " requires a subcommand but one was not provided"
      choices := listed "subcommands" (Subcommand.all.map (·.name))
      usage := some (Scope.usage program none []) }
  | unknownSubcommand word scope similar =>
    Parts.styled {
      head := ordinary "unrecognized subcommand " ++ quoted .faulty word
      tip := similarTip "subcommand" similar
      usage := some (scope.usage program [])
      pointsToHelp := scope ≠ some .help }
  | unknownArgument word scope used tip =>
    Parts.styled {
      head := ordinary "unexpected argument " ++ quoted .faulty word ++ ordinary " found"
      tip := tip.bind tipText
      usage := some (scope.usage program used) }
  | valueMissing option => (valueNeeded option).styled
  | valueRefused option value =>
    if value.isEmpty then (valueNeeded option).styled
    else
      let best := (Text.similar value option.choices).getLast?
      Parts.styled {
        head := ordinary "invalid value " ++ quoted .faulty value ++ ordinary " for " ++
          quoted .literal option.form
        choices := listed "possible values" option.choices
        tip := similarTip "value" best.toList }
  | valueUnexpected flag value scope used =>
    Parts.styled {
      head := ordinary "unexpected value " ++ quoted .faulty value ++ ordinary " for " ++
        quoted .literal flag.form ++ ordinary " found; no more were expected"
      usage := some (scope.usage program used) }
  | repeated option scope =>
    Parts.styled {
      head := ordinary "the argument " ++ quoted .faulty option.form ++
        ordinary " cannot be used multiple times"
      usage := some (scope.usage program []) }

end Complaint

end DevCluster.Arguments
