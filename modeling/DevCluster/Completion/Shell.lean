import DevCluster.Completion.Bash
import DevCluster.Completion.Fish
import DevCluster.Completion.Zsh

/-!
The shells that have a completion script.
-/

namespace DevCluster.Completion

inductive Shell
  | bash
  | zsh
  | fish
deriving DecidableEq, Repr

def Shell.ofName? : String → Option Shell
  | "bash" => some .bash
  | "zsh" => some .zsh
  | "fish" => some .fish
  | _ => none

def Shell.lines : Shell → List String
  | bash => Bash.script
  | zsh => Zsh.script
  | fish => Fish.script

def Shell.script (shell : Shell) : String :=
  String.join (shell.lines.map (· ++ "\n"))

end DevCluster.Completion
