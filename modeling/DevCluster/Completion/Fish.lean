import DevCluster.Arguments.Vocabulary

/-!
The completion script for fish: which words and options may come next, given the words so far.
-/

namespace DevCluster.Completion.Fish

open Arguments

def functions : List String := [
  "# Print an optspec for argparse to handle cmd's options that are independent of any subcommand.",
  "function __fish_lifeguard_dev_global_optspecs",
  "    string join \\n log-level= log-format= h/help V/version",
  "end",
  "",
  "function __fish_lifeguard_dev_needs_command",
  "    # Figure out if the current invocation already has a command.",
  "    set -l cmd (commandline -opc)",
  "    set -e cmd[1]",
  "    argparse -s (__fish_lifeguard_dev_global_optspecs) -- $cmd 2>/dev/null",
  "    or return",
  "    if set -q argv[1]",
  "        # Also print the command, so this can be used to figure out what it is.",
  "        echo $argv[1]",
  "        return 1",
  "    end",
  "    return 0",
  "end",
  "",
  "function __fish_lifeguard_dev_using_subcommand",
  "    set -l cmd (__fish_lifeguard_dev_needs_command)",
  "    test -z \"$cmd\"",
  "    and return 1",
  "    contains -- $cmd[1] $argv",
  "end",
  ""]

def offer (condition what : String) : String :=
  s!"complete -c lifeguard-dev -n \"{condition}\" {what}"

def first : String := "__fish_lifeguard_dev_needs_command"

def after (command : String) : String :=
  s!"__fish_lifeguard_dev_using_subcommand {command}"

def flag (flag : Flag) : String :=
  s!"-s {flag.letter} -l {flag.name} -d '{flag.about}'"

def word (command : Subcommand) : String :=
  s!"-f -a \"{command.name}\" -d '{command.about}'"

def offers : List String :=
  [offer first s!"-l log-level -d '{ValueOption.logLevel.about}' -r",
    offer first s!"-l log-format -d '{ValueOption.logFormat.about}' -r -f -a \"auto\\t''",
    "text\\t''",
    "json\\t''\"",
    offer first (flag .help),
    offer first (flag .version)] ++
  Subcommand.all.map (fun command => offer first (word command)) ++
  [offer (after "up") (flag .help),
    offer (after "down") (flag .help),
    offer (after "completions") "-l shell -r",
    offer (after "completions") (flag .help)] ++
  Subcommand.all.map (fun command =>
    offer (after "help; and not __fish_seen_subcommand_from up down completions help")
      (word command))

def script : List String :=
  functions ++ offers

end DevCluster.Completion.Fish
