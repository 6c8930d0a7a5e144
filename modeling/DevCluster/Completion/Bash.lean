/-!
The completion script for bash. For every command on the line so far it has a case with the words
that may come next.
-/

namespace DevCluster.Completion.Bash

def wordCase (command word reached : String) : List String := [
  s!"            {command},{word})",
  s!"                cmd=\"{reached}\"",
  "                ;;"]

/-- A case that names the files or values that may follow an option. -/
def valueCase (option completion : String) : List String := [
  s!"                {option})",
  s!"                    COMPREPLY=($(compgen {completion} \"$\x7bcur\x7d\"))",
  "                    return 0",
  "                    ;;"]

def offered : String := "COMPREPLY=( $(compgen -W \"$\x7bopts\x7d\" -- \"$\x7bcur\x7d\") )"

/-- A case with the words after a command, which is the word at `depth`. -/
def commandCase (command words : String) (depth : Nat) (values : List String) : List String := [
  s!"        {command})",
  s!"            opts=\"{words}\"",
  s!"            if [[ $\x7bcur\x7d == -* || $\x7bCOMP_CWORD\x7d -eq {depth} ]] ; then",
  s!"                {offered}",
  "                return 0",
  "            fi",
  "            case \"$\x7bprev\x7d\" in"] ++
  values ++ [
  "                *)",
  "                    COMPREPLY=()",
  "                    ;;",
  "            esac",
  s!"            {offered}",
  "            return 0",
  "            ;;"]

def top : String := "lifeguard__dev"

def inner : String := "lifeguard__subcmd__dev__subcmd__"

def opening : List String := [
  "_lifeguard__dev() \x7b",
  "    local i cur prev opts cmd",
  "    COMPREPLY=()",
  "    if [[ \"$\x7bBASH_VERSINFO[0]\x7d\" -ge 4 ]]; then",
  "        cur=\"$2\"",
  "    else",
  "        cur=\"$\x7bCOMP_WORDS[COMP_CWORD]\x7d\"",
  "    fi",
  "    prev=\"$3\"",
  "    cmd=\"\"",
  "    opts=\"\"",
  "",
  "    for i in \"$\x7bCOMP_WORDS[@]:0:COMP_CWORD\x7d\"",
  "    do",
  "        case \"$\x7bcmd\x7d,$\x7bi\x7d\" in",
  "            \",$1\")",
  s!"                cmd=\"{top}\"",
  "                ;;"]

def wordCases : List String :=
  ["completions", "down", "help", "up"].flatMap
      (fun word => wordCase top word s!"{top}__subcmd__{word}") ++
    ["completions", "down", "help", "up"].flatMap
      (fun word => wordCase s!"{top}__subcmd__help" word s!"{top}__subcmd__help__subcmd__{word}")

def middle : List String := [
  "            *)",
  "                ;;",
  "        esac",
  "    done",
  "",
  "    case \"$\x7bcmd\x7d\" in"]

def topWords : String :=
  "-h -V --log-level --log-format --help --version up down completions help"

def commandCases : List String :=
  commandCase top topWords 1
      (valueCase "--log-level" "-f" ++ valueCase "--log-format" "-W \"auto text json\" --") ++
    commandCase (inner ++ "completions") "-h --shell --help" 2 (valueCase "--shell" "-f") ++
    commandCase (inner ++ "down") "-h --help" 2 [] ++
    commandCase (inner ++ "help") "up down completions help" 2 [] ++
    ["completions", "down", "help", "up"].flatMap
      (fun word => commandCase s!"{inner}help__subcmd__{word}" "" 3 []) ++
    commandCase (inner ++ "up") "-h --help" 2 []

def registration : String := "complete -F _lifeguard__dev"

def closing : List String := [
  "    esac",
  "\x7d",
  "",
  "if [[ \"$\x7bBASH_VERSINFO[0]\x7d\" -eq 4 && \"$\x7bBASH_VERSINFO[1]\x7d\" -ge 4 || " ++
    "\"$\x7bBASH_VERSINFO[0]\x7d\" -gt 4 ]]; then",
  s!"    {registration} -o nosort -o bashdefault -o default lifeguard-dev",
  "else",
  s!"    {registration} -o bashdefault -o default lifeguard-dev",
  "fi"]

def script : List String :=
  opening ++ wordCases ++ middle ++ commandCases ++ closing

end DevCluster.Completion.Bash
