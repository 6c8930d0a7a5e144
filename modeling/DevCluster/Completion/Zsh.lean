import DevCluster.Arguments.Vocabulary

/-!
The completion script for zsh. For every command it has the options and words that may come next,
and a function that describes the words.
-/

namespace DevCluster.Completion.Zsh

open Arguments

def argumentLines : List String := [
  "#compdef lifeguard-dev",
  "",
  "autoload -U is-at-least",
  "",
  "_lifeguard-dev() \x7b",
  "    typeset -A opt_args",
  "    typeset -a _arguments_options",
  "    local ret=1",
  "",
  "    if is-at-least 5.2; then",
  "        _arguments_options=(-s -S -C)",
  "    else",
  "        _arguments_options=(-s -C)",
  "    fi",
  "",
  "    local context curcontext=\"$curcontext\" state line",
  "    _arguments \"$\x7b_arguments_options[@]\x7d\" : \\",
  "'--log-level=[Log level for diagnostics on stderr\\: " ++
    "trace|debug|info|warn|error]:LOG_LEVEL:_default' \\",
  "'--log-format=[Log format\\: auto|text|json]:LOG_FORMAT:(auto text json)' \\",
  "'-h[Print help]' \\",
  "'--help[Print help]' \\",
  "'-V[Print version]' \\",
  "'--version[Print version]' \\",
  "\":: :_lifeguard-dev_commands\" \\",
  "\"*::: :->lifeguard-dev\" \\",
  "&& ret=0",
  "    case $state in",
  "    (lifeguard-dev)",
  "        words=($line[1] \"$\x7bwords[@]\x7d\")",
  "        (( CURRENT += 1 ))",
  "        curcontext=\"$\x7bcurcontext%:*:*\x7d:lifeguard-dev-command-$line[1]:\"",
  "        case $line[1] in",
  "            (up)",
  "_arguments \"$\x7b_arguments_options[@]\x7d\" : \\",
  "'-h[Print help]' \\",
  "'--help[Print help]' \\",
  "&& ret=0",
  ";;",
  "(down)",
  "_arguments \"$\x7b_arguments_options[@]\x7d\" : \\",
  "'-h[Print help]' \\",
  "'--help[Print help]' \\",
  "&& ret=0",
  ";;",
  "(completions)",
  "_arguments \"$\x7b_arguments_options[@]\x7d\" : \\",
  "'--shell=[]:SHELL:_default' \\",
  "'-h[Print help]' \\",
  "'--help[Print help]' \\",
  "&& ret=0",
  ";;",
  "(help)",
  "_arguments \"$\x7b_arguments_options[@]\x7d\" : \\",
  "\":: :_lifeguard-dev__subcmd__help_commands\" \\",
  "\"*::: :->help\" \\",
  "&& ret=0",
  "",
  "    case $state in",
  "    (help)",
  "        words=($line[1] \"$\x7bwords[@]\x7d\")",
  "        (( CURRENT += 1 ))",
  "        curcontext=\"$\x7bcurcontext%:*:*\x7d:lifeguard-dev-help-command-$line[1]:\"",
  "        case $line[1] in",
  "            (up)",
  "_arguments \"$\x7b_arguments_options[@]\x7d\" : \\",
  "&& ret=0",
  ";;",
  "(down)",
  "_arguments \"$\x7b_arguments_options[@]\x7d\" : \\",
  "&& ret=0",
  ";;",
  "(completions)",
  "_arguments \"$\x7b_arguments_options[@]\x7d\" : \\",
  "&& ret=0",
  ";;",
  "(help)",
  "_arguments \"$\x7b_arguments_options[@]\x7d\" : \\",
  "&& ret=0",
  ";;",
  "        esac",
  "    ;;",
  "esac",
  ";;",
  "        esac",
  "    ;;",
  "esac",
  "\x7d",
  ""]

def described : List String :=
  Subcommand.all.map fun command => s!"'{command.name}:{command.about}' \\"

def wordFunction (command : String) (described : List String) : List String :=
  let name := "__subcmd__".intercalate (command.splitOn " ")
  let body := match described with
    | [] => ["    local commands; commands=()"]
    | _ => ["    local commands; commands=("] ++ described ++ ["    )"]
  [s!"(( $+functions[_{name}_commands] )) ||", s!"_{name}_commands() \x7b"] ++ body ++
    [s!"    _describe -t commands '{command} commands' commands \"$@\"", "\x7d"]

def wordFunctions : List String :=
  wordFunction "lifeguard-dev" described ++
    wordFunction "lifeguard-dev completions" [] ++
    wordFunction "lifeguard-dev down" [] ++
    wordFunction "lifeguard-dev help" described ++
    ["completions", "down", "help", "up"].flatMap
      (fun word => wordFunction s!"lifeguard-dev help {word}" []) ++
    wordFunction "lifeguard-dev up" []

def closing : List String := [
  "",
  "if [ \"$funcstack[1]\" = \"_lifeguard-dev\" ]; then",
  "    _lifeguard-dev \"$@\"",
  "else",
  "    compdef _lifeguard-dev lifeguard-dev",
  "fi"]

def script : List String :=
  argumentLines ++ wordFunctions ++ closing

end DevCluster.Completion.Zsh
