import DevCluster.Action
import DevCluster.Arguments.Complaint
import DevCluster.Path

/-!
Command lines: options of the program, a subcommand, and options of the subcommand. An option takes
its value behind an equals sign or as the next word, and two dashes alone end the options.
-/

namespace DevCluster.Arguments

structure Invocation where
  logLevel : String
  logFormat : LogFormat
  action : Action
deriving DecidableEq, Repr

/-- The kinds of words: two dashes alone, an option by its name, one or more options by their
letters, and all others, a dash alone among them. -/
inductive Token
  | separator
  | long (name : String) (value : Option String)
  | short (letter : Char)
  | plain
deriving DecidableEq, Repr

/-- The text before the first equals sign, and the text behind it. -/
def splitValue (text : List Char) : String × Option String :=
  let name := String.ofList (text.takeWhile (· ≠ '='))
  match text.dropWhile (· ≠ '=') with
  | [] => (name, none)
  | _ :: value => (name, some (String.ofList value))

def Token.ofWord (word : String) : Token :=
  match word.toList with
  | ['-', '-'] => .separator
  | '-' :: '-' :: text =>
    let (name, value) := splitValue text
    .long name value
  | '-' :: letter :: _ => .short letter
  | _ => .plain

/-- The options of one command as far as they are read. An option takes effect when its value is
complete and the next option begins or the words end. -/
structure Reading where
  given : List (ValueOption × String) := []
  pending : Option (ValueOption × Option String) := none
  /-- Whether two dashes have ended the options. -/
  ended : Bool := false
deriving DecidableEq, Repr

namespace Reading

def awaited? (reading : Reading) : Option ValueOption :=
  match reading.pending with
  | some (option, none) => some option
  | _ => none

def accept (reading : Reading) (scope : Scope) (option : ValueOption) (value : String) :
    Except Complaint Reading :=
  if (reading.given.lookup option).isSome then .error (.repeated option scope)
  else if option.choices ≠ [] ∧ value ∉ option.choices then .error (.valueRefused option value)
  else .ok { reading with given := reading.given ++ [(option, value)], pending := none }

def settle (reading : Reading) (scope : Scope) : Except Complaint Reading :=
  match reading.pending with
  | none => .ok reading
  | some (option, none) => .error (.valueMissing option)
  | some (option, some value) => reading.accept scope option value

def used (reading : Reading) : List Mention :=
  reading.given.map (Mention.option ·.1)

def withMention (used : List Mention) (mention : Mention) : List Mention :=
  if mention ∈ used then used else used ++ [mention]

/-- The options in use once the pending one has its value, be it a value that it refuses. An option
that is given again is in use no more. -/
def usedWithPending (reading : Reading) : List Mention :=
  match reading.pending with
  | some (option, some _) =>
    if (reading.given.lookup option).isSome then reading.used.filter (· ≠ .option option)
    else reading.used ++ [.option option]
  | _ => reading.used

def usedAsOne (reading : Reading) (scope : Scope) : List Mention :=
  if reading.given.isEmpty then [] else [.anyOf scope.options]

/-- The answer to an unknown option. The option that was perhaps meant counts as used. -/
def unknownOption (reading : Reading) (scope : Scope) (name : String) (rest : List String) :
    Complaint :=
  let used := reading.usedWithPending
  match (Text.similar name scope.optionNames).getLast? with
  | some meant =>
    let used := match scope.mention? meant with
      | some mention => withMention used mention
      | none => used
    .unknownArgument s!"--{name}" scope used (some (.option meant))
  | none =>
    let elsewhere := Text.similar name (Scope.optionNames (some .completions))
    let tip := match scope, elsewhere.getLast? with
      | none, some meant =>
        if rest.contains Subcommand.completions.name then some (.elsewhere meant) else none
      | _, _ => none
    .unknownArgument s!"--{name}" scope used tip

def answerFlag (reading : Reading) (scope : Scope) (flag : Flag) : Complaint :=
  match reading.settle scope with
  | .error complaint => complaint
  | .ok _ =>
    match flag with
    | .help => .help scope
    | .version => .version

def readLong (reading : Reading) (scope : Scope) (name : String) (value : Option String)
    (rest : List String) : Except Complaint Reading :=
  match scope.options.find? (·.name = name), scope.flags.find? (·.name = name), value with
  | some option, _, some value => do (← reading.settle scope).accept scope option value
  | some option, _, none => do
    return { ← reading.settle scope with pending := some (option, none) }
  | none, some flag, some value =>
    .error (.valueUnexpected flag value scope (.flag flag :: reading.usedAsOne scope))
  | none, some flag, none => .error (reading.answerFlag scope flag)
  | none, none, _ => .error (reading.unknownOption scope name rest)

def readShort (reading : Reading) (scope : Scope) (letter : Char) : Except Complaint Reading :=
  match scope.flags.find? (·.letter = letter) with
  | some flag => .error (reading.answerFlag scope flag)
  | none => .error (.unknownArgument s!"-{letter}" scope [] none)

def strayWord (reading : Reading) (scope : Scope) (word : String) : Complaint :=
  match scope with
  | none =>
    if reading.ended && (Subcommand.ofName? word).isSome then
      .unknownArgument word none [] (some (.subcommand word))
    else .unknownSubcommand word none (Text.similar word (Subcommand.all.map (·.name)))
  | some _ => .unknownArgument word scope [] none

def readWord (reading : Reading) (scope : Scope) (word : String) (rest : List String) :
    Except Complaint Reading :=
  if reading.ended then .error (reading.strayWord scope word)
  else match Token.ofWord word with
    | .separator => .ok { reading with ended := true }
    | .long name value => reading.readLong scope name value rest
    | .short letter => reading.readShort scope letter
    | .plain =>
      match reading.awaited? with
      | some option => .ok { reading with pending := some (option, some word) }
      | none => .error (reading.strayWord scope word)

def readWords (scope : Scope) (reading : Reading) : List String → Except Complaint Reading
  | [] => reading.settle scope
  | word :: rest => do readWords scope (← reading.readWord scope word rest) rest

def valueOf (reading : Reading) (option : ValueOption) : String :=
  (reading.given.lookup option).getD option.fallback

end Reading

/-- The answer to the words behind `help`, which name a command. -/
def helpOn : Scope → List String → Complaint
  | scope, [] => .help scope
  | none, word :: rest =>
    match Subcommand.ofName? word with
    | some command => helpOn (some command) rest
    | none => .unknownSubcommand word none []
  | some command, word :: _ => .unknownSubcommand word (some command) []

namespace Invocation

def ofReadings (outer : Reading) (command : Subcommand) (inner : Reading) :
    Except Complaint Invocation :=
  let make (action : Action) : Except Complaint Invocation := do
    let outer ← outer.settle none
    let format := outer.valueOf .logFormat
    match LogFormat.ofName? format with
    | some logFormat => pure { logLevel := outer.valueOf .logLevel, logFormat, action }
    | none => .error (.valueRefused .logFormat format)
  match command with
  | .up => make .up
  | .down => make .down
  | .completions => make (.completions (inner.valueOf .shell))
  | .help => .error (.help none)

def readWords (reading : Reading) : List String → Except Complaint Invocation
  | [] => do
    let reading ← reading.settle none
    .error (if reading.given.isEmpty then .nothingGiven else .missingSubcommand)
  | word :: rest =>
    match (if reading.ended || reading.awaited?.isSome then none else Subcommand.ofName? word) with
    | some .help => .error (helpOn none rest)
    | some command => do
      let inner ← Reading.readWords (some command) {} rest
      ofReadings reading command inner
    | none => do readWords (← reading.readWord none word rest) rest

/-- What a command line asks for, without its first word, which names the program. -/
def ofWords (words : List String) : Except Complaint Invocation :=
  readWords {} words.tail

end Invocation

/-- The name of the program as its messages give it: that of the file it was called by. -/
def programName? (words : List String) : Option String :=
  words.head?.bind Path.fileName?

end DevCluster.Arguments
