import DevCluster.Console
import DevCluster.Failure
import DevCluster.Outcome
import DevCluster.Text.Blank

/-!
Events that a run notes for diagnosis, the spans they happen in, and the record of each: its level,
its target, its message and its fields in order.
-/

namespace DevCluster

inductive Event
  | settingsSought (path : String) (present : Bool)
  | settingsRead (octets : Nat)
  | settingsParsed
  | settingsRefused (refusal : Refusal)
  | toolFound (tool path : String)
  | daemonUnreachable (output : Output)
  | clusterReady (cluster : String)
  | contextRefused (output : Output)
  | contextUnavailable (fault : RunFault)
  | orchestratorDone
  | orchestratorFailed (code : ExitCode)
  | startInterrupted (cluster : String)
  | startEnded (outcome : StartOutcome)
  | commandUnavailable (fault : RunFault)
  | listingFailed (output : Output)
  | listingUnavailable (fault : RunFault)
  | stopFinished (report : StopReport)
  | stopReported (report : StopReport)
  | completionsWritten (shell : String)
  | actionFinished
  | actionFailed
  | failureCaused (causes : String)
  | failureClassified (kind : FailureKind) (source : Option Failure)
  | runFinished (code : Int)
  | lineSaid (line : Line)
  | captureStarted (command : Command)
  | captureEnded (program : String) (output : Output)
  | attachedStarted (command : Command)
  | foregroundStarted (command : Command)
  | foregroundInterrupted (program : String)
  | foregroundKilled (program : String)
  | foregroundLeft (program : String) (code : ExitCode)
deriving DecidableEq, Repr

/-- A stretch of a run that events happen in. -/
inductive Span
  | start (cluster : String)
  | stop (cluster : String)
  | completions
deriving DecidableEq, Repr

inductive Level
  | trace
  | debug
  | info
  | warn
  | error
deriving DecidableEq, Repr

/-- How much has to be let through for a level to be shown. -/
def Level.depth : Level → Nat
  | error => 1
  | warn => 2
  | info => 3
  | debug => 4
  | trace => 5

inductive FieldValue
  | quoted (text : String)
  | bare (text : String)
  | number (value : Int)
  | flag (value : Bool)
  | elapsed
deriving DecidableEq, Repr

structure Record where
  level : Level
  target : String
  message : Option String := none
  fields : List (String × FieldValue) := []
deriving DecidableEq, Repr

def showTexts (list : List String) : String :=
  "[" ++ ", ".intercalate (list.map shown) ++ "]"

def showExit : ExitCode → String
  | some code => s!"Some({code})"
  | none => "None"

def OrchestratorStop.name : OrchestratorStop → String
  | graceful => "Graceful"
  | killed => "Killed"
  | notRunning => "NotRunning"

def ClusterCleanup.name : ClusterCleanup → String
  | deleted => "Deleted"
  | alreadyAbsent => "AlreadyAbsent"
  | incomplete => "Incomplete"

def FailureKind.display : FailureKind → String
  | missingTool tool => s!"MissingTool({shown tool})"
  | daemonUnavailable => "DaemonUnavailable"
  | bootstrap detail => s!"Bootstrap({shown detail})"
  | usage detail => s!"Usage({shown detail})"
  | config detail => s!"Config({shown detail})"
  | runtime detail => s!"Runtime({shown detail})"

/-- A text under a heading, its later lines aligned with its first. -/
def indented (heading margin text : String) : String :=
  heading ++ ("\n" ++ margin).intercalate (text.splitOn "\n")

/-- A failure and its causes on several lines, the causes numbered if there is more than one. -/
def Failure.report (failure : Failure) : String :=
  match failure.chain with
  | [] => ""
  | [text] => text
  | [text, cause] => text ++ "\n\nCaused by:\n" ++ indented "    " "    " cause
  | text :: causes =>
    let numbered := (List.range causes.length).zip causes |>.map fun (place, cause) =>
      let number := toString place
      let room := String.ofList (List.replicate (5 - number.length) ' ')
      indented (room ++ number ++ ": ") "       " cause
    text ++ "\n\nCaused by:\n" ++ "\n".intercalate numbered

def showSource : Option Failure → String
  | some failure => s!"Some({failure.report})"
  | none => "None"

namespace Span

def name : Span → String
  | start _ => "cmd.up"
  | stop _ => "cmd.down"
  | completions => "cmd.completions"

def fields : Span → List (String × FieldValue)
  | start cluster | stop cluster => [("cluster", .bare cluster)]
  | completions => []

def target : String := "lifeguard_dev::app"

end Span

namespace Event

def rejected (output : Output) : List (String × FieldValue) :=
  [("code", .bare (showExit output.code)), ("stderr", .bare (trimmed output.stderr))]

def invoked (command : Command) : List (String × FieldValue) :=
  [("program", .bare command.program), ("args", .bare (showTexts command.arguments))]

def ofReport (event : String) (report : StopReport) : List (String × FieldValue) :=
  [("event", .quoted event), ("orchestrator", .bare report.orchestrator.name),
    ("cluster", .bare report.cluster.name)]

def ofLine : Line → List (String × FieldValue)
  | .info text => [("level", .quoted "info"), ("msg", .bare text)]
  | .warn text => [("level", .quoted "warn"), ("msg", .bare text)]
  | .error text => [("level", .quoted "error"), ("msg", .bare text)]
  | .detail text => [("level", .quoted "detail"), ("msg", .bare text)]
  | .blank => []

def ofOutcome : StartOutcome → List (String × FieldValue)
  | .interrupted => [("event", .quoted "up.stopped"), ("interrupted", .flag true)]
  | .exited code => [("event", .quoted "up.stopped"), ("interrupted", .flag false),
      ("code", .bare (showExit code))]

def app : String := "lifeguard_dev::app"
def config : String := "lifeguard_dev::config"
def startup : String := "lifeguard_dev::startup"
def shutdown : String := "lifeguard_dev::shutdown"
def process : String := "lifeguard_dev::process"

def record : Event → Record
  | settingsSought path present =>
    ⟨.debug, config, some "config.load.attempt",
      [("path", .bare (shown path)), ("exists", .bare (toString present))]⟩
  | settingsRead octets => ⟨.debug, config, some "config.read", [("len", .number octets)]⟩
  | settingsParsed => ⟨.debug, config, some "config.parse.success", []⟩
  | settingsRefused refusal =>
    ⟨.debug, config, some "config.parse.error", [("error", .bare refusal.details)]⟩
  | toolFound tool path =>
    ⟨.debug, startup, some "up.prerequisite.found", [("tool", .bare tool), ("path", .bare path)]⟩
  | daemonUnreachable output => ⟨.debug, startup, some "up.docker.unreachable", rejected output⟩
  | clusterReady cluster =>
    ⟨.info, startup, none, [("event", .quoted "up.bootstrap.done"), ("cluster", .bare cluster)]⟩
  | contextRefused output => ⟨.debug, startup, some "up.context.failed", rejected output⟩
  | contextUnavailable fault =>
    ⟨.debug, startup, some "up.context.failed", [("error", .bare fault.text)]⟩
  | orchestratorDone =>
    ⟨.info, startup, some "tilt exited", [("event", .quoted "up.orchestrator.exited")]⟩
  | orchestratorFailed code =>
    ⟨.warn, startup, some "tilt exited with failure",
      [("event", .quoted "up.orchestrator.exited"), ("code", .bare (showExit code))]⟩
  | startInterrupted cluster =>
    ⟨.info, startup, none, [("event", .quoted "up.interrupted"), ("cluster", .bare cluster)]⟩
  | startEnded outcome => ⟨.info, "lifeguard_dev::commands::up", none, ofOutcome outcome⟩
  | commandUnavailable fault =>
    ⟨.debug, shutdown, some "down.command.unavailable", [("error", .bare fault.text)]⟩
  | listingFailed output => ⟨.debug, shutdown, some "down.list.failed", rejected output⟩
  | listingUnavailable fault =>
    ⟨.debug, shutdown, some "down.list.unavailable", [("error", .bare fault.text)]⟩
  | stopFinished report => ⟨.info, shutdown, none, ofReport "down.finished" report⟩
  | stopReported report =>
    ⟨.info, "lifeguard_dev::commands::down", none, ofReport "down.report" report⟩
  | completionsWritten shell =>
    ⟨.info, "lifeguard_dev::commands::completions", none,
      [("event", .quoted "completions.generated"), ("shell", .bare shell)]⟩
  | actionFinished => ⟨.info, app, none, [("event", .quoted "cmd.finished"), ("took_ms", .elapsed)]⟩
  | actionFailed => ⟨.info, app, none, [("event", .quoted "cmd.failed"), ("took_ms", .elapsed)]⟩
  | failureCaused causes => ⟨.debug, app, some "cli.error.source", [("error", .bare causes)]⟩
  | failureClassified kind source =>
    ⟨.debug, app, some "classified_cli_error",
      [("cli", .bare s!"CliError \x7b kind: {kind.display}, source: {showSource source} \x7d"),
        ("code", .number kind.code)]⟩
  | runFinished code =>
    ⟨.info, app, none,
      [("took_ms", .elapsed), ("event", .quoted "cli.finished"), ("exit_code", .number code)]⟩
  | lineSaid line => ⟨.debug, "lifeguard_dev::console", some "console.line", ofLine line⟩
  | captureStarted command => ⟨.debug, process, some "process.capture", invoked command⟩
  | captureEnded program output =>
    ⟨.debug, process, some "process.capture.done",
      [("program", .bare program), ("code", .bare (showExit output.code)),
        ("stderr_len", .number output.stderr.utf8ByteSize)]⟩
  | attachedStarted command => ⟨.debug, process, some "process.inherit", invoked command⟩
  | foregroundStarted command => ⟨.debug, process, some "process.foreground", invoked command⟩
  | foregroundInterrupted program =>
    ⟨.debug, process, some "process.foreground.interrupted", [("program", .bare program)]⟩
  | foregroundKilled program =>
    ⟨.debug, process, some "process.foreground.killed", [("program", .bare program)]⟩
  | foregroundLeft program code =>
    ⟨.debug, process, some "process.foreground.exited_after_interrupt",
      [("program", .bare program), ("code", .bare (showExit code))]⟩

end Event

end DevCluster
