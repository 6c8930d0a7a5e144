import DevCluster.Action

/-!
Sessions: steps of a start or stop, one after another, on a scripted host that has an answer for
every command. An interrupt stays pending until a step takes it.
-/

namespace DevCluster

inductive Reply
  | output (output : Output)
  | fault (stage : RunStage) (reason : String)
  | interrupt
deriving DecidableEq, Repr

def Reply.answer (program : String) : Reply → Answer
  | output result => .ended result
  | fault stage reason => .failed { stage, program, reason }
  | interrupt => .interrupted

structure Session where
  settings : Settings := Settings.defaults
  missing : List String := []
  /-- The replies to each command line. Each is used once, the last one again and again. -/
  script : List (String × List Reply) := []
  interruptPending : Bool := false
deriving DecidableEq, Repr

/-- What a session has told the operator and been asked to do. -/
inductive JournalEntry
  | said (line : Line)
  | located (tool : String) (found : Bool)
  | ran (mode : Mode) (command : Command) (answer : Answer)
deriving DecidableEq, Repr

abbrev Journal := List JournalEntry

def JournalEntry.line? : JournalEntry → Option Line
  | said line => some line
  | _ => none

def Journal.lines (journal : Journal) : List Line :=
  journal.filterMap JournalEntry.line?

/-- The entries of a journal about tools and commands in order. -/
def Journal.calls (journal : Journal) : Journal :=
  journal.filter (·.line?.isNone)

namespace Session

/-- Scripts a command line, or clears its script by an empty list. -/
def setReplies (session : Session) (commandLine : String) (replies : List Reply) : Session :=
  let others := session.script.filter (·.1 ≠ commandLine)
  { session with
    script := if replies.isEmpty then others else (commandLine, replies) :: others }

/-- The next reply to a command. A command without a script succeeds and says nothing. -/
def nextReply (session : Session) (command : Command) : Reply × Session :=
  let commandLine := " ".intercalate command.words
  match session.script.lookup commandLine with
  | none | some [] => (.output { code := some 0 }, session)
  | some [last] => (last, session)
  | some (first :: others) => (first, session.setReplies commandLine others)

/-- A command that is interrupted leaves the interrupt pending, unless it runs in the foreground,
where it takes the interrupt itself. -/
def run (session : Session) (mode : Mode) (command : Command) : Answer × Session :=
  let (reply, session) := session.nextReply command
  let raised := reply = .interrupt ∧ mode ≠ .foreground
  (reply.answer command.program,
    { session with interruptPending := session.interruptPending || decide raised })

def host : Host (Session × Journal) where
  perform
    | .settingsFile, state => ({ path := "", content := .absent }, state)
    | .lookUp _, state => (none, state)
    | .locate tool, (session, journal) =>
      let found := !session.missing.contains tool
      (if found then some s!"/usr/local/bin/{tool}" else none, session,
        journal ++ [.located tool found])
    | .run mode command, (session, journal) =>
      let (answer, session) := session.run mode command
      (answer, session, journal ++ [.ran mode command answer])
    | .say line, (session, journal) => ((), session, journal ++ [.said line])
    | .takeInterrupt, (session, journal) =>
      (session.interruptPending, { session with interruptPending := false }, journal)
    | .note _, state | .enter _, state | .leave, state | .write _, state => ((), state)

end Session

inductive Step
  | configure (document : Option String) (environment : List (String × String))
  /-- From now on exactly these tools are missing. -/
  | missing (tools : List String)
  | script (commandLine : String) (replies : List Reply)
  | interrupt
  | up
  | dispatch (action : Action)
  | down
  | checkTools
  | checkDaemon
  | bootstrapCluster
  | switchContext
  | launchOrchestrator
  | stopOrchestrator
  | deleteCluster
deriving DecidableEq, Repr

inductive StepResult
  | nothing
  | settings (settings : Settings)
  | started (outcome : StartOutcome)
  | switched (success : Bool)
  | orchestrator (stop : OrchestratorStop)
  | cluster (cleanup : ClusterCleanup)
  | stopped (report : StopReport)
  | abandoned
  | failed (failure : Failure)
deriving DecidableEq, Repr

namespace StepResult

def ofRun : Except Stop StepResult → StepResult
  | .ok result => result
  | .error .interrupted => abandoned
  | .error (.failed failure) => failed failure

end StepResult

namespace Step

/-- Runs a routine, which has to deal with interrupts by itself. -/
def play (session : Session) (routine : Routine StepResult) : StepResult × Journal × Session :=
  let (result, session, journal) := routine.run Session.host (session, [])
  (StepResult.ofRun result, journal, session)

/-- A routine that is not begun while an interrupt is pending, and abandoned when one is raised. -/
def abandonable (routine : Routine StepResult) : Routine StepResult := do
  pure ((← routine.untilInterrupted).getD .abandoned)

/-- What a step runs, if it is not one that sets up the session. -/
def routine? (settings : Settings) : Step → Option (Routine StepResult)
  | configure _ _ | missing _ | script _ _ | interrupt => none
  | up => some (.started <$> Startup.run settings)
  | dispatch .up => some do Action.up.perform settings; pure .nothing
  | dispatch action => some (abandonable do action.perform settings; pure .nothing)
  | down => some (abandonable (.stopped <$> Shutdown.run settings))
  | checkTools => some (abandonable do Startup.checkTools; pure .nothing)
  | checkDaemon => some (abandonable do Startup.checkDaemon; pure .nothing)
  | bootstrapCluster =>
    some (abandonable do Startup.bootstrapCluster settings; pure .nothing)
  | switchContext => some (abandonable (.switched <$> Startup.switchContext settings))
  | launchOrchestrator =>
    some (abandonable (.started <$> Startup.launchOrchestrator settings))
  | stopOrchestrator => some (abandonable (.orchestrator <$> Shutdown.stopOrchestrator))
  | deleteCluster => some (abandonable (.cluster <$> Shutdown.deleteCluster settings))

/-- What a step makes of the session without running anything. -/
def setUp (session : Session) : Step → StepResult × Session
  | configure document environment =>
    match Settings.read document (environment.lookup ·) with
    | .ok settings => (.settings settings, { session with settings })
    | .error failure => (.failed failure, session)
  | missing tools => (.nothing, { session with missing := tools })
  | script commandLine replies => (.nothing, session.setReplies commandLine replies)
  | interrupt => (.nothing, { session with interruptPending := true })
  | _ => (.nothing, session)

def perform (session : Session) (step : Step) : StepResult × Journal × Session :=
  match step.routine? session.settings with
  | some routine => play session routine
  | none =>
    let (result, session) := step.setUp session
    (result, [], session)

end Step

def Session.play (session : Session) : List Step → List (StepResult × Journal)
  | [] => []
  | step :: steps =>
    let (result, journal, session) := step.perform session
    (result, journal) :: session.play steps

end DevCluster
