/-!
Commands of other programs, how they are run, and what comes of them.
-/

namespace DevCluster

structure Command where
  program : String
  arguments : List String
deriving DecidableEq, Repr

namespace Command

def words (command : Command) : List String :=
  command.program :: command.arguments

end Command

/-- Where a command's output goes, and whether it hears of an interrupt first. -/
inductive Mode
  | capture
  | attached
  /-- The output is shown, and an interrupt ends the command and then its caller's wait. -/
  | foreground
deriving DecidableEq, Repr

/-- The exit code of an ended command, none if a signal ended it. -/
abbrev ExitCode := Option Int

structure Output where
  code : ExitCode
  stdout : String := ""
  stderr : String := ""
deriving DecidableEq, Repr

def Output.succeeded (output : Output) : Bool :=
  output.code = some 0

inductive RunStage
  | start
  | wait
  | interruptHandler
deriving DecidableEq, Repr

structure RunFault where
  stage : RunStage
  program : String
  reason : String
deriving DecidableEq, Repr

def RunFault.text (fault : RunFault) : String :=
  match fault.stage with
  | .start => s!"failed to start {fault.program}: {fault.reason}"
  | .wait => s!"failed waiting for {fault.program}: {fault.reason}"
  | .interruptHandler => s!"failed to install interrupt handler: {fault.reason}"

inductive Answer
  | ended (output : Output)
  | failed (fault : RunFault)
  | interrupted
deriving DecidableEq, Repr

end DevCluster
