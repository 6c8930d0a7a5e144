import DevCluster.Completion.Shell
import DevCluster.Shutdown
import DevCluster.Startup

/-!
The actions that the operator can ask for, each in its span.
-/

namespace DevCluster

inductive Action
  | up
  | down
  | completions (shell : String)
deriving DecidableEq, Repr

def writeCompletions (shell : String) : Routine Unit :=
  match Completion.Shell.ofName? shell with
  | some known => do
    Routine.request (.write known.script)
    Routine.note (.completionsWritten shell)
  | none => Routine.fail (.ofKind (.usage s!"unsupported shell: {shell}"))

namespace Action

def routine (settings : Settings) : Action → Routine Unit
  | up => Routine.within (.start settings.clusterName) do
    Routine.note (.startEnded (← Startup.run settings))
  | down => Routine.within (.stop settings.clusterName) do
    Routine.note (.stopReported (← Shutdown.run settings))
  | completions shell => Routine.within .completions (writeCompletions shell)

def perform (settings : Settings) (action : Action) : Routine Unit := do
  let result ← (action.routine settings).attempt
  Routine.note (if result.isOk then .actionFinished else .actionFailed)
  Routine.ofExcept result

end Action

end DevCluster
