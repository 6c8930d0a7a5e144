import DevCluster.Command

/-!
How a start and a stop of the environment end.
-/

namespace DevCluster

inductive StartOutcome
  | exited (code : ExitCode)
  /-- The operator interrupted the start or tilt. The cluster is left running. -/
  | interrupted
deriving DecidableEq, Repr

inductive OrchestratorStop
  | graceful
  /-- Tilt did not stop when asked to, but its process could be killed. -/
  | killed
  | notRunning
deriving DecidableEq, Repr

inductive ClusterCleanup
  | deleted
  /-- The cluster could not be deleted, and it is not listed either. -/
  | alreadyAbsent
  /-- The cluster could not be deleted, and it is still listed. -/
  | incomplete
deriving DecidableEq, Repr

structure StopReport where
  orchestrator : OrchestratorStop
  cluster : ClusterCleanup
deriving DecidableEq, Repr

def describeExit : ExitCode → String
  | some code => toString code
  | none => "a signal"

end DevCluster
