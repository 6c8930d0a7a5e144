import DevCluster.Listing
import DevCluster.Routine

/-!
Stopping the environment: Tilt, then the kind cluster. Every step is tried, whatever comes of the
others, and the report says what came of each.
-/

namespace DevCluster.Shutdown

def orchestratorStop : Command := ⟨"tilt", ["down"]⟩

def orchestratorKill : Command := ⟨"pkill", ["-f", "tilt up"]⟩

def clusterDeletion (cluster : String) : Command :=
  ⟨"kind", ["delete", "cluster", "--name", cluster]⟩

def clusterListing : Command := ⟨"kind", ["get", "clusters"]⟩

def succeeds (command : Command) : Routine Bool := do
  match ← Routine.capture command with
  | .ok output => pure output.succeeded
  | .error fault => do
    Routine.note (.commandUnavailable fault)
    pure false

def stopOrchestrator : Routine OrchestratorStop := do
  Routine.say (.info "Stopping Tilt...")
  if ← succeeds orchestratorStop then
    Routine.say (.info "✅ Tilt stopped")
    pure .graceful
  else if ← succeeds orchestratorKill then
    Routine.say (.info "✅ Tilt stopped (via pkill)")
    pure .killed
  else
    Routine.say (.warn "No Tilt processes found (or already stopped)")
    pure .notRunning

/-- Whether the cluster is listed, however the listing ended. A listing that cannot be run lists
nothing. -/
def clusterListed (cluster : String) : Routine Bool := do
  match ← Routine.capture clusterListing with
  | .ok output => do
    if !output.succeeded then Routine.note (.listingFailed output)
    pure (Listing.lists output.stdout cluster)
  | .error fault => do
    Routine.note (.listingUnavailable fault)
    pure false

def deleteCluster (settings : Settings) : Routine ClusterCleanup := do
  Routine.say (.info "Stopping Kind cluster...")
  if ← succeeds (clusterDeletion settings.clusterName) then
    Routine.say (.info "✅ Kind cluster deleted")
    pure .deleted
  else if ← clusterListed settings.clusterName then
    Routine.say (.warn "Cluster deletion had issues, but continuing with cleanup")
    pure .incomplete
  else
    Routine.say (.info "Cluster already deleted or does not exist")
    pure .alreadyAbsent

def run (settings : Settings) : Routine StopReport := do
  Routine.say (.info "🛑 Stopping Lifeguard development environment...")
  let orchestrator ← stopOrchestrator
  let cluster ← deleteCluster settings
  let report : StopReport := { orchestrator, cluster }
  Routine.note (.stopFinished report)
  Routine.say (.info "✅ Development environment stopped and cleaned up")
  pure report

end DevCluster.Shutdown
