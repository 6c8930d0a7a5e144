import DevCluster.Routine

/-!
Starting the environment: the tools, the Docker daemon, the kind cluster, its context, then Tilt
until it ends or the operator interrupts.
-/

namespace DevCluster.Startup

/-- The tools that a start needs, in the order in which they are looked for. -/
def requiredTools : List String := ["docker", "kind", "kubectl", "tilt"]

def daemonCheck : Command := ⟨"docker", ["info"]⟩

def bootstrap (settings : Settings) : Command :=
  ⟨settings.bootstrapShell, [settings.bootstrapScript]⟩

def contextSwitch (settings : Settings) : Command :=
  ⟨"kubectl", ["config", "use-context", settings.kubeContext]⟩

def orchestrator : Command := ⟨"tilt", ["up"]⟩

def checkTool (tool : String) : Routine Unit := do
  match ← Routine.request (.locate tool) with
  | some path => Routine.note (.toolFound tool path)
  | none => Routine.fail (.ofKind (.missingTool tool))

/-- Fails for the first tool that is missing, before any command is run. -/
def checkTools : Routine Unit :=
  requiredTools.forM checkTool

def checkDaemon : Routine Unit := do
  Routine.say (.info "Checking Docker daemon...")
  match ← Routine.capture daemonCheck with
  | .ok output =>
    if output.succeeded then Routine.say (.info "✅ Docker daemon is running")
    else
      Routine.note (.daemonUnreachable output)
      Routine.fail (.ofKind .daemonUnavailable)
  | .error fault => Routine.fail (.ofRunFault .daemonUnavailable fault)

def bootstrapCluster (settings : Settings) : Routine Unit := do
  Routine.say (.info "Setting up Kind cluster...")
  match ← Routine.runAttached (bootstrap settings) with
  | .ok code =>
    if code = some 0 then Routine.note (.clusterReady settings.clusterName)
    else
      let detail := s!"{settings.bootstrapScript} exited with {describeExit code}"
      Routine.fail (.ofKind (.bootstrap detail))
  | .error fault =>
    let detail := s!"could not run {settings.bootstrapScript} with {settings.bootstrapShell}"
    Routine.fail (.ofRunFault (.bootstrap detail) fault)

/-- Whether the context could be switched. If not, Tilt runs in the one that is active. -/
def switchContext (settings : Settings) : Routine Bool := do
  Routine.say (.info "Setting kubeconfig context...")
  let switched ← match ← Routine.capture (contextSwitch settings) with
    | .ok output =>
      if output.succeeded then pure true
      else do
        Routine.note (.contextRefused output)
        pure false
    | .error fault => do
      Routine.note (.contextUnavailable fault)
      pure false
  if switched then Routine.say (.info s!"✅ Context set to {settings.kubeContext}")
  else
    Routine.say (.warn s!"⚠️  Could not set {settings.kubeContext} context, using current context")
  pure switched

def launchOrchestrator (settings : Settings) : Routine StartOutcome := do
  Routine.say (.info "🎯 Starting Tilt...")
  Routine.say (.detail s!"Tilt UI: {settings.orchestratorUrl}")
  Routine.say (.detail s!"PostgreSQL: {settings.databaseHint} (via Tilt port forward)")
  match ← Routine.runForeground orchestrator with
  | .ok outcome => pure outcome
  | .error fault => Routine.fail (.ofRunFault (.runtime "could not start tilt") fault)

def prepareCluster (settings : Settings) : Routine Unit := do
  checkDaemon
  bootstrapCluster settings
  let _ ← switchContext settings

def interruptLines : List Line := [
  .blank,
  .info "🛑 Shutting down gracefully...",
  .detail "Tilt has been stopped",
  .detail "Kind cluster is still running (use 'lifeguard-dev down' to stop it)",
  .blank,
  .info "✅ Shutdown complete"]

def reportOutcome (settings : Settings) : StartOutcome → Routine Unit
  | .interrupted => do
    Routine.note (.startInterrupted settings.clusterName)
    interruptLines.forM Routine.say
  | .exited code =>
    if code = some 0 then Routine.note .orchestratorDone
    else do
      Routine.note (.orchestratorFailed code)
      Routine.say (.warn s!"Tilt exited with status {describeExit code}")

/-- An interrupt before Tilt runs ends the start like one while it runs. -/
def run (settings : Settings) : Routine StartOutcome := do
  Routine.say (.info "🚀 Starting Lifeguard development environment (Kind)...")
  checkTools
  let outcome ← match ← (prepareCluster settings).untilInterrupted with
    | some _ => launchOrchestrator settings
    | none => pure .interrupted
  reportOutcome settings outcome
  pure outcome

end DevCluster.Startup
