import DevCluster.Proofs.Dialogue
import DevCluster.Startup

/-!
The courses that a start can take, step by step and as a whole, each with its dialogue and its end.
-/

namespace DevCluster.Startup

open Exchange Routine

inductive ToolSearch : List String → Dialogue → Except Stop Unit → Prop
  | complete : ToolSearch [] [] (.ok ())
  | missing {tool others} :
      ToolSearch (tool :: others) [located tool none]
        (.error (.failed (.ofKind (.missingTool tool))))
  | found {tool path others dialogue result} : ToolSearch others dialogue result →
      ToolSearch (tool :: others)
        (located tool (some path) :: noted (.toolFound tool path) :: dialogue) result

inductive DaemonCheck : Dialogue → Except Stop Unit → Prop
  | running {output : Output} : output.code = some 0 →
      DaemonCheck [said (.info "Checking Docker daemon..."),
        ran .capture daemonCheck (.ended output), said (.info "✅ Docker daemon is running")]
        (.ok ())
  | refused {output : Output} : output.code ≠ some 0 →
      DaemonCheck [said (.info "Checking Docker daemon..."),
        ran .capture daemonCheck (.ended output), noted (.daemonUnreachable output)]
        (.error (.failed (.ofKind .daemonUnavailable)))
  | notRun {fault} :
      DaemonCheck [said (.info "Checking Docker daemon..."),
        ran .capture daemonCheck (.failed fault)]
        (.error (.failed (.ofRunFault .daemonUnavailable fault)))
  | interrupted :
      DaemonCheck [said (.info "Checking Docker daemon..."), ran .capture daemonCheck .interrupted]
        (.error .interrupted)

inductive ClusterBootstrap (settings : Settings) : Dialogue → Except Stop Unit → Prop
  | ready {output : Output} : output.code = some 0 →
      ClusterBootstrap settings [said (.info "Setting up Kind cluster..."),
        ran .attached (bootstrap settings) (.ended output),
        noted (.clusterReady settings.clusterName)] (.ok ())
  | refused {output : Output} : output.code ≠ some 0 →
      ClusterBootstrap settings [said (.info "Setting up Kind cluster..."),
        ran .attached (bootstrap settings) (.ended output)]
        (.error (.failed (.ofKind (.bootstrap
          s!"{settings.bootstrapScript} exited with {describeExit output.code}"))))
  | notRun {fault} :
      ClusterBootstrap settings [said (.info "Setting up Kind cluster..."),
        ran .attached (bootstrap settings) (.failed fault)]
        (.error (.failed (.ofRunFault (.bootstrap
          s!"could not run {settings.bootstrapScript} with {settings.bootstrapShell}") fault)))
  | interrupted :
      ClusterBootstrap settings [said (.info "Setting up Kind cluster..."),
        ran .attached (bootstrap settings) .interrupted] (.error .interrupted)

def contextWarning (settings : Settings) : Line :=
  .warn s!"⚠️  Could not set {settings.kubeContext} context, using current context"

inductive ContextChoice (settings : Settings) : Dialogue → Except Stop Bool → Prop
  | switched {output : Output} : output.code = some 0 →
      ContextChoice settings [said (.info "Setting kubeconfig context..."),
        ran .capture (contextSwitch settings) (.ended output),
        said (.info s!"✅ Context set to {settings.kubeContext}")] (.ok true)
  | refused {output : Output} : output.code ≠ some 0 →
      ContextChoice settings [said (.info "Setting kubeconfig context..."),
        ran .capture (contextSwitch settings) (.ended output), noted (.contextRefused output),
        said (contextWarning settings)] (.ok false)
  | notRun {fault} :
      ContextChoice settings [said (.info "Setting kubeconfig context..."),
        ran .capture (contextSwitch settings) (.failed fault), noted (.contextUnavailable fault),
        said (contextWarning settings)] (.ok false)
  | interrupted :
      ContextChoice settings [said (.info "Setting kubeconfig context..."),
        ran .capture (contextSwitch settings) .interrupted] (.error .interrupted)

def launchDialogue (settings : Settings) (answer : Answer) : Dialogue :=
  [said (.info "🎯 Starting Tilt..."), said (.detail s!"Tilt UI: {settings.orchestratorUrl}"),
    said (.detail s!"PostgreSQL: {settings.databaseHint} (via Tilt port forward)"),
    ran .foreground orchestrator answer]

inductive Launch (settings : Settings) : Dialogue → Except Stop StartOutcome → Prop
  | exited {output : Output} :
      Launch settings (launchDialogue settings (.ended output)) (.ok (.exited output.code))
  | interrupted : Launch settings (launchDialogue settings .interrupted) (.ok .interrupted)
  | notRun {fault} :
      Launch settings (launchDialogue settings (.failed fault))
        (.error (.failed (.ofRunFault (.runtime "could not start tilt") fault)))

inductive Preparation (settings : Settings) : Dialogue → Except Stop Unit → Prop
  | daemonStops {daemon why} : DaemonCheck daemon (.error why) →
      Preparation settings daemon (.error why)
  | bootstrapStops {daemon cluster why} : DaemonCheck daemon (.ok ()) →
      ClusterBootstrap settings cluster (.error why) →
      Preparation settings (daemon ++ cluster) (.error why)
  | choiceStops {daemon cluster context why} : DaemonCheck daemon (.ok ()) →
      ClusterBootstrap settings cluster (.ok ()) → ContextChoice settings context (.error why) →
      Preparation settings (daemon ++ (cluster ++ context)) (.error why)
  | complete {daemon cluster context switched} : DaemonCheck daemon (.ok ()) →
      ClusterBootstrap settings cluster (.ok ()) → ContextChoice settings context (.ok switched) →
      Preparation settings (daemon ++ (cluster ++ context)) (.ok ())

/-- What a start tells of an interrupt, line by line. -/
def interruptReport : List Line := [
  .blank,
  .info "🛑 Shutting down gracefully...",
  .detail "Tilt has been stopped",
  .detail "Kind cluster is still running (use 'lifeguard-dev down' to stop it)",
  .blank,
  .info "✅ Shutdown complete"]

def reportDialogue (settings : Settings) : StartOutcome → Dialogue
  | .interrupted => noted (.startInterrupted settings.clusterName) :: interruptReport.map said
  | .exited code =>
    if code = some 0 then [noted .orchestratorDone]
    else [noted (.orchestratorFailed code),
      said (.warn s!"Tilt exited with status {describeExit code}")]

def welcome : Line := .info "🚀 Starting Lifeguard development environment (Kind)..."

/-- A start either ends with the search for the tools, or takes a pending interrupt, or prepares
the cluster and launches Tilt as far as nothing stops it. -/
inductive Course (settings : Settings) : Dialogue → Except Stop StartOutcome → Prop
  | toolMissing {search why} : ToolSearch requiredTools search (.error why) →
      Course settings (said welcome :: search) (.error why)
  | alreadyInterrupted {search} : ToolSearch requiredTools search (.ok ()) →
      Course settings
        (said welcome :: (search ++ taken true :: reportDialogue settings .interrupted))
        (.ok .interrupted)
  | preparationFailed {search preparation failure} : ToolSearch requiredTools search (.ok ()) →
      Preparation settings preparation (.error (.failed failure)) →
      Course settings (said welcome :: (search ++ taken false :: preparation))
        (.error (.failed failure))
  | preparationInterrupted {search preparation pending} :
      ToolSearch requiredTools search (.ok ()) →
      Preparation settings preparation (.error .interrupted) →
      Course settings (said welcome :: (search ++ taken false ::
        (preparation ++ taken pending :: reportDialogue settings .interrupted))) (.ok .interrupted)
  | launchFailed {search preparation launch why} : ToolSearch requiredTools search (.ok ()) →
      Preparation settings preparation (.ok ()) → Launch settings launch (.error why) →
      Course settings (said welcome :: (search ++ taken false :: (preparation ++ launch)))
        (.error why)
  | launched {search preparation launch outcome} : ToolSearch requiredTools search (.ok ()) →
      Preparation settings preparation (.ok ()) → Launch settings launch (.ok outcome) →
      Course settings (said welcome :: (search ++ taken false ::
        (preparation ++ (launch ++ reportDialogue settings outcome)))) (.ok outcome)

variable {settings : Settings} {dialogue : Dialogue}

theorem toolSearch_of_ends {tools : List String} {result : Except Stop Unit}
    (ends : (tools.forM checkTool).Ends dialogue result) : ToolSearch tools dialogue result := by
  induction tools generalizing dialogue with
  | nil =>
      obtain ⟨rfl, rfl⟩ := ends
      exact .complete
  | cons tool others ih =>
      rcases ends_bind.mp ends with ⟨why, rfl, checked⟩ | ⟨_, first, rest, rfl, checked, searched⟩
      · obtain ⟨path, rest, rfl, located⟩ := ends_request_bind.mp checked
        cases path with
        | none =>
            obtain ⟨rfl, same⟩ := ends_fail.mp located
            cases same
            exact .missing
        | some path =>
            obtain ⟨_, impossible⟩ := ends_note.mp located
            cases impossible
      · obtain ⟨path, rest, rfl, located⟩ := ends_request_bind.mp checked
        cases path with
        | none =>
            obtain ⟨_, impossible⟩ := ends_fail.mp located
            cases impossible
        | some path =>
            obtain ⟨rfl, _⟩ := ends_note.mp located
            exact .found (ih searched)

theorem daemonCheck_of_ends {result : Except Stop Unit} (ends : checkDaemon.Ends dialogue result) :
    DaemonCheck dialogue result := by
  simp only [checkDaemon, ends_say_bind, ends_capture_bind] at ends
  obtain ⟨_, rfl, ⟨output, _, rfl, last⟩ | ⟨fault, _, rfl, last⟩ | ⟨rfl, rfl⟩⟩ := ends
  · by_cases success : output.code = some 0
    · simp only [Output.succeeded, success, decide_true, ↓reduceIte, ends_say] at last
      obtain ⟨rfl, rfl⟩ := last
      exact .running success
    · simp only [Output.succeeded, success, decide_false, Bool.false_eq_true, ↓reduceIte,
        ends_note_bind, ends_fail] at last
      obtain ⟨_, rfl, rfl, rfl⟩ := last
      exact .refused success
  · obtain ⟨rfl, rfl⟩ := last
    exact .notRun
  · exact .interrupted

theorem clusterBootstrap_of_ends {result : Except Stop Unit}
    (ends : (bootstrapCluster settings).Ends dialogue result) :
    ClusterBootstrap settings dialogue result := by
  simp only [bootstrapCluster, ends_say_bind, ends_runAttached_bind] at ends
  obtain ⟨_, rfl, ⟨output, _, rfl, last⟩ | ⟨fault, _, rfl, last⟩ | ⟨rfl, rfl⟩⟩ := ends
  · by_cases success : output.code = some 0
    · simp only [success, ↓reduceIte, ends_note] at last
      obtain ⟨rfl, rfl⟩ := last
      exact .ready success
    · simp only [success, ↓reduceIte, ends_fail] at last
      obtain ⟨rfl, rfl⟩ := last
      exact .refused success
  · obtain ⟨rfl, rfl⟩ := last
    exact .notRun
  · exact .interrupted

theorem contextChoice_of_ends {result : Except Stop Bool}
    (ends : (switchContext settings).Ends dialogue result) :
    ContextChoice settings dialogue result := by
  simp only [switchContext, ends_say_bind, ends_capture_bind] at ends
  obtain ⟨_, rfl, ⟨output, _, rfl, last⟩ | ⟨fault, _, rfl, last⟩ | ⟨rfl, rfl⟩⟩ := ends
  · by_cases success : output.code = some 0
    · simp only [Output.succeeded, success, decide_true, ↓reduceIte, ends_pure_bind, ends_say_bind,
        ends_pure] at last
      obtain ⟨_, rfl, rfl, rfl⟩ := last
      exact .switched success
    · simp only [Output.succeeded, success, decide_false, Bool.false_eq_true, ↓reduceIte,
        ends_note_bind, ends_pure_bind, ends_say_bind, ends_pure] at last
      obtain ⟨_, rfl, _, rfl, rfl, rfl⟩ := last
      exact .refused success
  · simp only [Bool.false_eq_true, ↓reduceIte, ends_note_bind, ends_pure_bind, ends_say_bind,
      ends_pure] at last
    obtain ⟨_, rfl, _, rfl, rfl, rfl⟩ := last
    exact .notRun
  · exact .interrupted

theorem launch_of_ends {result : Except Stop StartOutcome}
    (ends : (launchOrchestrator settings).Ends dialogue result) :
    Launch settings dialogue result := by
  simp only [launchOrchestrator, ends_say_bind, ends_runForeground_bind, ends_pure, ends_fail]
    at ends
  obtain ⟨_, rfl, _, rfl, _, rfl, answered⟩ := ends
  rcases answered with ⟨output, _, rfl, rfl, rfl⟩ | ⟨fault, _, rfl, rfl, rfl⟩ | ⟨_, rfl, rfl, rfl⟩
  · exact .exited
  · exact .notRun
  · exact .interrupted

theorem preparation_of_ends {result : Except Stop Unit}
    (ends : (prepareCluster settings).Ends dialogue result) :
    Preparation settings dialogue result := by
  rw [prepareCluster] at ends
  rcases ends_bind.mp ends with ⟨why, rfl, checked⟩ | ⟨_, daemon, _, rfl, checked, others⟩
  · exact .daemonStops (daemonCheck_of_ends checked)
  have running := daemonCheck_of_ends checked
  rcases ends_bind.mp others with ⟨why, rfl, booted⟩ | ⟨_, cluster, _, rfl, booted, last⟩
  · exact .bootstrapStops running (clusterBootstrap_of_ends booted)
  have ready := clusterBootstrap_of_ends booted
  rcases ends_bind.mp last with ⟨why, rfl, chosen⟩ | ⟨switched, context, _, rfl, chosen, rfl, rfl⟩
  · exact .choiceStops running ready (contextChoice_of_ends chosen)
  · rw [List.append_nil]
    exact .complete running ready (contextChoice_of_ends chosen)

theorem reportOutcome_ends {outcome : StartOutcome} {result : Except Stop Unit}
    (ends : (reportOutcome settings outcome).Ends dialogue result) :
    dialogue = reportDialogue settings outcome ∧ result = .ok () := by
  cases outcome with
  | interrupted =>
      obtain ⟨_, rfl, told⟩ := ends_note_bind.mp ends
      obtain ⟨rfl, rfl⟩ := ends_say_all.mp told
      exact ⟨rfl, rfl⟩
  | exited code =>
      simp only [reportOutcome] at ends
      by_cases success : code = some 0
      · simpa [success, reportDialogue] using ends
      · simp only [success, ↓reduceIte, ends_note_bind, ends_say] at ends
        obtain ⟨_, rfl, rfl, rfl⟩ := ends
        simp [reportDialogue, success]

theorem reported_ends {outcome : StartOutcome} {result : Except Stop StartOutcome}
    (ends : (reportOutcome settings outcome >>= fun _ => pure outcome).Ends dialogue result) :
    dialogue = reportDialogue settings outcome ∧ result = .ok outcome := by
  rcases ends_bind.mp ends with ⟨why, _, told⟩ | ⟨_, _, _, rfl, told, rfl, rfl⟩
  · cases (reportOutcome_ends told).2
  · exact ⟨by rw [(reportOutcome_ends told).1, List.append_nil], rfl⟩

/-- Every run of a start takes one of its courses. -/
theorem course_of_ends {result : Except Stop StartOutcome}
    (ends : (run settings).Ends dialogue result) : Course settings dialogue result := by
  obtain ⟨_, rfl, started⟩ := ends_say_bind.mp ends
  rcases ends_bind.mp started with ⟨why, rfl, looked⟩ | ⟨_, search, _, rfl, looked, others⟩
  · exact .toolMissing (toolSearch_of_ends looked)
  have searched := toolSearch_of_ends looked
  rcases ends_bind.mp others with ⟨why, rfl, waited⟩ | ⟨prepared, first, last, rfl, waited, next⟩
  · rcases ends_untilInterrupted.mp waited with ⟨_, impossible⟩ | ⟨preparation, rfl, caught⟩
    · cases impossible
    rcases ends_catchInterrupt.mp caught with ⟨_, _, impossible⟩ | ⟨failure, failed, same⟩ |
      ⟨_, _, _, _, impossible⟩
    · cases impossible
    · cases same
      exact .preparationFailed searched (preparation_of_ends failed)
    · cases impossible
  rcases ends_untilInterrupted.mp waited with ⟨rfl, same⟩ | ⟨preparation, rfl, caught⟩
  · cases same
    obtain ⟨rfl, rfl⟩ := reported_ends next
    exact .alreadyInterrupted searched
  rcases ends_catchInterrupt.mp caught with ⟨_, complete, same⟩ | ⟨_, _, impossible⟩ |
    ⟨own, pending, rfl, stopped, same⟩
  · cases same
    have ready := preparation_of_ends complete
    rcases ends_bind.mp next with ⟨why, rfl, ran⟩ | ⟨outcome, launch, report, rfl, ran, told⟩
    · exact .launchFailed searched ready (launch_of_ends ran)
    · obtain ⟨rfl, rfl⟩ := reported_ends told
      exact .launched searched ready (launch_of_ends ran)
  · cases impossible
  · cases same
    obtain ⟨rfl, rfl⟩ := reported_ends next
    simp only [List.cons_append, List.append_assoc, List.nil_append]
    exact .preparationInterrupted searched (preparation_of_ends stopped)

end DevCluster.Startup
