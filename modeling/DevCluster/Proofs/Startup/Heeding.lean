import DevCluster.Proofs.Interrupt
import DevCluster.Proofs.Startup.Course

/-!
How a start deals with interrupts: its steps heed them, and it leaves none pending unless it fails
for a missing tool.
-/

namespace DevCluster.Startup

open Exchange Dialogue

variable {settings : Settings} {dialogue : Dialogue}

theorem ToolSearch.quiet {tools : List String} {result : Except Stop Unit}
    (search : ToolSearch tools dialogue result) : Quiet dialogue := by
  induction search with
  | complete => exact quiet_nil
  | missing => simp [asksCommand, taken?]
  | found _ ih => simp [asksCommand, taken?, ih]

theorem ToolSearch.unstopped {tools : List String} {result : Except Stop Unit}
    (search : ToolSearch tools dialogue result) : result ≠ .error .interrupted := by
  induction search with
  | complete => simp
  | missing => simp
  | found _ ih => exact ih

theorem ToolSearch.heeded {tools : List String} {result : Except Stop Unit}
    (search : ToolSearch tools dialogue result) : Heeded dialogue result :=
  .calm search.quiet.calm search.unstopped

theorem DaemonCheck.heeded {result : Except Stop Unit} (check : DaemonCheck dialogue result) :
    Heeded dialogue result := by
  cases check with
  | running success => exact .calm (by simp [isInterrupted, taken?, Answer.isInterrupted]) (by simp)
  | refused failure => exact .calm (by simp [isInterrupted, taken?, Answer.isInterrupted]) (by simp)
  | notRun => exact .calm (by simp [isInterrupted, taken?, Answer.isInterrupted]) (by simp)
  | interrupted => exact Heeded.interrupted_after (by simp)

theorem ClusterBootstrap.heeded {result : Except Stop Unit}
    (step : ClusterBootstrap settings dialogue result) : Heeded dialogue result := by
  cases step with
  | ready success => exact .calm (by simp [isInterrupted, taken?, Answer.isInterrupted]) (by simp)
  | refused failure => exact .calm (by simp [isInterrupted, taken?, Answer.isInterrupted]) (by simp)
  | notRun => exact .calm (by simp [isInterrupted, taken?, Answer.isInterrupted]) (by simp)
  | interrupted => exact Heeded.interrupted_after (by simp)

theorem ContextChoice.heeded {result : Except Stop Bool}
    (choice : ContextChoice settings dialogue result) : Heeded dialogue result := by
  cases choice with
  | switched success =>
      exact .calm (by simp [isInterrupted, taken?, Answer.isInterrupted]) (by simp)
  | refused failure => exact .calm (by simp [isInterrupted, taken?, Answer.isInterrupted]) (by simp)
  | notRun => exact .calm (by simp [isInterrupted, taken?, Answer.isInterrupted]) (by simp)
  | interrupted => exact Heeded.interrupted_after (by simp)

theorem reportDialogue_quiet (outcome : StartOutcome) :
    Quiet (reportDialogue settings outcome) := by
  cases outcome with
  | interrupted => simp [reportDialogue, interruptReport, asksCommand, taken?]
  | exited code =>
      simp only [reportDialogue]
      split <;> simp [asksCommand, taken?]

theorem Launch.pendingAfter {result : Except Stop StartOutcome}
    (launch : Launch settings dialogue result) (pending : Bool) :
    dialogue.pendingAfter pending = pending := by
  cases launch <;>
    simp [launchDialogue, Dialogue.pendingAfter, Exchange.pendingAfter, taken?, raises]

theorem Preparation.heeded {result : Except Stop Unit}
    (preparation : Preparation settings dialogue result) : Heeded dialogue result := by
  cases preparation with
  | daemonStops check => exact check.heeded
  | bootstrapStops check step => exact .append (check.heeded.calm_of_ne (by simp)) step.heeded
  | choiceStops check step choice =>
      have quiet := check.heeded.calm_of_ne (by simp)
      exact .append quiet (.append (step.heeded.calm_of_ne (by simp)) choice.heeded.error)
  | complete check step choice =>
      have quiet := check.heeded.calm_of_ne (by simp)
      have others := step.heeded.calm_of_ne (by simp)
      have last := choice.heeded.calm_of_ne (by simp)
      exact .calm (calm_append.mpr ⟨quiet, calm_append.mpr ⟨others, last⟩⟩) (by simp)

/-- A start deals with every interrupt itself. -/
theorem Course.unstopped {result : Except Stop StartOutcome}
    (course : Course settings dialogue result) : result ≠ .error .interrupted := by
  cases course with
  | toolMissing searched =>
      have unstopped := searched.unstopped
      simpa using unstopped
  | launchFailed _ _ launch => cases launch; simp
  | _ => simp

end DevCluster.Startup
