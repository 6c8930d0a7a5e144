import DevCluster.Proofs.Runner.Coupling

/-!
What steps observe of a runner: of a command whose output is kept nothing but whether it succeeded,
and of one listing its text. Two runners that differ in nothing else are asked the same, tell the
operator the same, and come to the same results but for the cause of an unavailable daemon.
-/

namespace DevCluster

open Routine

namespace Routine

variable {α β : Type}

/-- The routine makes no requests but notes, and ends so. -/
inductive Comes {α : Type} : Routine α → Except Stop α → Prop
  | done (value : α) : Comes (.done value) (.ok value)
  | stopped (why : Stop) : Comes (.stopped why) (.error why)
  | noted {event next result} : Comes (next ()) result → Comes (.ask (.note event) next) result

theorem coupled_of_comes {same : α → α → Prop} {routine other : Routine α}
    {result ending : Except Stop α} (first : Comes routine result) (second : Comes other ending)
    (alike : EndsAlike same result ending) : Coupled same routine other := by
  induction first with
  | noted _ ih => exact .noted (ih alike)
  | done value =>
      induction second with
      | noted _ ih => exact .alsoNoted (ih alike)
      | done other =>
          cases alike with
          | ok agree => exact .done agree
      | stopped why => cases alike
  | stopped why =>
      induction second with
      | noted _ ih => exact .alsoNoted (ih alike)
      | done other => cases alike
      | stopped other =>
          cases alike with
          | error agree => exact .stopped agree

/-- Of a reply only that is read which is the same of both. -/
theorem Coupled.reading {γ : Type} {read : α → γ} {next : α → Routine γ} {first second : Routine α}
    (coupled : Coupled (fun reply other => read reply = read other) first second)
    (comes : ∀ reply, Comes (next reply) (.ok (read reply))) :
    Coupled Eq (first >>= next) (second >>= next) :=
  coupled.bind fun reply other agree =>
    coupled_of_comes (comes reply) (comes other) (.ok agree)

theorem blind_forM {items : List β} {each : β → Routine Unit} (blind : ∀ item, (each item).Blind) :
    (items.forM each).Blind := by
  induction items with
  | nil => exact blind_pure ()
  | cons item items ih => exact (blind item).bind fun _ => ih

theorem capture_eq (command : Command) :
    capture command = ask (.run .capture command) (Answer.elim done (stopped .interrupted)) :=
  congrArg (ask _) (funext fun answer => by cases answer <;> rfl)

theorem runAttached_eq (command : Command) :
    runAttached command = ask (.run .attached command)
      (Answer.elim (fun reply => done (reply.map Output.code)) (stopped .interrupted)) :=
  congrArg (ask _) (funext fun answer => by cases answer <;> rfl)

theorem runForeground_eq (command : Command) :
    runForeground command = ask (.run .foreground command)
      (Answer.elim (fun reply => done ((reply.map Output.code).map .exited))
        (done (.ok .interrupted))) :=
  congrArg (ask _) (funext fun answer => by cases answer <;> rfl)

theorem coupled_capture {command : Command} (plain : command ≠ Shutdown.clusterListing) :
    Coupled (fun reply other => Sight.succeeded reply = Sight.succeeded other)
      (capture command) (capture command) := by
  rw [capture_eq]
  refine coupled_run (.stopped .interrupted) fun reply other seen => .done ?_
  simpa [Sight.ofReply, plain] using seen

theorem coupled_listing (cluster : String) :
    Coupled (fun reply other => Listing.lists (Sight.text reply) cluster =
        Listing.lists (Sight.text other) cluster)
      (capture Shutdown.clusterListing) (capture Shutdown.clusterListing) := by
  rw [capture_eq]
  refine coupled_run (.stopped .interrupted) fun reply other seen => .done ?_
  have text : Sight.text reply = Sight.text other := by
    simpa [Sight.ofReply] using seen
  rw [text]

theorem blind_runAttached (command : Command) : (runAttached command).Blind := by
  rw [runAttached_eq]
  refine coupled_run (.stopped .interrupted) fun reply other seen => .done ?_
  simpa [Sight.ofReply] using seen

theorem blind_runForeground (command : Command) : (runForeground command).Blind := by
  rw [runForeground_eq]
  refine coupled_run (.done rfl) fun reply other seen => .done ?_
  have codes : reply.map Output.code = other.map Output.code := by
    simpa [Sight.ofReply] using seen
  rw [codes]

end Routine

namespace Startup

variable {settings : Settings}

theorem blind_checkTool (tool : String) : (checkTool tool).Blind := by
  refine .asked fun path other alike => ?_
  have found : Option.isSome path = Option.isSome other := alike
  cases path with
  | none =>
      cases other with
      | none => exact blind_fail _
      | some another => cases found
  | some path =>
      cases other with
      | none => cases found
      | some another => exact .noted (.alsoNoted (.done rfl))

theorem blind_checkTools : checkTools.Blind := blind_forM blind_checkTool

/-- A daemon that is checked is told to be running exactly if the check succeeded. -/
theorem blind_checkDaemon : checkDaemon.Blind := by
  have checking : daemonCheck ≠ Shutdown.clusterListing := by
    simp [daemonCheck, Shutdown.clusterListing]
  refine (blind_say _).bind fun _ => (coupled_capture checking).bind fun reply other alike => ?_
  -- The failure keeps what the command reported as its cause, so the failures are alike, not equal.
  cases reply with
  | ok output =>
      cases other with
      | ok another =>
          have same : output.succeeded = another.succeeded := alike
          simp only [same]
          cases another.succeeded with
          | true => exact blind_say _
          | false => exact .noted (.alsoNoted (blind_fail _))
      | error fault =>
          have failed : output.succeeded = false := alike
          simp only [failed]
          exact .noted (.stopped (.failed (.daemon rfl rfl rfl rfl rfl rfl)))
  | error fault =>
      cases other with
      | ok another =>
          have failed : another.succeeded = false := alike.symm
          simp only [failed]
          exact .alsoNoted (.stopped (.failed (.daemon rfl rfl rfl rfl rfl rfl)))
      | error another => exact .stopped (.failed (.daemon rfl rfl rfl rfl rfl rfl))

theorem blind_bootstrapCluster : (bootstrapCluster settings).Blind := by
  refine (blind_say _).bind fun _ => (blind_runAttached _).bind fun reply => ?_
  cases reply with
  | error fault => exact blind_fail _
  | ok code =>
      by_cases success : code = some 0
      · simpa [success] using blind_note _
      · simpa [success] using blind_fail _

def choice : Except RunFault Output → Routine Bool
  | .ok output =>
    if output.succeeded then pure true
    else do
      note (.contextRefused output)
      pure false
  | .error fault => do
    note (.contextUnavailable fault)
    pure false

theorem choice_comes (reply : Except RunFault Output) :
    Comes (choice reply) (.ok (Sight.succeeded reply)) := by
  cases reply with
  | error fault => exact .noted (.done false)
  | ok output =>
      have seen : Sight.succeeded (.ok output) = output.succeeded := rfl
      rw [choice, seen]
      cases output.succeeded with
      | true => exact .done true
      | false => exact .noted (.done false)

theorem switchContext_eq : switchContext settings = (do
    say (.info "Setting kubeconfig context...")
    let switched ← capture (contextSwitch settings) >>= choice
    if switched then say (.info s!"✅ Context set to {settings.kubeContext}")
    else
      say (.warn s!"⚠️  Could not set {settings.kubeContext} context, using current context")
    pure switched) := by
  refine congrArg (Routine.bind (say _)) (funext fun _ => ?_)
  rw [bind_eq, bind_eq, bind_eq, bind_assoc]
  refine congrArg (Routine.bind (capture _)) (funext fun reply => ?_)
  cases reply with
  | error fault => rfl
  | ok output =>
      simp only [choice]
      cases output.succeeded with
      | true => rfl
      | false => rfl

theorem blind_switchContext : (switchContext settings).Blind := by
  have choosing : contextSwitch settings ≠ Shutdown.clusterListing := by
    simp [contextSwitch, Shutdown.clusterListing]
  rw [switchContext_eq]
  refine (blind_say _).bind fun _ => ?_
  refine Blind.bind ((coupled_capture choosing).reading choice_comes) fun switched => ?_
  cases switched with
  | true => exact (blind_say _).bind fun _ => blind_pure _
  | false => exact (blind_say _).bind fun _ => blind_pure _

theorem blind_launchOrchestrator : (launchOrchestrator settings).Blind := by
  refine (blind_say _).bind fun _ => (blind_say _).bind fun _ => (blind_say _).bind fun _ => ?_
  refine (blind_runForeground _).bind fun reply => ?_
  cases reply with
  | error fault => exact blind_fail _
  | ok outcome => exact blind_pure outcome

theorem blind_prepareCluster : (prepareCluster settings).Blind := by
  refine blind_checkDaemon.bind fun _ => blind_bootstrapCluster.bind fun _ => ?_
  exact blind_switchContext.bind fun _ => blind_pure ()

theorem blind_reportOutcome (outcome : StartOutcome) : (reportOutcome settings outcome).Blind := by
  cases outcome with
  | interrupted => exact (blind_note _).bind fun _ => blind_forM blind_say
  | exited code =>
      simp only [reportOutcome]
      by_cases success : code = some 0
      · rw [if_pos success]
        exact blind_note _
      · rw [if_neg success]
        exact (blind_note _).bind fun _ => blind_say _

theorem blind_run : (run settings).Blind := by
  refine (blind_say _).bind fun _ => blind_checkTools.bind fun _ => ?_
  refine blind_prepareCluster.untilInterrupted.bind fun prepared => ?_
  have reports (outcome : StartOutcome) :
      Blind (do reportOutcome settings outcome; pure outcome) :=
    (blind_reportOutcome outcome).bind fun _ => blind_pure outcome
  cases prepared with
  | none => exact reports .interrupted
  | some _ => exact blind_launchOrchestrator.bind reports

end Startup

namespace Shutdown

variable {settings : Settings}

theorem blind_succeeds {command : Command} (plain : command ≠ clusterListing) :
    (succeeds command).Blind := by
  refine (coupled_capture plain).reading fun reply => ?_
  cases reply with
  | ok output => exact .done _
  | error fault => exact .noted (.done false)

theorem blind_clusterListed (cluster : String) : (clusterListed cluster).Blind := by
  refine (coupled_listing cluster).reading fun reply => ?_
  cases reply with
  | error fault => exact .noted (.done false)
  | ok output =>
      simp only
      cases output.succeeded with
      | true => exact .done _
      | false => exact .noted (.done _)

theorem blind_stopOrchestrator : stopOrchestrator.Blind := by
  have stop : orchestratorStop ≠ clusterListing := by simp [orchestratorStop, clusterListing]
  have kill : orchestratorKill ≠ clusterListing := by simp [orchestratorKill, clusterListing]
  refine (blind_say _).bind fun _ => (blind_succeeds stop).bind fun stopped => ?_
  cases stopped with
  | true => exact (blind_say _).bind fun _ => blind_pure _
  | false =>
      refine (blind_succeeds kill).bind fun killed => ?_
      cases killed with
      | true => exact (blind_say _).bind fun _ => blind_pure _
      | false => exact (blind_say _).bind fun _ => blind_pure _

theorem blind_deleteCluster : (deleteCluster settings).Blind := by
  have deletion : clusterDeletion settings.clusterName ≠ clusterListing := by
    simp [clusterDeletion, clusterListing]
  refine (blind_say _).bind fun _ => (blind_succeeds deletion).bind fun deleted => ?_
  cases deleted with
  | true => exact (blind_say _).bind fun _ => blind_pure _
  | false =>
      refine (blind_clusterListed _).bind fun listed => ?_
      cases listed with
      | true => exact (blind_say _).bind fun _ => blind_pure _
      | false => exact (blind_say _).bind fun _ => blind_pure _

theorem blind_run : (run settings).Blind := by
  refine (blind_say _).bind fun _ => blind_stopOrchestrator.bind fun orchestrator => ?_
  refine blind_deleteCluster.bind fun cluster => (blind_note _).bind fun _ => ?_
  exact (blind_say _).bind fun _ => blind_pure _

end Shutdown

theorem blind_writeCompletions (shell : String) : (writeCompletions shell).Blind := by
  unfold writeCompletions
  split
  · exact (blind_request fun _ _ _ => rfl).bind fun _ => blind_note _
  · exact blind_fail _

theorem Action.blind_perform (settings : Settings) (action : Action) :
    (action.perform settings).Blind := by
  have routine : (action.routine settings).Blind := by
    cases action with
    | up => exact (Startup.blind_run.bind fun outcome => blind_note (.startEnded outcome)).within
    | down => exact (Shutdown.blind_run.bind fun report => blind_note (.stopReported report)).within
    | completions shell => exact (blind_writeCompletions shell).within
  -- What is noted of the outcome is only whether it was a success.
  refine Coupled.bind routine.attempt fun outcome other alike => ?_
  have same : outcome.isOk = other.isOk := by
    cases alike <;> rfl
  rw [same]
  exact Coupled.bind (blind_note _) fun _ _ _ => coupled_ofExcept alike

namespace Step

variable {settings : Settings} {step : Step} {routine : Routine StepResult}

theorem blind_abandonable (blind : routine.Blind) : (abandonable routine).Blind :=
  blind.untilInterrupted.bind fun _ => blind_pure _

theorem blind_routine (plays : step.routine? settings = some routine) : routine.Blind := by
  have nothing {inner : Routine Unit} (blind : inner.Blind) :
      Blind (do inner; pure StepResult.nothing) :=
    blind.bind fun _ => blind_pure _
  cases step with
  | configure document environment => cases plays
  | missing tools => cases plays
  | script commandLine replies => cases plays
  | interrupt => cases plays
  | up =>
      cases plays
      exact Startup.blind_run.map
  | dispatch action =>
      have performs := nothing (Action.blind_perform settings action)
      cases action with
      | up => cases plays; exact performs
      | down => cases plays; exact blind_abandonable performs
      | completions shell => cases plays; exact blind_abandonable performs
  | down =>
      cases plays
      exact blind_abandonable Shutdown.blind_run.map
  | checkTools =>
      cases plays
      exact blind_abandonable (nothing Startup.blind_checkTools)
  | checkDaemon =>
      cases plays
      exact blind_abandonable (nothing Startup.blind_checkDaemon)
  | bootstrapCluster =>
      cases plays
      exact blind_abandonable (nothing Startup.blind_bootstrapCluster)
  | switchContext =>
      cases plays
      exact blind_abandonable Startup.blind_switchContext.map
  | launchOrchestrator =>
      cases plays
      exact blind_abandonable Startup.blind_launchOrchestrator.map
  | stopOrchestrator =>
      cases plays
      exact blind_abandonable Shutdown.blind_stopOrchestrator.map
  | deleteCluster =>
      cases plays
      exact blind_abandonable Shutdown.blind_deleteCluster.map

end Step

inductive StepResult.Alike : StepResult → StepResult → Prop
  | same (result : StepResult) : Alike result result
  | failed {first second : Failure} : first.Alike second → Alike (.failed first) (.failed second)

theorem StepResult.ofRun_alike {result other : Except Stop StepResult}
    (alike : EndsAlike Eq result other) : (ofRun result).Alike (ofRun other) := by
  cases alike with
  | ok same =>
      subst same
      exact .same _
  | error alike =>
      cases alike with
      | interrupted => exact .same _
      | failed alike => exact .failed alike

namespace Runner

variable {first second : Runner}

theorem play_alike (settings : Settings) (pending : Bool) (steps : List Step)
    (alike : first.Alike second) :
    List.Forall₂ (fun one other => one.1.Alike other.1 ∧ one.2.requests = other.2.requests)
      (first.play settings pending steps) (second.play settings pending steps) := by
  induction steps generalizing first second pending with
  | nil => exact .nil
  | cons step steps ih =>
      cases plays : step.routine? settings with
      | none =>
          simp only [play, plays]
          exact ih pending alike
      | some routine =>
          have states : State.Alike ⟨first, pending, []⟩ ⟨second, pending, []⟩ :=
            ⟨alike, rfl, rfl⟩
          obtain ⟨results, after⟩ := run_alike (Step.blind_routine plays) states
          simp only [play, plays]
          refine .cons ⟨StepResult.ofRun_alike results, after.requests⟩ ?_
          rw [after.pending]
          exact ih _ after.runner

/-- Two runners that find the same tools, and whose answers differ in nothing that is observed of
them, are asked the same by any steps, which tell the operator the same and come to the same results
but for the cause of an unavailable daemon. The steps of a session are taken with such a runner. -/
theorem play_indistinguishable (settings : Settings) (pending : Bool) (steps : List Step)
    (alike : first.Alike second) :
    List.Forall₂ (fun one other => one.1.Alike other.1 ∧ one.2.requests = other.2.requests)
        (first.play settings pending steps) (second.play settings pending steps) ∧
      ∀ session : Session, (∀ step ∈ steps, (step.routine? session.settings).isSome) →
        session.play steps =
          session.runner.play session.settings session.interruptPending steps :=
  ⟨play_alike settings pending steps alike, fun _ run => (Session.play_runner run).symm⟩

theorem play_refused_or_missing :
    let refused : Runner := {
      locate := fun _ => some "/usr/bin/env"
      answer := fun _ mode _ => .ended { code := some (if mode = .capture then 1 else 0) } }
    let missing : Runner := {
      locate := fun tool => some s!"/opt/{tool}"
      answer := fun _ mode command =>
        if mode = .capture then .failed ⟨.start, command.program, "not found"⟩
        else .ended { code := some 0, stderr := "done" } }
    let steps : List Step := [.up, .down, .launchOrchestrator]
    refused.Alike missing ∧
      (refused.play Settings.defaults false steps).map Prod.fst = [
        .failed (.ofKind .daemonUnavailable),
        .stopped { orchestrator := .notRunning, cluster := .alreadyAbsent },
        .started (.exited (some 0))] ∧
      (missing.play Settings.defaults false steps).map Prod.fst = [
        .failed (.ofRunFault .daemonUnavailable ⟨.start, "docker", "not found"⟩),
        .stopped { orchestrator := .notRunning, cluster := .alreadyAbsent },
        .started (.exited (some 0))] ∧
      (refused.play Settings.defaults false steps).map (·.2.requests) =
        (missing.play Settings.defaults false steps).map (·.2.requests) := by
  intro refused missing steps
  have alike : refused.Alike missing := by
    refine ⟨fun tool => rfl, fun earlier mode command => ?_⟩
    by_cases capture : mode = .capture
    · by_cases listing : command = Shutdown.clusterListing
      · simp [refused, missing, Answer.observed, Answer.elim, Sight.ofReply, Sight.text, capture,
          listing]
      · simp [refused, missing, Answer.observed, Answer.elim, Sight.ofReply, Sight.succeeded,
          capture, listing]
    · simp [refused, missing, Answer.observed, Answer.elim, Sight.ofReply, Except.map, capture]
  obtain ⟨visits, _⟩ := play_indistinguishable Settings.defaults false steps alike
  refine ⟨alike, rfl, rfl, ?_⟩
  rw [← List.forall₂_eq_eq_eq, List.forall₂_map_left_iff, List.forall₂_map_right_iff]
  exact visits.imp fun _ _ same => same.2

end Runner

end DevCluster
