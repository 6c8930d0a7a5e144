import DevCluster.Proofs.Session.Accounting
import DevCluster.Proofs.Session.Runs
import DevCluster.Proofs.Settings.Layering
import DevCluster.Proofs.Shutdown.Report

/-!
Which cluster and which context a session names: those of its settings and no others, whichever of
its steps does it. A start and a stop that are set up together mean the same cluster.
-/

namespace DevCluster

open Exchange Dialogue Routine

def leftoverWarning : Line := .warn "Cluster deletion had issues, but continuing with cleanup"

/-- A journal in which kubectl is asked for one context only, kind is asked about one cluster only,
and a leftover cluster is warned of exactly where a listing has that cluster. -/
structure Journal.Names (context cluster : String) (journal : Journal) : Prop where
  contexts : ∀ arguments answer, .ran .capture ⟨"kubectl", arguments⟩ answer ∈ journal →
    arguments = ["config", "use-context", context]
  clusters : ∀ arguments answer, .ran .capture ⟨"kind", arguments⟩ answer ∈ journal →
    arguments = ["delete", "cluster", "--name", cluster] ∨ arguments = ["get", "clusters"]
  listed : .said leftoverWarning ∈ journal ↔
    ∃ answer, .ran .capture ⟨"kind", ["get", "clusters"]⟩ answer ∈ journal ∧
      answer.lists cluster = true

/-- An exchange that has nothing to do with clusters, and with no context but the given one. -/
def Exchange.Apt (context : String) : Exchange → Prop
  | ⟨.say line, _⟩ => line ≠ leftoverWarning
  | ⟨.run .capture command, _⟩ =>
    command.program ≠ "kind" ∧
      (command.program = "kubectl" → command.arguments = ["config", "use-context", context])
  | _ => True

def Dialogue.Apt (context : String) (dialogue : Dialogue) : Prop :=
  ∀ exchange ∈ dialogue, exchange.Apt context

variable {context cluster : String} {dialogue : Dialogue}

@[simp] theorem Exchange.apt_said {line : Line} :
    (said line).Apt context ↔ line ≠ leftoverWarning := Iff.rfl

@[simp] theorem Exchange.apt_noted {event : Event} : (noted event).Apt context := trivial

@[simp] theorem Exchange.apt_taken {pending : Bool} : (taken pending).Apt context := trivial

@[simp] theorem Dialogue.apt_nil : Dialogue.Apt context [] := by
  simp [Dialogue.Apt]

@[simp] theorem Dialogue.apt_cons {exchange : Exchange} :
    Dialogue.Apt context (exchange :: dialogue) ↔
      exchange.Apt context ∧ Dialogue.Apt context dialogue := by
  simp [Dialogue.Apt]

@[simp] theorem Dialogue.apt_append {first second : Dialogue} :
    Dialogue.Apt context (first ++ second) ↔
      Dialogue.Apt context first ∧ Dialogue.Apt context second :=
  List.forall_mem_append

theorem Journal.names_append {first second : Journal} (one : first.Names context cluster)
    (other : second.Names context cluster) :
    Journal.Names context cluster (first ++ second) where
  contexts arguments answer member := by
    rcases List.mem_append.mp member with member | member
    · exact one.contexts arguments answer member
    · exact other.contexts arguments answer member
  clusters arguments answer member := by
    rcases List.mem_append.mp member with member | member
    · exact one.clusters arguments answer member
    · exact other.clusters arguments answer member
  listed := by
    simp only [List.mem_append, or_and_right, exists_or, one.listed, other.listed]

theorem Dialogue.names_of_apt (apt : dialogue.Apt context) :
    dialogue.journal.Names context cluster where
  contexts arguments answer member := (apt _ (mem_journal_ran.mp member)).2 rfl
  clusters arguments answer member := absurd rfl (apt _ (mem_journal_ran.mp member)).1
  listed := by
    refine iff_of_false (fun member => ?_) ?_
    · exact apt _ (mem_journal_said.mp member) rfl
    · rintro ⟨answer, member, _⟩
      exact (apt _ (mem_journal_ran.mp member)).1 rfl

namespace Startup

variable {settings : Settings}

theorem ToolSearch.apt {tools : List String} {result : Except Stop Unit}
    (search : ToolSearch tools dialogue result) : dialogue.Apt context := by
  induction search with
  | complete => simp
  | missing => simp [Exchange.Apt]
  | found _ ih => simp [Exchange.Apt, ih]

theorem DaemonCheck.apt {result : Except Stop Unit} (check : DaemonCheck dialogue result) :
    dialogue.Apt context := by
  cases check <;> simp [Exchange.Apt, leftoverWarning, daemonCheck]

theorem ClusterBootstrap.apt {result : Except Stop Unit}
    (step : ClusterBootstrap settings dialogue result) : dialogue.Apt context := by
  cases step <;> simp [Exchange.Apt, leftoverWarning]

theorem contextWarning_ne : contextWarning settings ≠ leftoverWarning := by
  intro same
  have heads := congrArg String.toList (Line.warn.inj same)
  simp [toString] at heads

theorem ContextChoice.apt {result : Except Stop Bool}
    (choice : ContextChoice settings dialogue result) : dialogue.Apt settings.kubeContext := by
  have other (text : String) : Line.info text ≠ leftoverWarning := by simp [leftoverWarning]
  cases choice <;> simp [Exchange.Apt, contextSwitch, contextWarning_ne, other]

theorem Launch.apt {result : Except Stop StartOutcome}
    (launch : Launch settings dialogue result) : dialogue.Apt context := by
  cases launch <;> simp [launchDialogue, Exchange.Apt, leftoverWarning]

theorem reportDialogue_apt (outcome : StartOutcome) :
    (reportDialogue settings outcome).Apt context := by
  cases outcome with
  | interrupted => simp [reportDialogue, interruptReport, leftoverWarning]
  | exited code =>
      have other : Line.warn s!"Tilt exited with status {describeExit code}" ≠ leftoverWarning := by
        intro same
        have heads := congrArg String.toList (Line.warn.inj same)
        simp [toString] at heads
      rw [reportDialogue]
      split
      next => simp
      next => simpa using other

theorem Preparation.apt {result : Except Stop Unit}
    (preparation : Preparation settings dialogue result) : dialogue.Apt settings.kubeContext := by
  cases preparation with
  | daemonStops check => exact check.apt
  | bootstrapStops check step => simp [check.apt, step.apt]
  | choiceStops check step choice => simp [check.apt, step.apt, choice.apt]
  | complete check step choice => simp [check.apt, step.apt, choice.apt]

/-- A start asks for the context of its settings, and has nothing to do with what kind has. -/
theorem Course.apt {result : Except Stop StartOutcome} (course : Course settings dialogue result) :
    dialogue.Apt settings.kubeContext := by
  have welcomes : welcome ≠ leftoverWarning := by decide
  cases course with
  | toolMissing search => simp [welcomes, search.apt]
  | alreadyInterrupted search => simp [welcomes, search.apt, reportDialogue_apt]
  | preparationFailed search preparation => simp [welcomes, search.apt, preparation.apt]
  | preparationInterrupted search preparation =>
      simp [welcomes, search.apt, preparation.apt, reportDialogue_apt]
  | launchFailed search preparation launch =>
      simp [welcomes, search.apt, preparation.apt, launch.apt]
  | launched search preparation launch =>
      simp [welcomes, search.apt, preparation.apt, launch.apt, reportDialogue_apt]

end Startup

namespace Shutdown

theorem Attempted.apt {command : Command} {result : Except Stop Bool}
    (attempted : Attempted command dialogue result)
    (other : command.program ≠ "kind" ∧ command.program ≠ "kubectl") : dialogue.Apt context := by
  cases attempted <;> simp [Exchange.Apt, other]

theorem OrchestratorStopping.apt {result : Except Stop OrchestratorStop}
    (course : OrchestratorStopping dialogue result) : dialogue.Apt context := by
  have first {stop : Dialogue} {result : Except Stop Bool}
      (attempted : Attempted orchestratorStop stop result) : stop.Apt context :=
    attempted.apt (by decide)
  have second {kill : Dialogue} {result : Except Stop Bool}
      (attempted : Attempted orchestratorKill kill result) : kill.Apt context :=
    attempted.apt (by decide)
  have begins : stopping ≠ leftoverWarning := by decide
  cases course with
  | stopAbandoned stop => simp [begins, first stop]
  | graceful stop => simp [first stop, stopping, leftoverWarning]
  | killAbandoned stop kill => simp [begins, first stop, second kill]
  | killed stop kill => simp [first stop, second kill, stopping, leftoverWarning]
  | notRunning stop kill => simp [first stop, second kill, stopping, leftoverWarning]

theorem Attempted.names {result : Except Stop Bool}
    (attempted : Attempted (clusterDeletion cluster) dialogue result) :
    dialogue.journal.Names context cluster := by
  have named (answer : Answer) :
      Journal.Names context cluster [.ran .capture (clusterDeletion cluster) answer] := by
    refine ⟨?_, ?_, ?_⟩
    · simp [clusterDeletion]
    · rintro arguments reply member
      obtain ⟨same, _⟩ : arguments = _ ∧ reply = answer := by
        simpa [clusterDeletion] using member
      exact .inl same
    · simp [clusterDeletion]
  cases attempted <;> exact named _

/-- A listing names the cluster that it is read for, and whether it has it decides what is told. -/
theorem ListingRead.names {result : Except Stop Bool}
    (read : ListingRead cluster dialogue result) (told : Dialogue)
    (lines : ∀ entry ∈ told.journal, ∃ line, entry = .said line)
    (warned : .said leftoverWarning ∈ told.journal ↔ result = .ok true) :
    (journal (dialogue ++ told)).Names context cluster := by
  have named (answer : Answer) (listed : result = .ok true ↔ answer.lists cluster = true) :
      Journal.Names context cluster (.ran .capture clusterListing answer :: told.journal) := by
    have unasked (command : Command) (reply : Answer) :
        .ran .capture command reply ∉ told.journal := fun member => by
      obtain ⟨_, impossible⟩ := lines _ member
      cases impossible
    refine ⟨?_, ?_, ?_⟩
    · simp [clusterListing, unasked]
    · rintro arguments reply member
      obtain ⟨same, _⟩ : arguments = _ ∧ reply = answer := by
        simpa [clusterListing, unasked] using member
      exact .inr same
    · simp [clusterListing, unasked, warned, listed]
  cases read with
  | listed => exact named _ (by simp [Answer.lists])
  | refused => exact named _ (by simp [Answer.lists])
  | notRun => exact named _ (by simp [Answer.lists])
  | interrupted => exact named _ (by simp [Answer.lists])

/-- The cluster that is deleted is the one that is looked for among those that are left. -/
theorem ClusterDeletion.names {result : Except Stop ClusterCleanup}
    (course : ClusterDeletion cluster dialogue result) :
    dialogue.journal.Names context cluster := by
  have begins : Journal.Names context cluster (journal [said deleting]) :=
    names_of_apt (by simp [deleting, leftoverWarning])
  cases course with
  | deletionAbandoned deletion => exact Journal.names_append begins deletion.names
  | deleted deletion =>
      have ends : Journal.Names context cluster (journal [said (.info "✅ Kind cluster deleted")]) :=
        names_of_apt (by simp [leftoverWarning])
      rw [← List.singleton_append, journal_append, journal_append]
      exact Journal.names_append begins (Journal.names_append deletion.names ends)
  | @listingAbandoned _ listing why deletion read =>
      have names : Journal.Names context cluster (journal (listing ++ [])) :=
        read.names [] (by simp) (by simp)
      rw [List.append_nil] at names
      rw [← List.singleton_append, journal_append, journal_append]
      exact Journal.names_append begins (Journal.names_append deletion.names names)
  | incomplete deletion read =>
      rw [← List.singleton_append, journal_append, journal_append]
      refine Journal.names_append begins (Journal.names_append deletion.names (read.names _ ?_ ?_))
      · simp [record?]
      · simp [record?, leftoverWarning]
  | alreadyAbsent deletion read =>
      rw [← List.singleton_append, journal_append, journal_append]
      refine Journal.names_append begins (Journal.names_append deletion.names (read.names _ ?_ ?_))
      · simp [record?]
      · simp [record?, leftoverWarning]

theorem Course.names {settings : Settings} {result : Except Stop StopReport}
    (course : Course settings dialogue result) :
    dialogue.journal.Names context settings.clusterName := by
  have begins : farewell ≠ leftoverWarning := by decide
  cases course with
  | orchestratorAbandoned stopping => exact names_of_apt (by simp [begins, stopping.apt])
  | @clusterAbandoned first second _ _ stopping deletion =>
      have opening : Dialogue.Apt context (said farewell :: first) := by simp [begins, stopping.apt]
      rw [← List.cons_append, journal_append]
      exact Journal.names_append (names_of_apt opening) deletion.names
  | @complete first second orchestrator cluster stopping deletion =>
      have opening : Dialogue.Apt context (said farewell :: first) := by simp [begins, stopping.apt]
      have ending : Dialogue.Apt context
          [noted (.stopFinished { orchestrator, cluster }), said summary] := by
        simp only [apt_cons, apt_noted, apt_said, apt_nil]
        decide
      rw [← List.cons_append, journal_append, journal_append]
      exact Journal.names_append (names_of_apt opening)
        (Journal.names_append deletion.names (names_of_apt ending))

end Shutdown

namespace Routine

variable {α β : Type} {routine : Routine α}

/-- Whatever is replied to the routine, it names no other context or cluster. -/
def Names (context cluster : String) (routine : Routine α) : Prop :=
  ∀ dialogue result, routine.Ends dialogue result → dialogue.journal.Names context cluster

theorem names_pure (value : α) : (pure value : Routine α).Names context cluster := by
  rintro _ _ ⟨rfl, _⟩
  exact names_of_apt apt_nil

theorem names_ofExcept (outcome : Except Failure α) :
    (ofExcept outcome).Names context cluster := by
  intro dialogue result ends
  obtain ⟨rfl, _⟩ := ends_ofExcept.mp ends
  exact names_of_apt apt_nil

theorem names_note (event : Event) : (note event).Names context cluster := by
  intro dialogue result ends
  obtain ⟨rfl, _⟩ := ends_note.mp ends
  exact names_of_apt (by simp)

theorem Names.bind {next : α → Routine β} (names : routine.Names context cluster)
    (others : ∀ value, (next value).Names context cluster) :
    (routine >>= next).Names context cluster := by
  intro dialogue result ends
  rcases ends_bind.mp ends with ⟨why, _, ended⟩ | ⟨value, first, second, rfl, ended, later⟩
  · exact names _ _ ended
  · rw [journal_append]
    exact Journal.names_append (names _ _ ended) (others value _ _ later)

theorem Names.map {change : α → β} (names : routine.Names context cluster) :
    (change <$> routine).Names context cluster :=
  names.bind fun value => names_pure (change value)

theorem Names.attempt (names : routine.Names context cluster) :
    routine.attempt.Names context cluster := by
  intro dialogue result ends
  rcases ends_attempt.mp ends with ⟨value, ended, _⟩ | ⟨failure, ended, _⟩ | ⟨ended, _⟩
  · exact names _ _ ended
  · exact names _ _ ended
  · exact names _ _ ended

theorem Names.within {span : Span} (names : routine.Names context cluster) :
    (within span routine).Names context cluster := by
  intro dialogue result ends
  obtain ⟨own, ended, rfl⟩ := ends_within.mp ends
  have silent := (leaving_silent result).journal
  rw [journal_cons, journal_append, silent, List.append_nil]
  exact names _ _ ended

theorem Names.untilInterrupted (names : routine.Names context cluster) :
    routine.untilInterrupted.Names context cluster := by
  have silent (pending : Bool) (rest : Dialogue) : journal (taken pending :: rest) = rest.journal :=
    rfl
  intro dialogue result ends
  rcases ends_untilInterrupted.mp ends with ⟨rfl, _⟩ | ⟨rest, rfl, caught⟩
  · exact names_of_apt (by simp)
  · rw [silent]
    rcases ends_catchInterrupt.mp caught with
      ⟨_, ended, _⟩ | ⟨_, ended, _⟩ | ⟨own, _, rfl, ended, _⟩
    · exact names _ _ ended
    · exact names _ _ ended
    · rw [journal_append, silent, journal_nil, List.append_nil]
      exact names _ _ ended

end Routine

theorem Action.perform_names (settings : Settings) (action : Action) :
    (action.perform settings).Names settings.kubeContext settings.clusterName := by
  have starts : (Startup.run settings).Names settings.kubeContext settings.clusterName :=
    fun _ _ ends => names_of_apt (Startup.course_of_ends ends).apt
  have stops : (Shutdown.run settings).Names settings.kubeContext settings.clusterName :=
    fun _ _ ends => (Shutdown.course_of_ends ends).names
  have routine : (action.routine settings).Names settings.kubeContext settings.clusterName := by
    cases action with
    | up => exact (starts.bind fun _ => names_note _).within
    | down => exact (stops.bind fun _ => names_note _).within
    | completions shell =>
        have writes : (writeCompletions shell).Names settings.kubeContext settings.clusterName := by
          rw [writeCompletions]
          split
          next =>
            rintro _ result ⟨_, rest, rfl, noted⟩
            exact names_note _ rest result noted
          next =>
            rintro _ _ ⟨rfl, _⟩
            exact names_of_apt apt_nil
        exact writes.within
  exact routine.attempt.bind fun outcome => (names_note _).bind fun _ => names_ofExcept outcome

namespace Step

variable {settings : Settings} {step : Step} {routine : Routine StepResult}

theorem routine_names (plays : step.routine? settings = some routine) :
    routine.Names settings.kubeContext settings.clusterName := by
  -- Neither waiting for an interrupt nor passing on a result names anything, so what counts is the
  -- part that the step runs.
  have abandonable {inner : Routine StepResult}
      (names : inner.Names settings.kubeContext settings.clusterName) :
      (abandonable inner).Names settings.kubeContext settings.clusterName :=
    names.untilInterrupted.map
  have nothing {inner : Routine Unit}
      (names : inner.Names settings.kubeContext settings.clusterName) :
      Routine.Names settings.kubeContext settings.clusterName
        (do inner; pure StepResult.nothing) :=
    names.bind fun _ => names_pure StepResult.nothing
  cases step with
  | configure document environment => cases plays
  | missing tools => cases plays
  | script commandLine replies => cases plays
  | interrupt => cases plays
  | up =>
      cases plays
      exact Names.map fun _ _ ends => names_of_apt (Startup.course_of_ends ends).apt
  | dispatch action =>
      have names := nothing (action.perform_names settings)
      cases action with
      | up =>
          cases plays
          exact names
      | down =>
          cases plays
          exact abandonable names
      | completions shell =>
          cases plays
          exact abandonable names
  | down =>
      cases plays
      exact abandonable (Names.map fun _ _ ends => (Shutdown.course_of_ends ends).names)
  | checkTools =>
      cases plays
      exact abandonable (nothing fun _ _ ends =>
        names_of_apt (Startup.toolSearch_of_ends ends).apt)
  | checkDaemon =>
      cases plays
      exact abandonable (nothing fun _ _ ends =>
        names_of_apt (Startup.daemonCheck_of_ends ends).apt)
  | bootstrapCluster =>
      cases plays
      exact abandonable (nothing fun _ _ ends =>
        names_of_apt (Startup.clusterBootstrap_of_ends ends).apt)
  | switchContext =>
      cases plays
      exact abandonable (Names.map fun _ _ ends =>
        names_of_apt (Startup.contextChoice_of_ends ends).apt)
  | launchOrchestrator =>
      cases plays
      exact abandonable (Names.map fun _ _ ends => names_of_apt (Startup.launch_of_ends ends).apt)
  | stopOrchestrator =>
      cases plays
      exact abandonable (Names.map fun _ _ ends =>
        names_of_apt (Shutdown.orchestratorStopping_of_ends ends).apt)
  | deleteCluster =>
      cases plays
      exact abandonable (Names.map fun _ _ ends =>
        (Shutdown.clusterDeletion_of_ends ends).names)

def configures : Step → Bool
  | configure _ _ => true
  | _ => false

end Step

namespace Session

variable {session : Session} {step : Step}

theorem visit_settings (kept : step.configures = false) :
    (session.visit step).after.settings = session.settings := by
  cases plays : step.routine? session.settings with
  | some routine =>
      rw [visit_eq plays]
      exact run_settings routine session []
  | none =>
      rcases Step.setUp_cases plays with ⟨_, _, rfl⟩ | ⟨_, rfl⟩ | ⟨_, _, rfl⟩ | rfl
      · cases kept
      · rfl
      · rfl
      · rfl

theorem visit_names (session : Session) (step : Step) :
    (session.visit step).journal.Names session.settings.kubeContext
      session.settings.clusterName := by
  cases plays : step.routine? session.settings with
  | some routine =>
      rw [visit_eq plays]
      exact Step.routine_names plays _ _ (ends_dialogue host routine (session, []))
  | none =>
      rw [setUp_journal plays]
      exact names_of_apt (@apt_nil session.settings.kubeContext)

/-- As long as a session keeps its settings, all of its steps name the same context and cluster. -/
theorem visits_names {steps : List Step} (kept : ∀ step ∈ steps, step.configures = false) :
    ∀ visit ∈ session.visits steps,
      visit.journal.Names session.settings.kubeContext session.settings.clusterName := by
  induction steps generalizing session with
  | nil => simp [visits]
  | cons step steps ih =>
      obtain ⟨first, others⟩ := List.forall_mem_cons.mp kept
      refine List.forall_mem_cons.mpr ⟨session.visit_names step, ?_⟩
      rw [← visit_settings first]
      exact ih others

theorem configure_settings {document : Option String} {environment : Environment}
    {values : List (String × String)} {settings : Settings}
    (accepted : Settings.read document environment = .ok settings)
    (same : ∀ variableName, values.lookup variableName = environment variableName) :
    (session.visit (.configure document values)).after.settings = settings := by
  obtain rfl : (values.lookup ·) = environment := funext same
  rw [visit, Step.perform_eq_setUp rfl]
  simp only [Step.setUp, accepted]

/-- What an environment says over a document is what the document would say with it put in. Only the
variables that override a key count, and of these only those with a value. The context is the one
that is chosen, or else named after the cluster that comes of all layers. It is then the context of
the very cluster that a stop deletes and looks for, in whatever order a session starts and stops. -/
theorem settings_layered (document : Option String) (environment : Environment)
    (settings : Settings) (accepted : Settings.read document environment = .ok settings) :
    ∃ assignments, Document.Consists document assignments ∧
      (∃ text, Document.Consists (some text) (Settings.overridden environment assignments)) ∧
      (∀ text others, Document.Consists (some text) others →
        others.Perm (Settings.overridden environment assignments) →
          Settings.read (some text) (fun _ => none) = .ok settings) ∧
      (∀ other : Environment, (∀ variableName ∈ ["LIFEGUARD_CLUSTER_NAME",
          "LIFEGUARD_KUBE_CONTEXT", "LIFEGUARD_BOOTSTRAP_SCRIPT", "LIFEGUARD_BOOTSTRAP_SHELL"],
          other.filled variableName = environment.filled variableName) →
        Settings.read document other = .ok settings) ∧
      (∀ other, ∃ others, Settings.read document other = .ok others ∧
        others.orchestratorUrl = settings.orchestratorUrl ∧
        others.databaseHint = settings.databaseHint) ∧
      settings.kubeContext = ((environment.filled "LIFEGUARD_KUBE_CONTEXT").or
        (assignments.lookup "kube_context")).getD ("kind-" ++ settings.clusterName) ∧
      (∀ (session : Session) (values : List (String × String)),
        (∀ variableName, values.lookup variableName = environment variableName) →
          (session.visit (.configure document values)).after.settings = settings) ∧
      (environment.filled "LIFEGUARD_KUBE_CONTEXT" = none →
        assignments.lookup "kube_context" = none →
          ∀ (session : Session) (steps : List Step), session.settings = settings →
            (∀ step ∈ steps, step.configures = false) →
              ∀ visit ∈ session.visits steps,
                visit.journal.Names ("kind-" ++ settings.clusterName) settings.clusterName) := by
  obtain ⟨assignments, consists, distinct, known⟩ := Settings.consists_of_read accepted
  have read (other : Environment) : Settings.read document other =
      .ok (.ofAssignments (Settings.overridden other assignments)) :=
    Settings.read_of_consists consists known
  obtain rfl : Settings.ofAssignments (Settings.overridden environment assignments) = settings :=
    Except.ok.inj ((read environment).symm.trans accepted)
  have context := Settings.kubeContext_overridden environment assignments
  refine ⟨assignments, consists, ?_, ?_, ?_, ?_, context, ?_, ?_⟩
  · exact ⟨_, Document.consists_write (Settings.overridden_distinct distinct)⟩
  · intro text others written same
    rw [Settings.read_put_in consists distinct known written same]
    exact accepted
  · intro other same
    rw [Settings.read_congr same]
    exact accepted
  · exact fun other => ⟨_, read other, Settings.others_overridden other environment assignments⟩
  · exact fun session values same => configure_settings accepted same
  · intro unset unassigned session steps same kept visit member
    have names := session.visits_names kept visit member
    rw [unset, unassigned] at context
    rw [same, context] at names
    exact names

/-- A session set up with a document in which one variable replaces a key and another adds one. An
empty context is none, so it starts and stops by the cluster's name. -/
theorem named_settings_layered :
    let written := [("cluster_name", "test"), ("database_hint", "localhost:5433")]
    let values := [("LIFEGUARD_CLUSTER_NAME", "dev"), ("LIFEGUARD_KUBE_CONTEXT", ""),
      ("LIFEGUARD_BOOTSTRAP_SHELL", "zsh")]
    let layered := [("bootstrap_shell", "zsh"), ("cluster_name", "dev"),
      ("database_hint", "localhost:5433")]
    let document := String.ofList (Document.write written)
    let settings : Settings := { Settings.defaults with
      clusterName := "dev"
      kubeContext := "kind-dev"
      bootstrapShell := "zsh"
      databaseHint := "localhost:5433" }
    let session : Session := (visit {} (.configure (some document) values)).after
    Settings.read (some document) (values.lookup ·) = .ok settings ∧
      Settings.read (some (String.ofList (Document.write layered))) (fun _ => none) =
        .ok settings ∧
      session.settings = settings ∧
      ∀ visit ∈ session.visits [.up, .down], visit.journal.Names "kind-dev" "dev" := by
  intro written values layered document settings session
  have consists : Document.Consists (some document) written :=
    Document.consists_write (by decide)
  have accepted : Settings.read (some document) (values.lookup ·) = .ok settings :=
    Settings.read_of_consists consists (by decide)
  obtain ⟨assignments, same, _, putIn, _, _, _, configured, named⟩ :=
    settings_layered (some document) (values.lookup ·) settings accepted
  obtain rfl : written = assignments := consists.unique same
  have set : session.settings = settings := configured {} values fun _ => rfl
  refine ⟨accepted, ?_, set, ?_⟩
  · exact putIn _ layered (Document.consists_write (by decide)) (by decide)
  · refine named rfl rfl session [.up, .down] set ?_
    simp [Step.configures]

end Session

end DevCluster
