import DevCluster.Proofs.Action
import DevCluster.Proofs.Journal
import DevCluster.Proofs.Shutdown.Course
import DevCluster.Proofs.Startup.Course

/-!
What dialogues tell the operator: lines about errors, which go to the standard error, and others.
-/

namespace DevCluster

open Exchange

namespace Exchange

def isAlarm : Exchange → Bool
  | ⟨.say line, _⟩ => line.channel = .stderr
  | _ => false

def isBlank : Exchange → Bool
  | ⟨.say .blank, _⟩ => true
  | _ => false

end Exchange

def Journal.alarms (journal : Journal) : List Line :=
  journal.lines.filter (·.channel = .stderr)

theorem Journal.alarms_append (first second : Journal) :
    alarms (first ++ second) = alarms first ++ alarms second := by
  rw [alarms, lines_append, List.filter_append]
  rfl

namespace Dialogue

variable {first second dialogue : Dialogue}

def Unalarmed (dialogue : Dialogue) : Prop :=
  ∀ exchange ∈ dialogue, exchange.isAlarm = false

@[simp] theorem unalarmed_nil : Unalarmed [] := by
  simp [Unalarmed]

@[simp] theorem unalarmed_cons {exchange : Exchange} :
    Unalarmed (exchange :: dialogue) ↔ exchange.isAlarm = false ∧ Unalarmed dialogue := by
  simp [Unalarmed]

@[simp] theorem unalarmed_append :
    Unalarmed (first ++ second) ↔ Unalarmed first ∧ Unalarmed second :=
  List.forall_mem_append

theorem Unalarmed.alarms (unalarmed : Unalarmed dialogue) : dialogue.journal.alarms = [] := by
  refine List.filter_eq_nil_iff.mpr fun line member => ?_
  have told := mem_journal_said.mp (Journal.mem_lines.mp member)
  have quiet : decide (line.channel = .stderr) = false := unalarmed _ told
  simp [quiet]

theorem Silent.unalarmed (silent : Silent dialogue) : Unalarmed dialogue := by
  intro exchange member
  obtain ⟨unrecorded, _⟩ := silent exchange member
  rcases exchange with ⟨request, reply⟩
  cases request with
  | say line => cases unrecorded
  | _ => rfl

end Dialogue

open Dialogue

namespace Startup

variable {settings : Settings} {dialogue : Dialogue}

theorem ToolSearch.unbroken {tools : List String} {result : Except Stop Unit}
    (search : ToolSearch tools dialogue result) : dialogue.any isBlank = false := by
  induction search with
  | complete => rfl
  | missing => rfl
  | found _ ih => exact ih

theorem ToolSearch.unalarmed {tools : List String} {result : Except Stop Unit}
    (search : ToolSearch tools dialogue result) : Unalarmed dialogue := by
  induction search with
  | complete => exact unalarmed_nil
  | missing => simp [isAlarm]
  | found _ ih => simp [isAlarm, ih]

theorem Preparation.plain {result : Except Stop Unit}
    (preparation : Preparation settings dialogue result) :
    ∀ exchange ∈ dialogue, exchange.isAlarm = false ∧ exchange.isBlank = false ∧
      exchange.launches = false := by
  have checked {daemon : Dialogue} {result : Except Stop Unit} (check : DaemonCheck daemon result) :
      ∀ exchange ∈ daemon, exchange.isAlarm = false ∧ exchange.isBlank = false ∧
        exchange.launches = false := by
    cases check <;> simp [isAlarm, isBlank, launches, Line.channel]
  have booted {cluster : Dialogue} {result : Except Stop Unit}
      (step : ClusterBootstrap settings cluster result) :
      ∀ exchange ∈ cluster, exchange.isAlarm = false ∧ exchange.isBlank = false ∧
        exchange.launches = false := by
    cases step <;> simp [isAlarm, isBlank, launches, Line.channel]
  have chosen {context : Dialogue} {result : Except Stop Bool}
      (choice : ContextChoice settings context result) :
      ∀ exchange ∈ context, exchange.isAlarm = false ∧ exchange.isBlank = false ∧
        exchange.launches = false := by
    cases choice <;> simp [isAlarm, isBlank, launches, contextWarning, Line.channel]
  cases preparation with
  | daemonStops check => exact checked check
  | bootstrapStops check step =>
      exact List.forall_mem_append.mpr ⟨checked check, booted step⟩
  | choiceStops check step choice =>
      have others := List.forall_mem_append.mpr ⟨booted step, chosen choice⟩
      exact List.forall_mem_append.mpr ⟨checked check, others⟩
  | complete check step choice =>
      have others := List.forall_mem_append.mpr ⟨booted step, chosen choice⟩
      exact List.forall_mem_append.mpr ⟨checked check, others⟩

theorem Preparation.unalarmed {result : Except Stop Unit}
    (preparation : Preparation settings dialogue result) : Unalarmed dialogue :=
  fun exchange member => (preparation.plain exchange member).1

theorem Preparation.unbroken {result : Except Stop Unit}
    (preparation : Preparation settings dialogue result) : dialogue.any isBlank = false :=
  List.any_eq_false.mpr fun exchange member => by simp [(preparation.plain exchange member).2.1]

theorem Preparation.unlaunched {result : Except Stop Unit}
    (preparation : Preparation settings dialogue result) : dialogue.any launches = false :=
  List.any_eq_false.mpr fun exchange member => by simp [(preparation.plain exchange member).2.2]

theorem Launch.launched {result : Except Stop StartOutcome}
    (launch : Launch settings dialogue result) : dialogue.any Exchange.launches = true := by
  cases launch <;> rfl

theorem Launch.unbroken {result : Except Stop StartOutcome}
    (launch : Launch settings dialogue result) : dialogue.any isBlank = false := by
  cases launch <;> rfl

theorem Launch.unalarmed {result : Except Stop StartOutcome}
    (launch : Launch settings dialogue result) : Unalarmed dialogue := by
  cases launch <;> simp [launchDialogue, isAlarm, Line.channel]

theorem reportDialogue_unalarmed (outcome : StartOutcome) :
    Unalarmed (reportDialogue settings outcome) := by
  cases outcome with
  | interrupted => simp [reportDialogue, interruptReport, isAlarm, Line.channel]
  | exited code =>
      simp only [reportDialogue]
      split <;> simp [isAlarm, Line.channel]

/-- A start leaves it to its caller to tell the operator of an error. -/
theorem Course.unalarmed {result : Except Stop StartOutcome}
    (course : Course settings dialogue result) : Unalarmed dialogue := by
  have reporting (outcome : StartOutcome) : Unalarmed (reportDialogue settings outcome) :=
    reportDialogue_unalarmed outcome
  cases course with
  | toolMissing searched => simp [searched.unalarmed, isAlarm, welcome, Line.channel]
  | alreadyInterrupted searched =>
      simp [searched.unalarmed, reporting, isAlarm, welcome, Line.channel]
  | preparationFailed searched preparation =>
      simp [searched.unalarmed, preparation.unalarmed, isAlarm, welcome, Line.channel]
  | preparationInterrupted searched preparation =>
      simp [searched.unalarmed, preparation.unalarmed, reporting, isAlarm, welcome, Line.channel]
  | launchFailed searched preparation launch =>
      simp [searched.unalarmed, preparation.unalarmed, launch.unalarmed, isAlarm, welcome,
        Line.channel]
  | launched searched preparation launch =>
      simp [searched.unalarmed, preparation.unalarmed, launch.unalarmed, reporting, isAlarm,
        welcome, Line.channel]

/-- Only the report of an interrupt has blank lines. -/
theorem Course.interrupted_of_blank {result : Except Stop StartOutcome}
    (course : Course settings dialogue result) (broken : dialogue.any isBlank = true) :
    result = .ok .interrupted := by
  cases course with
  | toolMissing searched => simp [searched.unbroken, isBlank, welcome] at broken
  | alreadyInterrupted searched => rfl
  | preparationFailed searched preparation =>
      simp [searched.unbroken, preparation.unbroken, isBlank, welcome] at broken
  | preparationInterrupted searched preparation => rfl
  | launchFailed searched preparation launch =>
      simp [searched.unbroken, preparation.unbroken, launch.unbroken, isBlank, welcome] at broken
  | @launched _ _ _ outcome searched preparation launch =>
      cases outcome with
      | interrupted => rfl
      | exited code =>
          have reported : (reportDialogue settings (.exited code)).any isBlank = false := by
            simp only [reportDialogue]
            split <;> rfl
          simp [searched.unbroken, preparation.unbroken, launch.unbroken, reported, isBlank,
            welcome] at broken

/-- A start that comes to an outcome reports it last. -/
theorem Course.reports {outcome : StartOutcome} (course : Course settings dialogue (.ok outcome)) :
    ∃ first : Dialogue, dialogue = first ++ reportDialogue settings outcome := by
  cases course with
  | @alreadyInterrupted search searched =>
      exact ⟨said welcome :: (search ++ [taken true]), by simp⟩
  | @preparationInterrupted search preparation pending searched prepared =>
      exact ⟨said welcome :: (search ++ taken false :: (preparation ++ [taken pending])), by simp⟩
  | @launched search preparation launch _ searched prepared ended =>
      exact ⟨said welcome :: (search ++ taken false :: (preparation ++ launch)), by simp⟩

/-- A start has told the operator of an interrupt at its end exactly if it was interrupted. -/
theorem Course.tells_interrupt {result : Except Stop StartOutcome}
    (course : Course settings dialogue result) :
    interruptReport <:+ dialogue.journal.lines ↔ result = .ok .interrupted := by
  constructor
  · intro told
    have line : .blank ∈ dialogue.journal.lines := told.mem List.mem_cons_self
    have exchanged := mem_journal_said.mp (Journal.mem_lines.mp line)
    exact course.interrupted_of_blank (List.any_eq_true.mpr ⟨_, exchanged, rfl⟩)
  · rintro rfl
    obtain ⟨first, rfl⟩ := course.reports
    rw [journal_append, Journal.lines_append]
    exact List.suffix_append _ interruptReport

end Startup

namespace Shutdown

variable {settings : Settings} {dialogue : Dialogue}

theorem Attempted.unalarmed {command : Command} {result : Except Stop Bool}
    (attempted : Attempted command dialogue result) : Unalarmed dialogue := by
  cases attempted <;> simp [isAlarm]

theorem ListingRead.unalarmed {cluster : String} {result : Except Stop Bool}
    (read : ListingRead cluster dialogue result) : Unalarmed dialogue := by
  cases read <;> simp [isAlarm]

theorem OrchestratorStopping.unalarmed {result : Except Stop OrchestratorStop}
    (course : OrchestratorStopping dialogue result) : Unalarmed dialogue := by
  cases course with
  | stopAbandoned stop => simp [stop.unalarmed, isAlarm, stopping, Line.channel]
  | graceful stop => simp [stop.unalarmed, isAlarm, stopping, Line.channel]
  | killAbandoned stop kill =>
      simp [stop.unalarmed, kill.unalarmed, isAlarm, stopping, Line.channel]
  | killed stop kill => simp [stop.unalarmed, kill.unalarmed, isAlarm, stopping, Line.channel]
  | notRunning stop kill => simp [stop.unalarmed, kill.unalarmed, isAlarm, stopping, Line.channel]

theorem ClusterDeletion.unalarmed {cluster : String} {result : Except Stop ClusterCleanup}
    (course : ClusterDeletion cluster dialogue result) : Unalarmed dialogue := by
  cases course with
  | deletionAbandoned deletion => simp [deletion.unalarmed, isAlarm, deleting, Line.channel]
  | deleted deletion => simp [deletion.unalarmed, isAlarm, deleting, Line.channel]
  | listingAbandoned deletion listing =>
      simp [deletion.unalarmed, listing.unalarmed, isAlarm, deleting, Line.channel]
  | incomplete deletion listing =>
      simp [deletion.unalarmed, listing.unalarmed, isAlarm, deleting, Line.channel]
  | alreadyAbsent deletion listing =>
      simp [deletion.unalarmed, listing.unalarmed, isAlarm, deleting, Line.channel]

theorem Course.unalarmed {result : Except Stop StopReport}
    (course : Course settings dialogue result) : Unalarmed dialogue := by
  cases course with
  | orchestratorAbandoned first => simp [first.unalarmed, isAlarm, farewell, Line.channel]
  | clusterAbandoned first second =>
      simp [first.unalarmed, second.unalarmed, isAlarm, farewell, Line.channel]
  | complete first second =>
      simp [first.unalarmed, second.unalarmed, isAlarm, farewell, summary, Line.channel]

end Shutdown

end DevCluster
