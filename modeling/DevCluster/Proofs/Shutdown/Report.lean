import DevCluster.Proofs.Narrative
import DevCluster.Proofs.Session.Replies

/-!
What a stop asks for and reports: everything is tried whatever fails, the answers alone decide which
fallbacks are asked for, and the report and the lines say what came of each part.
-/

namespace DevCluster

open Exchange Dialogue Routine

namespace Answer

def succeeded : Answer → Bool
  | ended output => output.code = some 0
  | _ => false

/-- Whether the answer to a listing names the cluster, whatever its exit code. -/
def lists (cluster : String) : Answer → Bool
  | ended output => Listing.lists output.stdout cluster
  | _ => false

end Answer

def Line.isWarning : Line → Bool
  | .warn _ => true
  | _ => false

theorem Heeded.mem_answers {α : Type} {dialogue : Dialogue}
    (heeded : Heeded dialogue (.error .interrupted : Except Stop α)) :
    .interrupted ∈ dialogue.journal.answers := by
  cases heeded with
  | calm _ unstopped => exact absurd rfl unstopped
  | @interrupted before mode command _ _ =>
      refine Journal.mem_answers.mpr ⟨mode, command, mem_journal_ran.mpr ?_⟩
      exact List.mem_append_right _ (List.mem_singleton_self _)

namespace Shutdown

/-- A command that is asked for only where another one has not succeeded. -/
def fallback (succeeded : Bool) (command : Command) (answer : Answer) : Journal :=
  if succeeded then [] else [.ran .capture command answer]

@[simp] theorem fallback_true (command : Command) (answer : Answer) :
    fallback true command answer = [] := rfl

@[simp] theorem fallback_false (command : Command) (answer : Answer) :
    fallback false command answer = [.ran .capture command answer] := rfl

def orchestratorLine : OrchestratorStop → Line
  | .graceful => .info "✅ Tilt stopped"
  | .killed => .info "✅ Tilt stopped (via pkill)"
  | .notRunning => .warn "No Tilt processes found (or already stopped)"

def clusterLine : ClusterCleanup → Line
  | .deleted => .info "✅ Kind cluster deleted"
  | .alreadyAbsent => .info "Cluster already deleted or does not exist"
  | .incomplete => .warn "Cluster deletion had issues, but continuing with cleanup"

variable {settings : Settings} {dialogue : Dialogue}

theorem Attempted.answered {command : Command} {success : Bool}
    (attempted : Attempted command dialogue (.ok success)) :
    ∃ answer, dialogue.journal = [.ran .capture command answer] ∧ answer.succeeded = success := by
  cases attempted with
  | ended => exact ⟨_, rfl, rfl⟩
  | notRun => exact ⟨_, rfl, rfl⟩

theorem ListingRead.answered {cluster : String} {listed : Bool}
    (read : ListingRead cluster dialogue (.ok listed)) :
    ∃ answer, dialogue.journal = [.ran .capture clusterListing answer] ∧
      answer.lists cluster = listed := by
  cases read with
  | listed => exact ⟨_, rfl, rfl⟩
  | refused => exact ⟨_, rfl, rfl⟩
  | notRun => exact ⟨_, rfl, rfl⟩

/-- Tilt's processes are killed only where Tilt could not be stopped. -/
theorem OrchestratorStopping.reported {reported : OrchestratorStop}
    (course : OrchestratorStopping dialogue (.ok reported)) :
    ∃ stop kill : Answer,
      dialogue.journal = .said stopping :: .ran .capture orchestratorStop stop ::
        (fallback stop.succeeded orchestratorKill kill ++ [.said (orchestratorLine reported)]) ∧
      reported = if stop.succeeded then .graceful
        else if kill.succeeded then .killed else .notRunning := by
  cases course with
  | graceful first =>
      obtain ⟨stop, asked, succeeded⟩ := first.answered
      refine ⟨stop, .interrupted, ?_, by simp [succeeded]⟩
      simp [asked, succeeded, record?, orchestratorLine]
  | killed first second =>
      obtain ⟨stop, asked, failed⟩ := first.answered
      obtain ⟨kill, forced, succeeded⟩ := second.answered
      refine ⟨stop, kill, ?_, by simp [failed, succeeded]⟩
      simp [asked, forced, failed, record?, orchestratorLine]
  | notRunning first second =>
      obtain ⟨stop, asked, failed⟩ := first.answered
      obtain ⟨kill, forced, missed⟩ := second.answered
      refine ⟨stop, kill, ?_, by simp [failed, missed]⟩
      simp [asked, forced, failed, record?, orchestratorLine]

/-- The clusters are listed only where the cluster could not be deleted. -/
theorem ClusterDeletion.reported {cluster : String} {reported : ClusterCleanup}
    (course : ClusterDeletion cluster dialogue (.ok reported)) :
    ∃ deletion listing : Answer,
      dialogue.journal = .said deleting :: .ran .capture (clusterDeletion cluster) deletion ::
        (fallback deletion.succeeded clusterListing listing ++ [.said (clusterLine reported)]) ∧
      reported = if deletion.succeeded then .deleted
        else if listing.lists cluster then .incomplete else .alreadyAbsent := by
  cases course with
  | deleted first =>
      obtain ⟨deletion, asked, succeeded⟩ := first.answered
      refine ⟨deletion, .interrupted, ?_, by simp [succeeded]⟩
      simp [asked, succeeded, record?, clusterLine]
  | incomplete first second =>
      obtain ⟨deletion, asked, failed⟩ := first.answered
      obtain ⟨listing, read, listed⟩ := second.answered
      refine ⟨deletion, listing, ?_, by simp [failed, listed]⟩
      simp [asked, read, failed, record?, clusterLine]
  | alreadyAbsent first second =>
      obtain ⟨deletion, asked, failed⟩ := first.answered
      obtain ⟨listing, read, unlisted⟩ := second.answered
      refine ⟨deletion, listing, ?_, by simp [failed, unlisted]⟩
      simp [asked, read, failed, record?, clusterLine]

theorem Course.reported {report : StopReport} (course : Course settings dialogue (.ok report)) :
    ∃ stop kill deletion listing : Answer,
      dialogue.journal = .said farewell :: .said stopping :: .ran .capture orchestratorStop stop ::
        (fallback stop.succeeded orchestratorKill kill ++
          .said (orchestratorLine report.orchestrator) :: .said deleting ::
          .ran .capture (clusterDeletion settings.clusterName) deletion ::
          (fallback deletion.succeeded clusterListing listing ++
            [.said (clusterLine report.cluster), .said summary])) ∧
      report.orchestrator = (if stop.succeeded then .graceful
        else if kill.succeeded then .killed else .notRunning) ∧
      report.cluster = (if deletion.succeeded then .deleted
        else if listing.lists settings.clusterName then .incomplete else .alreadyAbsent) := by
  cases course with
  | complete stopped deleted =>
      obtain ⟨stop, kill, stopJournal, orchestrator⟩ := stopped.reported
      obtain ⟨deletion, listing, deletionJournal, cluster⟩ := deleted.reported
      refine ⟨stop, kill, deletion, listing, ?_, orchestrator, cluster⟩
      simp [stopJournal, deletionJournal, record?]

def narrative (report : StopReport) : List Line :=
  [farewell, stopping, orchestratorLine report.orchestrator, deleting, clusterLine report.cluster,
    summary]

theorem narrative_warnings (report : StopReport) :
    (narrative report).filter Line.isWarning =
      (if report.orchestrator = .notRunning then [orchestratorLine .notRunning] else []) ++
        (if report.cluster = .incomplete then [clusterLine .incomplete] else []) := by
  obtain ⟨orchestrator, cluster⟩ := report
  cases orchestrator with
  | graceful => cases cluster <;> rfl
  | killed => cases cluster <;> rfl
  | notRunning => cases cluster <;> rfl

/-- A stop that no command's interrupt cuts off comes to its end whatever fails. Each fallback is
asked for exactly if the command before it did not exit with the code 0, and the answers make the
report, which the lines tell without an error. -/
theorem stop_reported (settings : Settings) (session : Session) :
    let (result, after, journal) := (run settings).run Session.host (session, [])
    journal.answers = session.answersTo journal.commands ∧
      match result with
      | .error why => why = .interrupted ∧ .interrupted ∈ journal.answers
      | .ok report =>
        .interrupted ∉ journal.answers ∧
        after.interruptPending = session.interruptPending ∧
        ∃ stop kill deletion listing : Answer,
          journal.calls = .ran .capture ⟨"tilt", ["down"]⟩ stop ::
            (fallback stop.succeeded ⟨"pkill", ["-f", "tilt up"]⟩ kill ++
              .ran .capture ⟨"kind", ["delete", "cluster", "--name", settings.clusterName]⟩
                deletion ::
              fallback deletion.succeeded ⟨"kind", ["get", "clusters"]⟩ listing) ∧
          report.orchestrator = (if stop.succeeded then .graceful
            else if kill.succeeded then .killed else .notRunning) ∧
          report.cluster = (if deletion.succeeded then .deleted
            else if listing.lists settings.clusterName then .incomplete else .alreadyAbsent) ∧
          journal.lines = narrative report ∧
          journal.alarms = [] ∧
          journal.lines.filter Line.isWarning =
            (if report.orchestrator = .notRunning then [orchestratorLine .notRunning] else []) ++
              (if report.cluster = .incomplete then [clusterLine .incomplete] else []) := by
  have ends := ends_dialogue Session.host (run settings) (session, [])
  have replies := replies_dialogue Session.host (run settings) (session, [])
  generalize (run settings).run Session.host (session, []) = outcome at ends replies
  generalize (run settings).dialogue Session.host (session, []) = dialogue at ends replies
  obtain ⟨result, after, journal⟩ := outcome
  obtain rfl : journal = dialogue.journal := Session.replies_journal replies
  have heeded := run_heeds settings _ _ ends
  have course := course_of_ends ends
  refine ⟨Session.replies_answers replies, ?_⟩
  cases result with
  | error why =>
      obtain rfl := course.unfailing
      exact ⟨rfl, heeded.mem_answers⟩
  | ok report =>
      have calm := heeded.calm_of_ne (by simp)
      have unchanged := (Session.replies_pending replies).trans calm.pendingAfter
      obtain ⟨stop, kill, deletion, listing, recorded, orchestrator, cluster⟩ := course.reported
      -- Which fallbacks were asked for changes the commands of a stop, but not its lines.
      have told : Journal.lines dialogue.journal = narrative report := by
        rw [recorded]
        cases stop.succeeded <;> cases deletion.succeeded <;> rfl
      refine ⟨calm.not_mem_answers, unchanged, stop, kill, deletion, listing, ?_, orchestrator,
        cluster, told, course.unalarmed.alarms, ?_⟩
      · rw [recorded]
        cases stop.succeeded <;> cases deletion.succeeded <;> rfl
      · rw [told]
        exact narrative_warnings report

end Shutdown

end DevCluster
