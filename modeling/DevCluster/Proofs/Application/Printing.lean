import DevCluster.Proofs.Application.Classification
import DevCluster.Proofs.Application.ExitCode
import DevCluster.Proofs.Console
import DevCluster.Proofs.Startup.Transcript

/-!
What a run leaves on the standard output. All texts but those of a start that quote the settings are
on one row each, so only the settings can make a row that is no line of its own.
-/

namespace DevCluster

open Exchange Dialogue Routine Line Console

theorem describeExit_unbroken (code : ExitCode) : '\n' ∉ (describeExit code).toList := by
  cases code with
  | none => decide
  | some code =>
      have digits (number : Nat) : '\n' ∉ number.repr.toList := by
        rw [Nat.toList_repr]
        intro member
        have digit := Nat.isDigit_of_mem_toDigits (by omega) (by omega) member
        cases digit
      have sign : '\n' ∉ "-".toList := by decide
      rw [describeExit, Int.toString_eq_repr, Int.repr_eq_if]
      split
      · exact digits _
      · rw [String.toList_append, List.mem_append]
        exact not_or.mpr ⟨sign, digits _⟩

namespace Dialogue

theorem lines_said (line : Line) : Journal.lines (said line).record?.toList = [line] := rfl

theorem lines_noted (event : Event) : Journal.lines (noted event).record?.toList = [] := rfl

end Dialogue

namespace Startup

variable {settings : Settings} {dialogue : Dialogue} {line : Line}

/-- What a start can say that quotes its settings. -/
def quotations (settings : Settings) : List Line :=
  contextSet settings :: contextWarning settings :: (launchLines settings).tail

theorem mem_quotations :
    line ∈ quotations settings ↔
      line = contextSet settings ∨ line = contextWarning settings ∨
        line = .detail s!"Tilt UI: {settings.orchestratorUrl}" ∨
        line = .detail s!"PostgreSQL: {settings.databaseHint} (via Tilt port forward)" := by
  simp [quotations, launchLines]

theorem quotations_unbroken (context : '\n' ∉ settings.kubeContext.toList)
    (address : '\n' ∉ settings.orchestratorUrl.toList)
    (hint : '\n' ∉ settings.databaseHint.toList) (quoting : line ∈ quotations settings) :
    '\n' ∉ line.text.toList := by
  rcases mem_quotations.mp quoting with rfl | rfl | rfl | rfl
  · simp [contextSet, Line.text, toString, context]
  · simp [contextWarning, Line.text, toString, context]
  · simp [Line.text, toString, address]
  · simp [Line.text, toString, hint]

theorem quotations_shown (quoting : line ∈ quotations settings) : line.channel = .stdout := by
  rcases mem_quotations.mp quoting with rfl | rfl | rfl | rfl <;> rfl

theorem Course.overflow_eq_nil {result : Except Stop StartOutcome}
    (course : Course settings dialogue result) (told : line ∈ dialogue.journal.lines)
    (own : line ∉ quotations settings) : line.overflow = [] := by
  simp only [mem_quotations, not_or] at own
  refine Line.overflow_eq_nil ?_
  rcases course.mem_lines.mp told with rfl | ⟨docker, _, member⟩ | ⟨shell, _, rfl⟩ |
    ⟨kubectl, _, member⟩ | ⟨tilt, _, member⟩ | ⟨_, member⟩ | ⟨code, _, _, rfl⟩
  · decide
  · rcases mem_daemonLines.mp member with rfl | ⟨_, rfl⟩ <;> decide
  · decide
  · have opens : line = .info "Setting kubeconfig context..." := by
      simpa [own] using mem_contextLines.mp member
    subst opens
    decide
  · have opens : line = .info "🎯 Starting Tilt..." := by
      simp_all [launchLines]
    subst opens
    decide
  · simp only [interruptReport, List.mem_cons, List.not_mem_nil, or_false] at member
    rcases member with rfl | rfl | rfl | rfl | rfl | rfl <;> decide
  · simp [orchestratorWarning, Line.text, toString, describeExit_unbroken]

end Startup

namespace Shutdown

variable {settings : Settings} {dialogue : Dialogue}

def repertoire : List Line := [
  farewell, stopping, orchestratorLine .graceful, orchestratorLine .killed,
  orchestratorLine .notRunning, deleting, clusterLine .deleted, clusterLine .incomplete,
  clusterLine .alreadyAbsent, summary]

theorem Attempted.unsaid {command : Command} {result : Except Stop Bool}
    (attempted : Attempted command dialogue result) : dialogue.journal.lines = [] := by
  cases attempted <;> rfl

theorem ListingRead.unsaid {cluster : String} {result : Except Stop Bool}
    (read : ListingRead cluster dialogue result) : dialogue.journal.lines = [] := by
  cases read <;> rfl

theorem OrchestratorStopping.lines_subset {result : Except Stop OrchestratorStop}
    (course : OrchestratorStopping dialogue result) : dialogue.journal.lines ⊆ repertoire := by
  cases course with
  | stopAbandoned stop => simp [Journal.lines_append, lines_said, stop.unsaid, repertoire]
  | graceful stop =>
      simp [Journal.lines_append, lines_said, stop.unsaid, repertoire, orchestratorLine]
  | killAbandoned stop kill =>
      simp [Journal.lines_append, lines_said, stop.unsaid, kill.unsaid, repertoire]
  | killed stop kill =>
      simp [Journal.lines_append, lines_said, stop.unsaid, kill.unsaid, repertoire,
        orchestratorLine]
  | notRunning stop kill =>
      simp [Journal.lines_append, lines_said, stop.unsaid, kill.unsaid, repertoire,
        orchestratorLine]

theorem ClusterDeletion.lines_subset {cluster : String} {result : Except Stop ClusterCleanup}
    (course : ClusterDeletion cluster dialogue result) : dialogue.journal.lines ⊆ repertoire := by
  cases course with
  | deletionAbandoned deletion =>
      simp [Journal.lines_append, lines_said, deletion.unsaid, repertoire]
  | deleted deletion =>
      simp [Journal.lines_append, lines_said, deletion.unsaid, repertoire, clusterLine]
  | listingAbandoned deletion listing =>
      simp [Journal.lines_append, lines_said, deletion.unsaid, listing.unsaid, repertoire]
  | incomplete deletion listing =>
      simp [Journal.lines_append, lines_said, deletion.unsaid, listing.unsaid, repertoire,
        clusterLine]
  | alreadyAbsent deletion listing =>
      simp [Journal.lines_append, lines_said, deletion.unsaid, listing.unsaid, repertoire,
        clusterLine]

theorem Course.lines_subset {result : Except Stop StopReport}
    (course : Course settings dialogue result) : dialogue.journal.lines ⊆ repertoire := by
  have ends : farewell ∈ repertoire ∧ summary ∈ repertoire := by simp [repertoire]
  cases course with
  | orchestratorAbandoned first =>
      simp [Journal.lines_append, lines_said, first.lines_subset, ends]
  | clusterAbandoned first second =>
      simp [Journal.lines_append, lines_said, first.lines_subset, second.lines_subset, ends]
  | complete first second =>
      simp [Journal.lines_append, lines_said, lines_noted, first.lines_subset, second.lines_subset,
        ends]

theorem Course.overflow_eq_nil {result : Except Stop StopReport} {line : Line}
    (course : Course settings dialogue result) (told : line ∈ dialogue.journal.lines) :
    line.overflow = [] := by
  have unbroken : ∀ line ∈ repertoire, '\n' ∉ line.text.toList := by decide
  exact Line.overflow_eq_nil (unbroken line (course.lines_subset told))

end Shutdown

theorem FailureKind.hint_unbroken {kind : FailureKind} {hint : String}
    (hinted : kind.hint = some hint) : '\n' ∉ hint.toList := by
  cases kind with
  | daemonUnavailable =>
      cases hinted
      decide
  | bootstrap detail =>
      cases hinted
      decide
  | _ => cases hinted

namespace Application

variable {dialogue : Dialogue} {action : Action} {line : Line}

theorem report_overflow_eq_nil {failure : Failure} {result : Except Stop Int}
    (ends : (report failure).Ends dialogue result) (told : line ∈ dialogue.journal.lines)
    (shown : line.channel = .stdout) : line.overflow = [] := by
  cases first : failure.firstKind? with
  | none =>
      obtain ⟨-, rfl⟩ := report_ends_of_none first ends
      obtain rfl := List.mem_singleton.mp told
      cases shown
  | some found =>
      obtain ⟨kind, source⟩ := found
      have tells := (told_of_report first ends silent_nil).2.lines
      rw [List.append_nil] at tells
      rw [tells, List.mem_cons, List.mem_map] at told
      rcases told with rfl | ⟨hint, hinted, rfl⟩
      · cases shown
      · exact overflow_eq_nil (kind.hint_unbroken (Option.mem_toList.mp hinted))

theorem loadSettings_unsaid {result : Except Stop Settings}
    (ends : loadSettings.Ends dialogue result) : dialogue.journal = [] := by
  obtain ⟨file, rest, rfl, silent, _⟩ := loadSettings_ends ends
  exact silent.journal

theorem perform_overflow {settings : Settings} {result : Except Stop Unit}
    (ends : (action.perform settings).Ends dialogue result)
    (told : line ∈ dialogue.journal.lines) :
    line.overflow = [] ∨ action = .up ∧ line ∈ Startup.quotations settings := by
  cases action with
  | up =>
      obtain ⟨own, outcome, rest, started, rfl, silent, rfl⟩ := Action.up_ends ends
      have said : line ∈ own.journal.lines := by
        simpa [silent.journal, record?] using told
      by_cases quoting : line ∈ Startup.quotations settings
      · exact .inr ⟨rfl, quoting⟩
      · exact .inl ((Startup.course_of_ends started).overflow_eq_nil said quoting)
  | down =>
      have surrounded : ∃ own outcome rest, (Shutdown.run settings).Ends own outcome ∧
          result = outcome.map (fun _ => ()) ∧ Silent rest ∧
          dialogue = entered (.stop settings.clusterName) :: (own ++ rest) :=
        Action.surrounded_ends rfl ends
      obtain ⟨own, outcome, rest, stopped, rfl, silent, rfl⟩ := surrounded
      have said : line ∈ own.journal.lines := by
        simpa [silent.journal, record?] using told
      exact .inl ((Shutdown.course_of_ends stopped).overflow_eq_nil said)
  | completions shell =>
      rw [(Action.completions_ends ends).1.journal] at told
      cases told

/-- Only a start that has read its settings can say more than a row at once. -/
theorem run_overflow {result : Except Stop Int} (ends : (run action).Ends dialogue result)
    (told : line ∈ dialogue.journal.lines) (shown : line.channel = .stdout) :
    line.overflow = [] ∨ action = .up ∧ ∃ settings loading rest, dialogue = loading ++ rest ∧
      loadSettings.Ends loading (.ok settings) ∧ line ∈ Startup.quotations settings := by
  obtain ⟨own, acted, rest, acts, rfl, reported⟩ := run_ends ends
  rw [journal_append, Journal.lines_append, List.mem_append] at told
  rcases told with told | told
  · rcases ends_bind.mp acts with ⟨why, rfl, loaded⟩ |
      ⟨settings, loading, _, rfl, loaded, performed⟩
    · rw [loadSettings_unsaid loaded] at told
      cases told
    · rw [journal_append, loadSettings_unsaid loaded] at told
      rcases perform_overflow performed told with single | ⟨rfl, quoting⟩
      · exact .inl single
      · refine .inr ⟨rfl, settings, loading, _, List.append_assoc .., loaded, quoting⟩
  · left
    rcases acted with (_ | failure) | ⟨⟩
    · obtain ⟨-, rfl⟩ := reported
      cases told
    · obtain ⟨telling, last, rfl, silent, tells⟩ := reported
      rw [journal_append, silent.journal, List.append_nil] at told
      exact report_overflow_eq_nil tells told shown
    · rw [reported.2.journal] at told
      cases told

/-- What a run prints is faithful whatever the host answers, unless the run is a start and a line
that quotes its settings overflows into a row that is neither empty nor indented. That takes a line
feed in one of the three settings that are quoted. -/
theorem run_faithful_iff {σ : Type} (host : Host σ) (action : Action) (state : σ) :
    let lines := ((run action).dialogue host state).journal.lines
    let loaded := (loadSettings.run host state).1
    (Faithful lines ↔ action = .up → ∀ settings, loaded = .ok settings →
      ∀ line ∈ Startup.quotations settings, line ∈ lines →
        ∀ row ∈ line.overflow, Continues row) ∧
    (action ≠ .up → Faithful lines) ∧
    ((∀ settings, loaded = .ok settings → '\n' ∉ settings.kubeContext.toList ∧
      '\n' ∉ settings.orchestratorUrl.toList ∧ '\n' ∉ settings.databaseHint.toList) →
        Faithful lines) := by
  intro lines loaded
  have overflowing {line : Line} (told : line ∈ lines) (shown : line.channel = .stdout) :
      line.overflow = [] ∨ action = .up ∧
        ∃ settings, loaded = .ok settings ∧ line ∈ Startup.quotations settings := by
    have ends := ends_dialogue host (run action) state
    rcases run_overflow ends told shown with single |
      ⟨rfl, settings, loading, rest, split, ended, quoting⟩
    · exact .inl single
    · have replies := replies_dialogue host (run .up) state
      rw [split] at replies
      obtain ⟨between, first, -⟩ := Host.replies_append.mp replies
      exact .inr ⟨rfl, settings, congrArg Prod.fst (run_of_ends ended first), quoting⟩
  have exactly : Faithful lines ↔ action = .up → ∀ settings, loaded = .ok settings →
      ∀ line ∈ Startup.quotations settings, line ∈ lines →
        ∀ row ∈ line.overflow, Continues row := by
    rw [faithful_iff]
    constructor
    · intro continued _ settings _ line quoting told
      exact continued line told (Startup.quotations_shown quoting)
    · intro continued line told shown row member
      rcases overflowing told shown with single | ⟨starts, settings, read, quoting⟩
      · rw [single] at member
        cases member
      · exact continued starts settings read line quoting told row member
  refine ⟨exactly, fun other => exactly.mpr fun starts => absurd starts other, fun unbroken => ?_⟩
  refine exactly.mpr fun starts settings read line quoting told row member => ?_
  obtain ⟨context, address, hint⟩ := unbroken settings read
  rw [overflow_eq_nil (Startup.quotations_unbroken context address hint quoting)] at member
  cases member

/-- A session's host where the settings are read from a document. -/
def hostReading (document : String) : Host (Session × Journal) where
  perform
    | .settingsFile, state => ({ path := "dev.toml", content := .text document }, state)
    | asked, state => Session.host.perform asked state

/-- An address can be chosen so that the output shows a warning that no line gives. -/
theorem run_forged :
    let document := "orchestrator_ui_url = \"http://localhost:10350\\n[WARN] leftover\""
    let lines := ((run .up).dialogue (hostReading document) ({}, [])).journal.lines
    ¬ Faithful lines ∧ "[WARN] leftover".toList ∈ rows lines ∧ ∀ text, .warn text ∉ lines := by
  intro document lines
  have told : lines = [Startup.welcome, .info "Checking Docker daemon...", Startup.daemonRunning,
      Startup.bootstrapping, .info "Setting kubeconfig context...",
      .info "✅ Context set to kind-lifeguard-test", .info "🎯 Starting Tilt...",
      .detail "Tilt UI: http://localhost:10350\n[WARN] leftover",
      .detail "PostgreSQL: localhost:5432 (via Tilt port forward)"] := by
    decide +kernel
  rw [told]
  have overflows : "[WARN] leftover".toList ∈
      overflow (.detail "Tilt UI: http://localhost:10350\n[WARN] leftover") := by decide
  refine ⟨fun faithful => ?_, mem_rows_of_overflow (by simp) rfl overflows, fun text warned => ?_⟩
  · rcases faithful_iff.mp faithful _ (by simp) rfl _ overflows with empty | ⟨rest, indented⟩
    · cases empty
    · cases indented
  · simp [Startup.welcome, Startup.daemonRunning, Startup.bootstrapping] at warned

end Application

end DevCluster
