import DevCluster.Proofs.Shutdown.Report
import DevCluster.Proofs.Startup.Exit

/-!
What a start tells the operator: for each command that was asked for, what its answer gave rise to,
and then the outcome. So the lines tell how the start ended.
-/

namespace DevCluster

open Exchange Dialogue Routine

theorem describeExit_injective : Function.Injective describeExit := by
  have numeric (code : Int) : toString code ≠ "a signal" := by
    intro same
    have read : "a signal".toInt? = none := by cbv
    rw [← same, Int.toString_eq_repr, Int.toInt?_repr] at read
    cases read
  intro first second same
  cases first with
  | none =>
      cases second with
      | none => rfl
      | some code => exact absurd same.symm (numeric code)
  | some code =>
      cases second with
      | none => exact absurd same (numeric code)
      | some other => exact congrArg some (Int.repr_inj.mp same)

theorem Journal.exists_succeeded {journal : Journal} {mode : Mode} {command : Command} :
    (∃ answer, .ran mode command answer ∈ journal ∧ answer.succeeded = true) ↔
      ∃ output, .ran mode command (.ended output) ∈ journal ∧ output.code = some 0 := by
  simp [Answer.exists_iff, Answer.succeeded]

namespace Startup

def daemonRunning : Line := .info "✅ Docker daemon is running"

def daemonLines (docker : Answer) : List Line :=
  .info "Checking Docker daemon..." :: if docker.succeeded then [daemonRunning] else []

def bootstrapping : Line := .info "Setting up Kind cluster..."

def contextSet (settings : Settings) : Line := .info s!"✅ Context set to {settings.kubeContext}"

def contextLines (settings : Settings) (kubectl : Answer) : List Line :=
  .info "Setting kubeconfig context..." ::
    ((if kubectl.succeeded then [contextSet settings] else []) ++
      if kubectl.fails then [contextWarning settings] else [])

def launchLines (settings : Settings) : List Line :=
  [.info "🎯 Starting Tilt...", .detail s!"Tilt UI: {settings.orchestratorUrl}",
    .detail s!"PostgreSQL: {settings.databaseHint} (via Tilt port forward)"]

def orchestratorWarning (text : String) : Line := .warn s!"Tilt exited with status {text}"

/-- What each command in turn makes a start say, by its answer. -/
def tellings (settings : Settings) : List (Answer → List Line) :=
  [daemonLines, fun _ => [bootstrapping], contextLines settings, fun _ => launchLines settings]

def told (settings : Settings) (answers : List Answer) : List Line :=
  (List.zipWith (fun telling answer => telling answer) (tellings settings) answers).flatten

def outcomeLines : Except Stop StartOutcome → List Line
  | .ok .interrupted => interruptReport
  | .ok (.exited code) =>
    if code = some 0 then [] else [orchestratorWarning (describeExit code)]
  | .error _ => []

variable {settings : Settings} {dialogue : Dialogue}

theorem ToolSearch.unsaid {tools : List String} {result : Except Stop Unit}
    (search : ToolSearch tools dialogue result) : dialogue.journal.lines = [] := by
  induction search with
  | complete => rfl
  | missing => rfl
  | found _ ih => exact ih

theorem DaemonCheck.told {result : Except Stop Unit} (check : DaemonCheck dialogue result) :
    ∃ docker, dialogue.journal.answers = [docker] ∧
      dialogue.journal.lines = daemonLines docker := by
  cases check with
  | @running output success =>
      refine ⟨.ended output, rfl, ?_⟩
      simp [daemonLines, Answer.succeeded, success]
      rfl
  | @refused output failure =>
      refine ⟨.ended output, rfl, ?_⟩
      simp [daemonLines, Answer.succeeded, failure]
      rfl
  | notRun => exact ⟨_, rfl, rfl⟩
  | interrupted => exact ⟨_, rfl, rfl⟩

theorem ClusterBootstrap.told {result : Except Stop Unit}
    (step : ClusterBootstrap settings dialogue result) :
    ∃ shell, dialogue.journal.answers = [shell] ∧ dialogue.journal.lines = [bootstrapping] := by
  cases step with
  | ready => exact ⟨_, rfl, rfl⟩
  | refused => exact ⟨_, rfl, rfl⟩
  | notRun => exact ⟨_, rfl, rfl⟩
  | interrupted => exact ⟨_, rfl, rfl⟩

theorem ContextChoice.told {result : Except Stop Bool}
    (choice : ContextChoice settings dialogue result) :
    ∃ kubectl, dialogue.journal.answers = [kubectl] ∧
      dialogue.journal.lines = contextLines settings kubectl := by
  cases choice with
  | @switched output success =>
      refine ⟨.ended output, rfl, ?_⟩
      simp [contextLines, Answer.succeeded, Answer.fails, success]
      rfl
  | @refused output failure =>
      refine ⟨.ended output, rfl, ?_⟩
      simp [contextLines, Answer.succeeded, Answer.fails, failure]
      rfl
  | notRun => exact ⟨_, rfl, rfl⟩
  | interrupted => exact ⟨_, rfl, rfl⟩

theorem Preparation.told {result : Except Stop Unit}
    (preparation : Preparation settings dialogue result) :
    dialogue.journal.lines = Startup.told settings dialogue.journal.answers := by
  have whole {daemon cluster context : Dialogue} {checked booted : Except Stop Unit}
      {chosen : Except Stop Bool} (check : DaemonCheck daemon checked)
      (step : ClusterBootstrap settings cluster booted)
      (choice : ContextChoice settings context chosen) :
      (journal (daemon ++ (cluster ++ context))).lines =
        Startup.told settings (journal (daemon ++ (cluster ++ context))).answers := by
    obtain ⟨docker, first, checking⟩ := check.told
    obtain ⟨shell, second, booting⟩ := step.told
    obtain ⟨kubectl, third, choosing⟩ := choice.told
    simp [Journal.lines_append, Journal.answers_append, first, second, third, checking, booting,
      choosing, Startup.told, tellings]
  cases preparation with
  | daemonStops check =>
      obtain ⟨docker, first, checking⟩ := check.told
      simp [first, checking, Startup.told, tellings]
  | bootstrapStops check step =>
      obtain ⟨docker, first, checking⟩ := check.told
      obtain ⟨shell, second, booting⟩ := step.told
      simp [Journal.lines_append, Journal.answers_append, first, second, checking, booting,
        Startup.told, tellings]
  | choiceStops check step choice => exact whole check step choice
  | complete check step choice => exact whole check step choice

theorem Launch.told {result : Except Stop StartOutcome}
    (launch : Launch settings dialogue result) :
    ∃ tilt, dialogue.journal.answers = [tilt] ∧ dialogue.journal.lines = launchLines settings := by
  cases launch with
  | exited => exact ⟨_, rfl, rfl⟩
  | interrupted => exact ⟨_, rfl, rfl⟩
  | notRun => exact ⟨_, rfl, rfl⟩

theorem reportDialogue_told (settings : Settings) (outcome : StartOutcome) :
    (reportDialogue settings outcome).journal.answers = [] ∧
      (reportDialogue settings outcome).journal.lines = outcomeLines (.ok outcome) := by
  refine ⟨(reportDialogue_quiet outcome).answers, ?_⟩
  cases outcome with
  | interrupted => rfl
  | exited code =>
      simp only [reportDialogue, outcomeLines]
      split
      · rfl
      · rfl

theorem Preparation.told_launched {launch : Dialogue} {result : Except Stop StartOutcome}
    (preparation : Preparation settings dialogue (.ok ()))
    (launched : Launch settings launch result) :
    (journal (dialogue ++ launch)).lines =
      Startup.told settings (journal (dialogue ++ launch)).answers := by
  obtain ⟨docker, shell, kubectl, _, _, _, called⟩ := preparation.answered
  have answered : dialogue.journal.answers = [.ended docker, .ended shell, kubectl] := by
    rw [← Journal.answers_calls, called]
    rfl
  obtain ⟨tilt, last, launching⟩ := launched.told
  rw [journal_append, Journal.lines_append, Journal.answers_append, preparation.told, launching,
    answered, last]
  simp [Startup.told, tellings]

theorem ToolSearch.told {search rest : Dialogue} {result : Except Stop Unit}
    (searched : ToolSearch requiredTools search result) :
    (journal (said welcome :: (search ++ rest))).lines = welcome :: rest.journal.lines ∧
      (journal (said welcome :: (search ++ rest))).answers = rest.journal.answers := by
  constructor
  · rw [journal_cons, journal_append, Journal.lines_append, Journal.lines_append, searched.unsaid]
    rfl
  · rw [journal_cons, journal_append, Journal.answers_append, Journal.answers_append,
      searched.quiet.answers]
    rfl

theorem journal_taken (pending : Bool) (rest : Dialogue) :
    journal (taken pending :: rest) = rest.journal := rfl

/-- The lines of a start are decided by the answers it got and by how it ends. -/
theorem Course.told {result : Except Stop StartOutcome}
    (course : Course settings dialogue result) :
    dialogue.journal.lines =
      welcome :: (Startup.told settings dialogue.journal.answers ++ outcomeLines result) := by
  have reported (outcome : StartOutcome) {rest : Dialogue}
      (lines : rest.journal.lines = Startup.told settings rest.journal.answers) :
      (journal (rest ++ reportDialogue settings outcome)).lines =
        Startup.told settings (journal (rest ++ reportDialogue settings outcome)).answers ++
          outcomeLines (.ok outcome) := by
    obtain ⟨unanswered, reporting⟩ := reportDialogue_told settings outcome
    rw [journal_append, Journal.lines_append, Journal.answers_append, unanswered, reporting, lines,
      List.append_nil]
  cases course with
  | @toolMissing search why searched =>
      rw [← List.append_nil search, searched.told.1, searched.told.2]
      rfl
  | alreadyInterrupted searched =>
      rw [searched.told.1, searched.told.2, journal_taken]
      have nothing : (journal []).lines = Startup.told settings (journal []).answers := rfl
      exact congrArg _ (reported .interrupted nothing)
  | preparationFailed searched preparation =>
      rw [searched.told.1, searched.told.2, journal_taken, preparation.told]
      exact congrArg _ (List.append_nil _).symm
  | @preparationInterrupted search preparation pending searched prepared =>
      rw [searched.told.1, searched.told.2, journal_taken]
      have interrupted : (journal (preparation ++ [taken pending])).lines =
          Startup.told settings (journal (preparation ++ [taken pending])).answers := by
        rw [journal_append, journal_taken, journal_nil, List.append_nil, prepared.told]
      have whole := reported .interrupted interrupted
      rw [List.append_assoc] at whole
      exact congrArg _ whole
  | launchFailed searched preparation launch =>
      rw [searched.told.1, searched.told.2, journal_taken, preparation.told_launched launch]
      exact congrArg _ (List.append_nil _).symm
  | launched searched preparation launch =>
      rw [searched.told.1, searched.told.2, journal_taken, ← List.append_assoc]
      exact congrArg _ (reported _ (preparation.told_launched launch))

/-- The commands of a start are the only ones it runs, each answered once. -/
theorem Course.ran_iff {result : Except Stop StartOutcome} {mode : Mode} {command : Command}
    {answer : Answer} (course : Course settings dialogue result) :
    .ran mode command answer ∈ dialogue.journal ↔
      .ran mode command answer ∈ asked (commands settings) dialogue.journal.answers := by
  rcases course.gated with ⟨search, why, rfl, searched, rfl⟩ |
    ⟨search, pending, rest, answers, rfl, searched, gates, called, rfl, settled⟩
  · have quiet : Quiet (said welcome :: search) := by
      simp [searched.quiet, asksCommand, taken?]
    refine ⟨fun ran => absurd ran quiet.not_mem_journal, fun ran => ?_⟩
    rw [quiet.answers] at ran
    cases ran
  · have calls := calls_opening rest pending searched
    rw [called] at calls
    rw [← Journal.mem_calls_ran, calls, (gates.commands_and_answers calls).2]
    simp

theorem mem_asked_choice {answers : List Answer} {answer : Answer} :
    .ran .capture (contextSwitch settings) answer ∈ asked (commands settings) answers ↔
      answers[2]? = some answer :=
  mem_asked commands_nodup rfl

theorem mem_told {answers : List Answer} {line : Line} :
    line ∈ told settings answers ↔
      (∃ docker, answers[0]? = some docker ∧ line ∈ daemonLines docker) ∨
      (∃ shell, answers[1]? = some shell ∧ line = bootstrapping) ∨
      (∃ kubectl, answers[2]? = some kubectl ∧ line ∈ contextLines settings kubectl) ∨
      ∃ tilt, answers[3]? = some tilt ∧ line ∈ launchLines settings := by
  rcases answers with _ | ⟨docker, _ | ⟨shell, _ | ⟨kubectl, _ | ⟨tilt, _⟩⟩⟩⟩ <;>
    simp [told, tellings]

theorem mem_outcomeLines {result : Except Stop StartOutcome} {line : Line} :
    line ∈ outcomeLines result ↔
      (result = .ok .interrupted ∧ line ∈ interruptReport) ∨
      ∃ code, result = .ok (.exited code) ∧ code ≠ some 0 ∧
        line = orchestratorWarning (describeExit code) := by
  rcases result with why | ⟨code | _⟩
  · simp [outcomeLines]
  · by_cases success : code = some 0 <;> simp [outcomeLines, success]
  · simp [outcomeLines]

theorem mem_daemonLines {docker : Answer} {line : Line} :
    line ∈ daemonLines docker ↔
      line = .info "Checking Docker daemon..." ∨
        docker.succeeded = true ∧ line = daemonRunning := by
  unfold daemonLines
  split <;> simp_all

theorem mem_contextLines {kubectl : Answer} {line : Line} :
    line ∈ contextLines settings kubectl ↔
      line = .info "Setting kubeconfig context..." ∨
        kubectl.succeeded = true ∧ line = contextSet settings ∨
        kubectl.fails = true ∧ line = contextWarning settings := by
  unfold contextLines
  split <;> split <;> simp_all

/-- Every line of a start has its cause. -/
theorem Course.mem_lines {result : Except Stop StartOutcome} {line : Line}
    (course : Course settings dialogue result) :
    line ∈ dialogue.journal.lines ↔
      line = welcome ∨
      (∃ docker, .ran .capture daemonCheck docker ∈ dialogue.journal ∧
        line ∈ daemonLines docker) ∨
      (∃ shell, .ran .attached (bootstrap settings) shell ∈ dialogue.journal ∧
        line = bootstrapping) ∨
      (∃ kubectl, .ran .capture (contextSwitch settings) kubectl ∈ dialogue.journal ∧
        line ∈ contextLines settings kubectl) ∨
      (∃ tilt, .ran .foreground orchestrator tilt ∈ dialogue.journal ∧
        line ∈ launchLines settings) ∨
      (result = .ok .interrupted ∧ line ∈ interruptReport) ∨
      ∃ code, result = .ok (.exited code) ∧ code ≠ some 0 ∧
        line = orchestratorWarning (describeExit code) := by
  simp only [course.ran_iff, mem_asked_daemon, mem_asked_bootstrap, mem_asked_choice,
    mem_asked_orchestrator]
  rw [course.told, List.mem_cons, List.mem_append, mem_told, mem_outcomeLines]
  simp only [or_assoc]

theorem Course.exited_iff {result : Except Stop StartOutcome} {code : ExitCode}
    (course : Course settings dialogue result) :
    result = .ok (.exited code) ↔
      ∃ output, .ran .foreground orchestrator (.ended output) ∈ dialogue.journal ∧
        output.code = code := by
  simp only [course.ran_iff, mem_asked_orchestrator]
  rcases course.gated with ⟨search, why, rfl, searched, rfl⟩ |
    ⟨search, pending, rest, answers, rfl, searched, gates, called, rfl, settled⟩
  · have unanswered : (journal (said welcome :: search)).answers = [] := by
      rw [← List.append_nil search, searched.told.2]
      rfl
    rw [unanswered]
    simp
  · have calls := calls_opening rest pending searched
    rw [called] at calls
    rw [(gates.commands_and_answers calls).2]
    cases gates with
    | @launched _ _ kubectl tilt docker shell returned => cases tilt <;> simp [resultOf]
    | _ => simp [resultOf]

variable {journal : Journal} {result : Except Stop StartOutcome}

/-- Each line that a start can say with what has it said, save what it says of Tilt's exit. -/
def causes (settings : Settings) (journal : Journal) (result : Except Stop StartOutcome) :
    List (Line × Prop) :=
  [(welcome, True),
    (.info "Checking Docker daemon...", ∃ docker, .ran .capture daemonCheck docker ∈ journal),
    (daemonRunning,
      ∃ docker, .ran .capture daemonCheck docker ∈ journal ∧ docker.succeeded = true),
    (bootstrapping, ∃ shell, .ran .attached (bootstrap settings) shell ∈ journal),
    (.info "Setting kubeconfig context...",
      ∃ kubectl, .ran .capture (contextSwitch settings) kubectl ∈ journal),
    (contextSet settings,
      ∃ kubectl, .ran .capture (contextSwitch settings) kubectl ∈ journal ∧
        kubectl.succeeded = true),
    (contextWarning settings,
      ∃ kubectl, .ran .capture (contextSwitch settings) kubectl ∈ journal ∧
        kubectl.fails = true)] ++
  (launchLines settings).map (·, ∃ tilt, .ran .foreground orchestrator tilt ∈ journal) ++
  interruptReport.map (·, result = .ok .interrupted)

theorem causes_unwarned (text : String) {entry : Line × Prop}
    (listed : entry ∈ causes settings journal result) : entry.1 ≠ orchestratorWarning text := by
  revert entry
  simp [causes, welcome, daemonRunning, bootstrapping, contextSet, contextWarning, launchLines,
    orchestratorWarning, interruptReport, ← String.toList_inj, toString]

theorem causes_unique {first second : Line × Prop}
    (listed : first ∈ causes settings journal result)
    (also : second ∈ causes settings journal result) (same : first.1 = second.1) :
    first.2 = second.2 := by
  -- Lines are told apart by their characters. The blank ones have one cause, though listed twice.
  have unique : (causes settings journal result).Pairwise
      fun first second => first.1 = second.1 → first.2 = second.2 := by
    simp [causes, welcome, daemonRunning, bootstrapping, contextSet, contextWarning, launchLines,
      interruptReport, ← String.toList_inj, toString]
  have : Std.Symm fun first second : Line × Prop => first.1 = second.1 → first.2 = second.2 :=
    ⟨fun _ _ one same => (one same.symm).symm⟩
  exact unique.forall_of_forall (fun _ _ _ => rfl) listed also same

theorem Course.mem_lines_iff_cause {line : Line} (course : Course settings dialogue result) :
    line ∈ dialogue.journal.lines ↔
      (∃ entry ∈ causes settings dialogue.journal result, entry.2 ∧ line = entry.1) ∨
      ∃ code, (result = .ok (.exited code) ∧ code ≠ some 0) ∧
        line = orchestratorWarning (describeExit code) := by
  have mapped (lines : List Line) (cause : Prop) :
      (∃ entry ∈ lines.map (·, cause), entry.2 ∧ line = entry.1) ↔ cause ∧ line ∈ lines := by
    constructor
    · rintro ⟨_, member, happened, rfl⟩
      obtain ⟨_, listed, rfl⟩ := List.mem_map.mp member
      exact ⟨happened, listed⟩
    · rintro ⟨happened, listed⟩
      exact ⟨_, List.mem_map_of_mem listed, happened, rfl⟩
  rw [course.mem_lines]
  simp only [causes, List.mem_append, List.mem_cons, or_and_right, exists_or, exists_eq_left,
    mapped]
  simp [mem_daemonLines, mem_contextLines, and_or_left, exists_or, or_assoc, ← and_assoc]

theorem Course.said_iff {line : Line} {cause : Prop} (course : Course settings dialogue result)
    (listed : (line, cause) ∈ causes settings dialogue.journal result) :
    line ∈ dialogue.journal.lines ↔ cause := by
  rw [course.mem_lines_iff_cause]
  constructor
  · rintro (⟨other, also, happened, same⟩ | ⟨code, _, same⟩)
    · exact (causes_unique listed also same).mpr happened
    · exact absurd same (causes_unwarned _ listed)
  · exact fun happened => .inl ⟨_, listed, happened, rfl⟩

theorem Course.orchestratorWarning_iff {text : String} (course : Course settings dialogue result) :
    orchestratorWarning text ∈ dialogue.journal.lines ↔
      ∃ code, result = .ok (.exited code) ∧ code ≠ some 0 ∧ text = describeExit code := by
  rw [course.mem_lines_iff_cause]
  constructor
  · rintro (⟨entry, listed, _, same⟩ | ⟨code, ⟨ended, failure⟩, same⟩)
    · exact absurd same.symm (causes_unwarned text listed)
    · refine ⟨code, ended, failure, ?_⟩
      simpa [orchestratorWarning, ← String.toList_inj, toString] using same
  · rintro ⟨code, ended, failure, rfl⟩
    exact .inr ⟨code, ⟨ended, failure⟩, rfl⟩

theorem Course.daemonRunning_iff (course : Course settings dialogue result) :
    daemonRunning ∈ dialogue.journal.lines ↔
      ∃ docker, .ran .capture daemonCheck docker ∈ dialogue.journal ∧ docker.succeeded = true :=
  course.said_iff (by simp [causes])

theorem Course.contextSet_iff (course : Course settings dialogue result) :
    contextSet settings ∈ dialogue.journal.lines ↔
      ∃ kubectl, .ran .capture (contextSwitch settings) kubectl ∈ dialogue.journal ∧
        kubectl.succeeded = true :=
  course.said_iff (by simp [causes])

theorem Course.contextWarning_iff (course : Course settings dialogue result) :
    contextWarning settings ∈ dialogue.journal.lines ↔
      ∃ kubectl, .ran .capture (contextSwitch settings) kubectl ∈ dialogue.journal ∧
        kubectl.fails = true :=
  course.said_iff (by simp [causes])

theorem Course.launchDetail_iff {line : Line} (course : Course settings dialogue result)
    (detail : line ∈ (launchLines settings).tail) :
    line ∈ dialogue.journal.lines ↔
      ∃ tilt, .ran .foreground orchestrator tilt ∈ dialogue.journal :=
  course.said_iff (by simp [causes, List.mem_of_mem_tail detail])

theorem Course.interruptLine_iff {line : Line} (course : Course settings dialogue result)
    (interrupting : line ∈ interruptReport) :
    line ∈ dialogue.journal.lines ↔ result = .ok .interrupted :=
  course.said_iff (by simp [causes, interrupting])

/-- All that a start can say of its commands, in order. -/
def repertoire (settings : Settings) : List Line :=
  [.info "Checking Docker daemon...", daemonRunning] ++ ([bootstrapping] ++
    ([.info "Setting kubeconfig context...", contextSet settings, contextWarning settings] ++
      launchLines settings))

theorem told_sublist (settings : Settings) (answers : List Answer) :
    (told settings answers).Sublist (repertoire settings) := by
  have daemon (docker : Answer) : (daemonLines docker).Sublist
      [.info "Checking Docker daemon...", daemonRunning] := by
    unfold daemonLines
    split <;> simp
  have context (kubectl : Answer) : (contextLines settings kubectl).Sublist
      [.info "Setting kubeconfig context...", contextSet settings, contextWarning settings] := by
    unfold contextLines
    split <;> split <;> simp
  have nothing (lines : List Line) : ([] : List Line).Sublist lines := List.nil_sublist lines
  have all (lines : List Line) : lines.Sublist lines := List.Sublist.refl lines
  rcases answers with _ | ⟨docker, _ | ⟨shell, _ | ⟨kubectl, _ | ⟨tilt, others⟩⟩⟩⟩
  · exact nothing _
  · exact (daemon docker).append (nothing _)
  · exact (daemon docker).append ((all _).append (nothing _))
  · exact (daemon docker).append ((all _).append ((context kubectl).append (nothing _)))
  · have launching : (told settings (docker :: shell :: kubectl :: tilt :: others)) =
        daemonLines docker ++ ([bootstrapping] ++ (contextLines settings kubectl ++
          launchLines settings)) := by
      simp [told, tellings]
    rw [launching]
    exact (daemon docker).append ((all _).append ((context kubectl).append (all _)))

theorem outcomeLines_sublist (result : Except Stop StartOutcome) :
    ∃ text, (outcomeLines result).Sublist (orchestratorWarning text :: interruptReport) := by
  rcases result with why | ⟨code | _⟩
  · exact ⟨"", List.nil_sublist _⟩
  · refine ⟨describeExit code, ?_⟩
    simp only [outcomeLines]
    split <;> simp
  · exact ⟨"", List.sublist_cons_self ..⟩

/-- A start says nothing twice, blank lines apart. -/
theorem Course.lines_nodup (course : Course settings dialogue result) :
    (dialogue.journal.lines.filter (· ≠ .blank)).Nodup := by
  obtain ⟨text, ending⟩ := outcomeLines_sublist result
  have whole := (((told_sublist settings dialogue.journal.answers).append ending).cons_cons
    welcome).filter (· ≠ .blank)
  rw [course.told]
  refine List.Nodup.sublist whole ?_
  simp [repertoire, daemonRunning, welcome, bootstrapping, launchLines, contextSet, contextWarning,
    orchestratorWarning, interruptReport, ← String.toList_inj, toString]

/-- Of its two lines about the context, a start says one exactly if kubectl has come to its end. -/
theorem Course.context_told (course : Course settings dialogue result) :
    (contextSet settings ∈ dialogue.journal.lines ∨
        contextWarning settings ∈ dialogue.journal.lines ↔
      ∃ kubectl, .ran .capture (contextSwitch settings) kubectl ∈ dialogue.journal ∧
        kubectl ≠ .interrupted) ∧
    ¬ (contextSet settings ∈ dialogue.journal.lines ∧
      contextWarning settings ∈ dialogue.journal.lines) := by
  rw [course.contextSet_iff, course.contextWarning_iff]
  simp only [course.ran_iff, mem_asked_choice]
  cases dialogue.journal.answers[2]? with
  | none => simp
  | some kubectl => cases kubectl <;> simp [Answer.succeeded, Answer.fails, em]

/-- Starts that say the same have ended alike. -/
theorem Course.outcome_of_lines {others : Settings} {other : Dialogue}
    {first second : StartOutcome} (course : Course settings dialogue (.ok first))
    (another : Course others other (.ok second))
    (same : dialogue.journal.lines = other.journal.lines) : first = second := by
  have interrupted : first = .interrupted ↔ second = .interrupted := by
    have told := course.tells_interrupt
    rw [same, another.tells_interrupt] at told
    simpa using told.symm
  have warned (text : String) :
      (∃ code, first = .exited code ∧ code ≠ some 0 ∧ text = describeExit code) ↔
        ∃ code, second = .exited code ∧ code ≠ some 0 ∧ text = describeExit code := by
    have told : orchestratorWarning text ∈ dialogue.journal.lines ↔ _ :=
      course.orchestratorWarning_iff
    rw [same, another.orchestratorWarning_iff] at told
    simpa using told.symm
  cases first with
  | interrupted => exact (interrupted.mp rfl).symm
  | exited code =>
      cases second with
      | interrupted => exact interrupted.mpr rfl
      | exited other =>
          by_cases success : code = some 0
          · by_cases also : other = some 0
            · rw [success, also]
            · obtain ⟨_, same, failure, _⟩ := (warned _).mpr ⟨other, rfl, also, rfl⟩
              cases same
              exact absurd success failure
          · obtain ⟨_, same, _, described⟩ := (warned _).mp ⟨code, rfl, success, rfl⟩
            rw [same, describeExit_injective described]

/-- The lines of a start tell how it ended, and each of them tells what came of one command. -/
theorem transcript_tells (settings : Settings) (session : Session) :
    let (result, _, journal) := (run settings).run Session.host (session, [])
    let lines := journal.lines
    let kubectl : Command := ⟨"kubectl", ["config", "use-context", settings.kubeContext]⟩
    let switched : Line := .info s!"✅ Context set to {settings.kubeContext}"
    let unswitched : Line :=
      .warn s!"⚠️  Could not set {settings.kubeContext} context, using current context"
    (∀ others another first second,
      let other := (run others).run Session.host (another, [])
      result = .ok first → other.1 = .ok second → lines = other.2.2.lines → first = second) ∧
    (.info "✅ Docker daemon is running" ∈ lines ↔
      ∃ output, .ran .capture ⟨"docker", ["info"]⟩ (.ended output) ∈ journal ∧
        output.code = some 0) ∧
    ((switched ∈ lines ∨ unswitched ∈ lines ↔
        ∃ answer, .ran .capture kubectl answer ∈ journal ∧ answer ≠ .interrupted) ∧
      ¬ (switched ∈ lines ∧ unswitched ∈ lines)) ∧
    (switched ∈ lines ↔
      ∃ output, .ran .capture kubectl (.ended output) ∈ journal ∧ output.code = some 0) ∧
    (∀ text : String, .warn s!"Tilt exited with status {text}" ∈ lines ↔
      ∃ output, .ran .foreground ⟨"tilt", ["up"]⟩ (.ended output) ∈ journal ∧
        output.code ≠ some 0 ∧
        text = match output.code with
          | some code => toString code
          | none => "a signal") ∧
    (∀ line ∈ [
        .detail s!"Tilt UI: {settings.orchestratorUrl}",
        .detail s!"PostgreSQL: {settings.databaseHint} (via Tilt port forward)"],
      line ∈ lines ↔ ∃ answer, .ran .foreground ⟨"tilt", ["up"]⟩ answer ∈ journal) ∧
    (interruptReport <:+ lines ↔ result = .ok .interrupted) ∧
    (∀ line ∈ interruptReport, line ∈ lines ↔ result = .ok .interrupted) ∧
    (∀ why, result = .error why →
      (∀ line ∈ interruptReport, line ∉ lines) ∧
        ∀ text : String, .warn s!"Tilt exited with status {text}" ∉ lines) ∧
    (∀ text, .error text ∉ lines) ∧
    (lines.filter (· ≠ .blank)).Nodup := by
  have course := course_of_ends (ends_dialogue Session.host (run settings) (session, []))
  have replies := replies_dialogue Session.host (run settings) (session, [])
  generalize (run settings).run Session.host (session, []) = outcome at course replies
  generalize (run settings).dialogue Session.host (session, []) = dialogue at course replies
  obtain ⟨result, after, journal⟩ := outcome
  obtain rfl : journal = dialogue.journal := Session.replies_journal replies
  dsimp only at course ⊢
  refine ⟨?_, course.daemonRunning_iff.trans Journal.exists_succeeded, course.context_told,
    course.contextSet_iff.trans Journal.exists_succeeded, fun text => ?_, ?_,
    course.tells_interrupt, fun line => course.interruptLine_iff, ?_, fun text => ?_,
    course.lines_nodup⟩
  · rintro others another first second rfl ended same
    have further := course_of_ends (ends_dialogue Session.host (run others) (another, []))
    have recorded := replies_dialogue Session.host (run others) (another, [])
    rw [ended] at further
    rw [Session.replies_journal recorded] at same
    exact course.outcome_of_lines further same
  · refine course.orchestratorWarning_iff.trans ?_
    simp only [course.exited_iff]
    constructor
    · rintro ⟨_, ⟨output, ran, rfl⟩, failure, rfl⟩
      exact ⟨output, ran, failure, rfl⟩
    · rintro ⟨output, ran, failure, rfl⟩
      exact ⟨_, ⟨output, ran, rfl⟩, failure, rfl⟩
  · exact fun line => course.launchDetail_iff
  · rintro why rfl
    refine ⟨fun line listed told => ?_, fun text told => ?_⟩
    · cases (course.interruptLine_iff listed).mp told
    · obtain ⟨_, impossible, _⟩ := course.orchestratorWarning_iff.mp told
      cases impossible
  · intro told
    have alarmed : Line.error text ∈ dialogue.journal.alarms :=
      List.mem_filter.mpr ⟨told, rfl⟩
    rw [course.unalarmed.alarms] at alarmed
    cases alarmed

end Startup

end DevCluster
