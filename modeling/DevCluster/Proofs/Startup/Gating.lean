import DevCluster.Proofs.Session.Replies
import DevCluster.Proofs.Startup.Heeding

/-!
The gates of a start: which answer to a command lets the next command be asked for, and how the
start ends by the answers it got.
-/

namespace DevCluster.Startup

open Exchange Dialogue Routine

def commands (settings : Settings) : List (Mode × Command) :=
  [(.capture, daemonCheck), (.attached, bootstrap settings), (.capture, contextSwitch settings),
    (.foreground, orchestrator)]

/-- How a start ends by the answers to its commands, once all tools are found. -/
def resultOf (settings : Settings) : List Answer → Except Stop StartOutcome
  | [.ended _] => .error (.failed (.ofKind .daemonUnavailable))
  | [.failed fault] => .error (.failed (.ofRunFault .daemonUnavailable fault))
  | [_, .ended output] =>
    .error (.failed (.ofKind (.bootstrap
      s!"{settings.bootstrapScript} exited with {describeExit output.code}")))
  | [_, .failed fault] =>
    .error (.failed (.ofRunFault (.bootstrap
      s!"could not run {settings.bootstrapScript} with {settings.bootstrapShell}") fault))
  | [_, _, _, .ended output] => .ok (.exited output.code)
  | [_, _, _, .failed fault] =>
    .error (.failed (.ofRunFault (.runtime "could not start tilt") fault))
  | _ => .ok .interrupted

/-- The answers that a start gets, as far as each lets it go on. -/
inductive Gates : Bool → List Answer → Prop
  | pending : Gates true []
  | daemonInterrupted : Gates false [.interrupted]
  | daemonNotRun {fault} : Gates false [.failed fault]
  | daemonRefused {docker : Output} : docker.code ≠ some 0 → Gates false [.ended docker]
  | bootstrapInterrupted {docker : Output} : docker.code = some 0 →
      Gates false [.ended docker, .interrupted]
  | bootstrapNotRun {docker : Output} {fault} : docker.code = some 0 →
      Gates false [.ended docker, .failed fault]
  | bootstrapRefused {docker shell : Output} : docker.code = some 0 → shell.code ≠ some 0 →
      Gates false [.ended docker, .ended shell]
  | choiceInterrupted {docker shell : Output} : docker.code = some 0 → shell.code = some 0 →
      Gates false [.ended docker, .ended shell, .interrupted]
  | launched {docker shell : Output} {kubectl tilt} : docker.code = some 0 → shell.code = some 0 →
      kubectl ≠ .interrupted → Gates false [.ended docker, .ended shell, kubectl, tilt]

def asked (commands : List (Mode × Command)) (answers : List Answer) : Journal :=
  List.zipWith (fun command answer => .ran command.1 command.2 answer) commands answers

variable {settings : Settings} {dialogue : Dialogue}

theorem ContextChoice.answered {switched : Bool}
    (choice : ContextChoice settings dialogue (.ok switched)) :
    ∃ answer, answer ≠ .interrupted ∧
      dialogue.journal.calls = [.ran .capture (contextSwitch settings) answer] := by
  cases choice with
  | switched success => exact ⟨_, by simp, rfl⟩
  | refused failure => exact ⟨_, by simp, rfl⟩
  | notRun => exact ⟨_, by simp, rfl⟩

theorem Preparation.answered (preparation : Preparation settings dialogue (.ok ())) :
    ∃ docker shell : Output, ∃ kubectl, docker.code = some 0 ∧ shell.code = some 0 ∧
      kubectl ≠ .interrupted ∧
      dialogue.journal.calls =
        asked (commands settings) [.ended docker, .ended shell, kubectl] := by
  cases preparation with
  | complete check step choice =>
      cases check with
      | running docker =>
        cases step with
        | ready shell =>
          obtain ⟨answer, returned, called⟩ := choice.answered
          refine ⟨_, _, answer, docker, shell, returned, ?_⟩
          rw [journal_append, journal_append, Journal.calls_append, Journal.calls_append, called]
          rfl

/-- The answer that stops the preparation, and the end of the start that comes of it. -/
theorem Preparation.stopped {why : Stop}
    (preparation : Preparation settings dialogue (.error why)) :
    ∃ answers, Gates false answers ∧
      dialogue.journal.calls = asked (commands settings) answers ∧
      resultOf settings answers =
        match why with
        | .interrupted => .ok .interrupted
        | .failed failure => .error (.failed failure) := by
  cases preparation with
  | daemonStops check =>
      cases check with
      | refused failure => exact ⟨_, .daemonRefused failure, rfl, rfl⟩
      | notRun => exact ⟨_, .daemonNotRun, rfl, rfl⟩
      | interrupted => exact ⟨_, .daemonInterrupted, rfl, rfl⟩
  | bootstrapStops check step =>
      cases check with
      | running docker =>
        cases step with
        | refused failure => exact ⟨_, .bootstrapRefused docker failure, rfl, rfl⟩
        | notRun => exact ⟨_, .bootstrapNotRun docker, rfl, rfl⟩
        | interrupted => exact ⟨_, .bootstrapInterrupted docker, rfl, rfl⟩
  | choiceStops check step choice =>
      cases check with
      | running docker =>
        cases step with
        | ready shell =>
          cases choice with
          | interrupted => exact ⟨_, .choiceInterrupted docker shell, rfl, rfl⟩

theorem Launch.answered {result : Except Stop StartOutcome}
    (launch : Launch settings dialogue result) :
    ∃ answer, dialogue.journal.calls = [.ran .foreground orchestrator answer] ∧
      ∀ docker shell kubectl, resultOf settings [docker, shell, kubectl, answer] = result := by
  cases launch with
  | exited => exact ⟨_, rfl, by simp [resultOf]⟩
  | interrupted => exact ⟨_, rfl, by simp [resultOf]⟩
  | notRun => exact ⟨_, rfl, by simp [resultOf]⟩

theorem reportDialogue_calls (outcome : StartOutcome) :
    (reportDialogue settings outcome).journal.calls = [] := by
  cases outcome with
  | interrupted => rfl
  | exited code =>
      simp only [reportDialogue]
      split <;> rfl

theorem calls_located (tools : List String) :
    Journal.calls (tools.map (.located · true)) = tools.map (.located · true) := by
  simp [Journal.calls, JournalEntry.line?]

theorem ToolSearch.calls {tools : List String} (search : ToolSearch tools dialogue (.ok ())) :
    dialogue.journal.calls = tools.map (.located · true) := by
  generalize complete : (.ok () : Except Stop Unit) = result at search
  induction search with
  | complete => rfl
  | missing => cases complete
  | @found tool path others rest result search ih =>
      exact congrArg (List.cons (JournalEntry.located tool true)) (ih complete)

theorem calls_opening {search : Dialogue} (rest : Dialogue) (pending : Bool)
    (searched : ToolSearch requiredTools search (.ok ())) :
    (Dialogue.journal (said welcome :: (search ++ taken pending :: rest))).calls =
      requiredTools.map (.located · true) ++ rest.journal.calls := by
  rw [← searched.calls, ← Journal.calls_append]
  change (Dialogue.journal (search ++ taken pending :: rest)).calls = _
  rw [journal_append]
  rfl

/-- A course either ends with the search for the tools, or takes an interrupt after it and goes on
as the answers let it. -/
theorem Course.gated {result : Except Stop StartOutcome}
    (course : Course settings dialogue result) :
    (∃ search why, dialogue = said welcome :: search ∧
      ToolSearch requiredTools search (.error why) ∧ result = .error why) ∨
    ∃ search pending, ∃ rest : Dialogue, ∃ answers,
      dialogue = said welcome :: (search ++ taken pending :: rest) ∧
      ToolSearch requiredTools search (.ok ()) ∧ Gates pending answers ∧
      rest.journal.calls = asked (commands settings) answers ∧
      result = resultOf settings answers ∧ pendingAfter false rest = false := by
  cases course with
  | toolMissing searched => exact .inl ⟨_, _, rfl, searched, rfl⟩
  | alreadyInterrupted searched =>
      exact .inr ⟨_, _, _, [], rfl, searched, .pending, rfl, rfl, rfl⟩
  | preparationFailed searched preparation =>
      obtain ⟨answers, gates, called, same⟩ := preparation.stopped
      refine .inr ⟨_, _, _, answers, rfl, searched, gates, called, same.symm, ?_⟩
      exact (preparation.heeded.calm_of_ne (by simp)).pendingAfter
  | preparationInterrupted searched preparation =>
      obtain ⟨answers, gates, called, same⟩ := preparation.stopped
      refine .inr ⟨_, _, _, answers, rfl, searched, gates, ?_, same.symm, ?_⟩
      · rw [journal_append, Journal.calls_append, called]
        exact (congrArg _ (reportDialogue_calls _)).trans (List.append_nil _)
      · rw [pendingAfter_append, pendingAfter_cons, (reportDialogue_quiet _).calm.pendingAfter]
        rfl
  | launchFailed searched preparation launch =>
      obtain ⟨docker, shell, kubectl, succeeded, ready, returned, called⟩ := preparation.answered
      obtain ⟨tilt, launched, same⟩ := launch.answered
      refine .inr ⟨_, _, _, _, rfl, searched, .launched succeeded ready returned, ?_,
        (same _ _ _).symm, ?_⟩
      · rw [journal_append, Journal.calls_append, called, launched]
        rfl
      · rw [pendingAfter_append, (preparation.heeded.calm_of_ne (by simp)).pendingAfter,
          launch.pendingAfter]
  | launched searched preparation launch =>
      obtain ⟨docker, shell, kubectl, succeeded, ready, returned, called⟩ := preparation.answered
      obtain ⟨tilt, launched, same⟩ := launch.answered
      refine .inr ⟨_, _, _, _, rfl, searched, .launched succeeded ready returned, ?_,
        (same _ _ _).symm, ?_⟩
      · rw [journal_append, journal_append, Journal.calls_append, Journal.calls_append, called,
          launched, reportDialogue_calls]
        rfl
      · rw [pendingAfter_append, pendingAfter_append,
          (preparation.heeded.calm_of_ne (by simp)).pendingAfter, launch.pendingAfter,
          (reportDialogue_quiet _).calm.pendingAfter]

variable {session after : Session} {journal last : Journal}

theorem ToolSearch.on_session {tools : List String} {result : Except Stop Unit}
    (search : ToolSearch tools dialogue result)
    (replies : Session.host.Replies (session, journal) dialogue (after, last)) :
    after = session ∧
      match tools.find? (session.missing.contains ·) with
      | none => result = .ok () ∧ dialogue.journal = tools.map (.located · true)
      | some tool =>
        result = .error (.failed (.ofKind (.missingTool tool))) ∧
          dialogue.journal =
            (tools.takeWhile (!session.missing.contains ·)).map (.located · true) ++
              [.located tool false] := by
  induction search generalizing journal with
  | complete =>
      obtain ⟨rfl, _⟩ := Prod.mk.inj replies
      exact ⟨rfl, rfl, rfl⟩
  | @missing tool others =>
      obtain ⟨told, same⟩ := replies
      obtain ⟨rfl, _⟩ := Prod.mk.inj same
      have absent : after.missing.contains tool = true :=
        (Session.host_locate tool).symm.trans (congrArg Option.isNone told)
      refine ⟨rfl, ?_⟩
      rw [List.find?_cons_of_pos absent, List.takeWhile_cons_of_neg (by simpa using absent)]
      exact ⟨rfl, rfl⟩
  | @found tool path others rest result _ ih =>
      obtain ⟨told, _, replies⟩ := replies
      have present : session.missing.contains tool = false :=
        (Session.host_locate tool).symm.trans (congrArg Option.isNone told)
      obtain ⟨same, found⟩ := ih replies
      refine ⟨same, ?_⟩
      rw [List.find?_cons_of_neg (by simpa using present),
        List.takeWhile_cons_of_pos (by simpa using present)]
      split at found
      · exact ⟨found.1, congrArg (List.cons (JournalEntry.located tool true)) found.2⟩
      · exact ⟨found.1, congrArg (List.cons (JournalEntry.located tool true)) found.2⟩

theorem Course.settles {result : Except Stop StartOutcome}
    (course : Course settings dialogue result)
    (replies : Session.host.Replies (session, journal) dialogue (after, last)) :
    if session.equipped then after.interruptPending = false
    else after = session ∧ ∃ failure, result = .error (.failed failure) := by
  rcases course.gated with ⟨search, why, rfl, searched, rfl⟩ |
    ⟨search, pending, rest, answers, rfl, searched, gates, called, rfl, settled⟩
  · obtain ⟨rfl, looked⟩ := searched.on_session replies.2
    split at looked
    · cases looked.1
    -- A start that stops here is not equipped: the tool that it misses is one of those required.
    · rename_i tool missing
      have absent := List.find?_some missing
      have required := List.mem_of_find?_eq_some missing
      rw [if_neg]
      · cases looked.1
        exact ⟨rfl, _, rfl⟩
      · intro complete
        have present := List.all_eq_true.mp complete tool required
        rw [absent] at present
        cases present
  · obtain ⟨⟨between, told⟩, searching, truth, others⟩ := Host.replies_append.mp replies.2
    obtain ⟨rfl, looked⟩ := searched.on_session searching
    have taking := Session.replies_pending others
    split at looked
    · rename_i found
      rw [if_pos]
      · exact taking.trans settled
      · refine List.all_eq_true.mpr fun tool required => ?_
        simpa using List.find?_eq_none.mp found tool required
    · cases looked.1

theorem Gates.commands_and_answers {pending : Bool} {answers : List Answer} {journal : Journal}
    (gates : Gates pending answers)
    (called : journal.calls =
      requiredTools.map (.located · true) ++ asked (commands settings) answers) :
    journal.commands = (commands settings).take answers.length ∧ journal.answers = answers := by
  rw [← Journal.commands_calls, ← Journal.answers_calls, called]
  cases gates <;> exact ⟨rfl, rfl⟩

theorem commands_nodup : (commands settings).Nodup := by
  simp [commands, daemonCheck, contextSwitch]

theorem Gates.passed {pending : Bool} {answers : List Answer} (gates : Gates pending answers) :
    (answers = [] ↔ pending = true) ∧
      (1 < answers.length ↔
        ∃ output, answers[0]? = some (.ended output) ∧ output.code = some 0) ∧
      (2 < answers.length ↔
        ∃ output, answers[1]? = some (.ended output) ∧ output.code = some 0) ∧
      (3 < answers.length ↔ ∃ answer, answers[2]? = some answer ∧ answer ≠ .interrupted) := by
  cases gates with
  | launched docker shell returned => simp [docker, shell, returned]
  | _ => simp_all

/-- A start looks for its tools in order and stops at the first that is missing, before any command
and without touching a pending interrupt. With all tools there it asks for its commands in order,
each at most once: for the first unless an interrupt is pending, and for the next as the answers let
it; and these answers decide how it ends. -/
theorem start_gated (settings : Settings) (session : Session) :
    let (result, after, journal) := (run settings).run Session.host (session, [])
    let tools := ["docker", "kind", "kubectl", "tilt"]
    match tools.find? (session.missing.contains ·) with
    | some tool =>
      journal.calls = (tools.takeWhile (!session.missing.contains ·)).map (.located · true) ++
          [.located tool false] ∧
        journal.commands = [] ∧
        result = .error (.failed (.ofKind (.missingTool tool))) ∧
        after = session
    | none =>
      journal.calls = tools.map (.located · true) ++ asked journal.commands journal.answers ∧
        journal.commands <+: [
          (.capture, ⟨"docker", ["info"]⟩),
          (.attached, ⟨settings.bootstrapShell, [settings.bootstrapScript]⟩),
          (.capture, ⟨"kubectl", ["config", "use-context", settings.kubeContext]⟩),
          (.foreground, ⟨"tilt", ["up"]⟩)] ∧
        journal.commands.Nodup ∧
        journal.answers = session.answersTo journal.commands ∧
        (journal.commands = [] ↔ session.interruptPending = true) ∧
        (1 < journal.commands.length ↔
          ∃ output, journal.answers[0]? = some (.ended output) ∧ output.code = some 0) ∧
        (2 < journal.commands.length ↔
          ∃ output, journal.answers[1]? = some (.ended output) ∧ output.code = some 0) ∧
        (3 < journal.commands.length ↔
          ∃ answer, journal.answers[2]? = some answer ∧ answer ≠ .interrupted) ∧
        result = resultOf settings journal.answers ∧
        after.interruptPending = false := by
  have course := course_of_ends (ends_dialogue Session.host (run settings) (session, []))
  have replies := replies_dialogue Session.host (run settings) (session, [])
  generalize (run settings).run Session.host (session, []) = outcome at course replies
  generalize (run settings).dialogue Session.host (session, []) = dialogue at course replies
  obtain ⟨result, after, journal⟩ := outcome
  obtain rfl : journal = dialogue.journal := Session.replies_journal replies
  have answered := Session.replies_answers replies
  dsimp only at course replies ⊢
  -- The journal of either course is computed, and the session's part in it is what it misses.
  rcases course.gated with ⟨search, why, rfl, searched, rfl⟩ |
    ⟨search, pending, rest, answers, rfl, searched, gates, called, rfl, settled⟩
  · obtain ⟨rfl, looked⟩ := searched.on_session replies.2
    simp only [requiredTools] at looked
    split at looked
    · cases looked.1
    · rename_i tool missing
      simp only [missing]
      have called : (Dialogue.journal (said welcome :: search)).calls =
          Journal.calls (Dialogue.journal search) := rfl
      rw [← Journal.commands_calls, called, looked.2, Journal.calls_append, calls_located,
        Journal.commands_append]
      refine ⟨rfl, ?_, by simpa using looked.1, trivial⟩
      simp [Journal.commands, Journal.calls, JournalEntry.line?]
  · obtain ⟨⟨between, told⟩, searching, truth, others⟩ := Host.replies_append.mp replies.2
    obtain ⟨rfl, looked⟩ := searched.on_session searching
    have waiting : between.interruptPending = pending := truth
    have taking := Session.replies_pending others
    have calls := calls_opening rest pending searched
    rw [called] at calls
    obtain ⟨asking, answering⟩ := gates.commands_and_answers calls
    simp only [requiredTools] at looked
    split at looked
    · rename_i found
      simp only [found]
      have many : ((commands settings).take answers.length).length = answers.length := by
        cases gates <;> rfl
      have passed := gates.passed
      rw [asking, answering] at answered
      rw [calls, asking, answering, many, waiting]
      refine ⟨?_, List.take_prefix _ _, commands_nodup.sublist (List.take_sublist _ _), answered,
        ?_, passed.2.1, passed.2.2.1, passed.2.2.2, rfl, taking.trans settled⟩
      · cases gates <;> rfl
      · rw [← passed.1, ← List.length_eq_zero_iff, many, List.length_eq_zero_iff]
    · cases looked.1

end DevCluster.Startup
