import DevCluster.Proofs.Session.Settling
import DevCluster.Proofs.Startup.Gating

/-!
How a start ends by what came of its tools and commands: with an outcome, or with a failure that has
one of two exit codes.
-/

namespace DevCluster

open Exchange Dialogue Routine

/-- A command that could not be run, or that ended by itself, but not with success. -/
def Answer.fails : Answer → Bool
  | .ended output => output.code ≠ some 0
  | .failed _ => true
  | .interrupted => false

namespace Startup

variable {settings : Settings} {dialogue : Dialogue}

/-- Tilt ended, or the start was interrupted. -/
def Concluded (dialogue : Dialogue) : Prop :=
  0 < dialogue.consumed ∨ .interrupted ∈ dialogue.journal.answers ∨
    ∃ output, .ran .foreground orchestrator (.ended output) ∈ dialogue.journal

/-- A tool was missing, or the Docker daemon or the bootstrap failed. -/
def Hindered (settings : Settings) (dialogue : Dialogue) : Prop :=
  (∃ tool, .located tool false ∈ dialogue.journal) ∨
    (∃ answer, answer.fails = true ∧ .ran .capture daemonCheck answer ∈ dialogue.journal) ∨
    ∃ answer, answer.fails = true ∧ .ran .attached (bootstrap settings) answer ∈ dialogue.journal

/-- Tilt could not be run. -/
def Stranded (dialogue : Dialogue) : Prop :=
  ∃ fault, .ran .foreground orchestrator (.failed fault) ∈ dialogue.journal

/-- Only a start that is interrupted finds an interrupt pending. -/
theorem Course.interrupted_of_consumed {result : Except Stop StartOutcome}
    (course : Course settings dialogue result) (told : 0 < dialogue.consumed) :
    result = .ok .interrupted := by
  have greeting {rest : Dialogue} : Dialogue.consumed (said welcome :: rest) = rest.consumed := rfl
  have waiting {rest : Dialogue} : Dialogue.consumed (taken false :: rest) = rest.consumed := rfl
  cases course with
  | toolMissing searched => simp [greeting, searched.quiet.calm.consumed] at told
  | alreadyInterrupted searched => rfl
  | preparationFailed searched preparation =>
      have calm := preparation.heeded.calm_of_ne (by simp)
      simp [greeting, waiting, consumed_append, searched.quiet.calm.consumed, calm.consumed] at told
  | preparationInterrupted searched preparation => rfl
  | launchFailed searched preparation launch =>
      have calm := preparation.heeded.calm_of_ne (by simp)
      simp [greeting, waiting, consumed_append, searched.quiet.calm.consumed, calm.consumed,
        launch.settled.untaken] at told
  | launched searched preparation launch =>
      have calm := preparation.heeded.calm_of_ne (by simp)
      simp [greeting, waiting, consumed_append, searched.quiet.calm.consumed, calm.consumed,
        launch.settled.untaken, (reportDialogue_quiet _).calm.consumed] at told

theorem ToolSearch.lacks {tools : List String} {why : Stop}
    (search : ToolSearch tools dialogue (.error why)) :
    ∃ tool, why = .failed (.ofKind (.missingTool tool)) ∧
      .located tool false ∈ dialogue.journal := by
  generalize stopped : (.error why : Except Stop Unit) = result at search
  induction search with
  | complete => cases stopped
  | @missing tool others =>
      cases stopped
      exact ⟨tool, rfl, List.mem_cons_self⟩
  | found _ ih =>
      obtain ⟨tool, same, member⟩ := ih stopped
      exact ⟨tool, same, List.mem_cons_of_mem _ member⟩

theorem mem_asked {commands : List (Mode × Command)} {answers : List Answer} {place : Nat}
    {mode : Mode} {command : Command} {answer : Answer} (distinct : commands.Nodup)
    (listed : commands[place]? = some (mode, command)) :
    .ran mode command answer ∈ asked commands answers ↔ answers[place]? = some answer := by
  simp only [asked, List.mem_iff_getElem?, List.getElem?_zipWith_eq_some]
  constructor
  · rintro ⟨other, ⟨_, _⟩, _, also, answered, same⟩
    cases same
    obtain ⟨within, _⟩ := List.getElem?_eq_some_iff.mp listed
    rwa [(List.getElem?_inj within distinct).mp (listed.trans also.symm)]
  · exact fun answered => ⟨place, _, _, listed, answered, rfl⟩

theorem mem_asked_daemon {answers : List Answer} {answer : Answer} :
    .ran .capture daemonCheck answer ∈ asked (commands settings) answers ↔
      answers[0]? = some answer :=
  mem_asked commands_nodup rfl

theorem mem_asked_bootstrap {answers : List Answer} {answer : Answer} :
    .ran .attached (bootstrap settings) answer ∈ asked (commands settings) answers ↔
      answers[1]? = some answer :=
  mem_asked commands_nodup rfl

theorem mem_asked_orchestrator {answers : List Answer} {answer : Answer} :
    .ran .foreground orchestrator answer ∈ asked (commands settings) answers ↔
      answers[3]? = some answer :=
  mem_asked commands_nodup rfl

inductive Exit {α : Type} (settings : Settings) (dialogue : Dialogue) : Except Stop α → Prop
  | success {value} : Concluded dialogue → ¬ Hindered settings dialogue → ¬ Stranded dialogue →
      Exit settings dialogue (.ok value)
  | hindrance {failure kind source} : failure.firstKind? = some (kind, source) → kind.code = 1 →
      ¬ Concluded dialogue → Hindered settings dialogue → ¬ Stranded dialogue →
      Exit settings dialogue (.error (.failed failure))
  | stranding {failure kind source} : failure.firstKind? = some (kind, source) → kind.code = 20 →
      ¬ Concluded dialogue → ¬ Hindered settings dialogue → Stranded dialogue →
      Exit settings dialogue (.error (.failed failure))

theorem Exit.map {α β : Type} {result : Except Stop α} {change : α → β}
    (exit : Exit settings dialogue result) : Exit settings dialogue (result.map change) := by
  cases exit with
  | success concluded unhindered unstranded => exact .success concluded unhindered unstranded
  | hindrance first code unconcluded hindered unstranded =>
      exact .hindrance first code unconcluded hindered unstranded
  | stranding first code unconcluded unhindered stranded =>
      exact .stranding first code unconcluded unhindered stranded

theorem Exit.congr {α : Type} {result : Except Stop α} {other : Dialogue}
    (exit : Exit settings dialogue result) (calls : other.journal.calls = dialogue.journal.calls)
    (taken : other.consumed = dialogue.consumed) : Exit settings other result := by
  have ran (mode : Mode) (command : Command) (answer : Answer) :
      .ran mode command answer ∈ other.journal ↔ .ran mode command answer ∈ dialogue.journal := by
    rw [← Journal.mem_calls_ran, calls, Journal.mem_calls_ran]
  have located (tool : String) (found : Bool) :
      .located tool found ∈ other.journal ↔ .located tool found ∈ dialogue.journal := by
    rw [← Journal.mem_calls_located, calls, Journal.mem_calls_located]
  have answers : other.journal.answers = dialogue.journal.answers := by
    rw [← Journal.answers_calls, calls, Journal.answers_calls]
  have concluded : Concluded other ↔ Concluded dialogue := by
    simp only [Concluded, taken, answers, ran]
  have hindered : Hindered settings other ↔ Hindered settings dialogue := by
    simp only [Hindered, ran, located]
  have stranded : Stranded other ↔ Stranded dialogue := by
    simp only [Stranded, ran]
  cases exit with
  | success isConcluded unhindered unstranded =>
      exact .success (concluded.mpr isConcluded) (mt hindered.mp unhindered)
        (mt stranded.mp unstranded)
  | hindrance first code unconcluded isHindered unstranded =>
      exact .hindrance first code (mt concluded.mp unconcluded) (hindered.mpr isHindered)
        (mt stranded.mp unstranded)
  | stranding first code unconcluded unhindered isStranded =>
      exact .stranding first code (mt concluded.mp unconcluded) (mt hindered.mp unhindered)
        (stranded.mpr isStranded)

theorem ToolSearch.exit {α : Type} {tools : List String} {why : Stop}
    (search : ToolSearch tools dialogue (.error why)) :
    Exit settings (said welcome :: dialogue) (.error why : Except Stop α) := by
  obtain ⟨tool, rfl, missing⟩ := search.lacks
  have quiet : Quiet (said welcome :: dialogue) := by
    simp [search.quiet, asksCommand, taken?]
  refine .hindrance rfl rfl ?_ (.inl ⟨tool, List.mem_cons_of_mem _ missing⟩) ?_
  · rintro (told | member | ⟨output, asked⟩)
    · rw [quiet.calm.consumed] at told
      exact Nat.lt_irrefl 0 told
    · rw [quiet.answers] at member
      cases member
    · exact quiet.not_mem_journal asked
  · rintro ⟨fault, asked⟩
    exact quiet.not_mem_journal asked

/-- All that counts of a dialogue, once the tools are found, is which answers it holds. -/
theorem Gates.exit {pending : Bool} {answers : List Answer} (gates : Gates pending answers)
    (waited : pending = true → 0 < dialogue.consumed)
    (unwaited : resultOf settings answers ≠ .ok .interrupted → dialogue.consumed = 0)
    (concluded : Concluded dialogue ↔ 0 < dialogue.consumed ∨ .interrupted ∈ answers ∨
      ∃ output, answers[3]? = some (.ended output))
    (hindered : Hindered settings dialogue ↔
      (∃ answer, answer.fails = true ∧ answers[0]? = some answer) ∨
        ∃ answer, answer.fails = true ∧ answers[1]? = some answer)
    (stranded : Stranded dialogue ↔ ∃ fault, answers[3]? = some (.failed fault)) :
    Exit settings dialogue (resultOf settings answers) := by
  cases gates with
  | pending =>
      exact .success (concluded.mpr (.inl (waited rfl))) (by simp [hindered]) (by simp [stranded])
  | daemonInterrupted =>
      exact .success (by simp [concluded]) (by simp [hindered, Answer.fails]) (by simp [stranded])
  | daemonNotRun =>
      have untaken := unwaited (by simp [resultOf])
      exact .hindrance rfl rfl (by simp [concluded, untaken]) (by simp [hindered, Answer.fails])
        (by simp [stranded])
  | daemonRefused refused =>
      have untaken := unwaited (by simp [resultOf])
      exact .hindrance rfl rfl (by simp [concluded, untaken])
        (by simp [hindered, Answer.fails, refused]) (by simp [stranded])
  | bootstrapInterrupted docker =>
      exact .success (by simp [concluded])
        (by simp [hindered, Answer.fails, docker]) (by simp [stranded])
  | bootstrapNotRun docker =>
      have untaken := unwaited (by simp [resultOf])
      exact .hindrance rfl rfl (by simp [concluded, untaken]) (by simp [hindered, Answer.fails])
        (by simp [stranded])
  | bootstrapRefused docker refused =>
      have untaken := unwaited (by simp [resultOf])
      exact .hindrance rfl rfl (by simp [concluded, untaken])
        (by simp [hindered, Answer.fails, refused]) (by simp [stranded])
  | choiceInterrupted docker shell =>
      exact .success (by simp [concluded])
        (by simp [hindered, Answer.fails, docker, shell]) (by simp [stranded])
  | @launched _ _ kubectl tilt docker shell returned =>
      have unhindered : ¬ Hindered settings dialogue := by
        simp [hindered, Answer.fails, docker, shell]
      cases tilt with
      | ended output => exact .success (by simp [concluded]) unhindered (by simp [stranded])
      | interrupted => exact .success (by simp [concluded]) unhindered (by simp [stranded])
      | failed fault =>
          have untaken := unwaited (by simp [resultOf])
          exact .stranding rfl rfl (by simp [concluded, untaken, returned.symm]) unhindered
            (by simp [stranded])

theorem Course.exit {result : Except Stop StartOutcome}
    (course : Course settings dialogue result) : Exit settings dialogue result := by
  have interrupted := course.interrupted_of_consumed
  rcases course.gated with ⟨search, why, rfl, searched, rfl⟩ |
    ⟨search, pending, rest, answers, rfl, searched, gates, called, rfl, settled⟩
  · exact searched.exit
  have calls := calls_opening rest pending searched
  rw [called] at calls
  have answering := (gates.commands_and_answers calls).2
  have all_found (tool : String) :
      .located tool false ∉ journal (said welcome :: (search ++ taken pending :: rest)) := by
    rw [← Journal.mem_calls_located, calls]
    cases gates <;> simp [asked, commands]
  have ran_mem (mode : Mode) (command : Command) (answer : Answer) :
      .ran mode command answer ∈ journal (said welcome :: (search ++ taken pending :: rest)) ↔
        .ran mode command answer ∈ asked (commands settings) answers := by
    rw [← Journal.mem_calls_ran, calls]
    simp
  refine gates.exit (fun waiting => ?_) (fun unstopped => ?_) ?_ ?_ ?_
  · refine List.countP_pos_iff.mpr ⟨taken pending, by simp, ?_⟩
    rw [waiting]
    rfl
  · by_contra told
    exact unstopped (interrupted (Nat.pos_of_ne_zero told))
  · simp only [Concluded, answering, ran_mem, mem_asked_orchestrator]
  · simp only [Hindered, all_found, ran_mem, mem_asked_daemon, mem_asked_bootstrap, exists_const,
      false_or]
  · simp only [Stranded, ran_mem, mem_asked_orchestrator]

end Startup

end DevCluster
