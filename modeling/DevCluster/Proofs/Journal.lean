import DevCluster.Proofs.Interrupt

/-!
Journals as what is left of dialogues: the commands in them, the answers to these, and the lines.
-/

namespace DevCluster

open Exchange Dialogue

namespace Journal

def commands (journal : Journal) : List (Mode × Command) :=
  journal.filterMap fun
    | .ran mode command _ => some (mode, command)
    | _ => none

def answers (journal : Journal) : List Answer :=
  journal.filterMap fun
    | .ran _ _ answer => some answer
    | _ => none

def launches (journal : Journal) : Bool :=
  journal.commands.any (·.1 = .foreground)

theorem calls_append (first second : Journal) :
    calls (first ++ second) = calls first ++ calls second :=
  List.filter_append ..

theorem lines_append (first second : Journal) :
    lines (first ++ second) = lines first ++ lines second :=
  List.filterMap_append

theorem commands_append (first second : Journal) :
    commands (first ++ second) = commands first ++ commands second :=
  List.filterMap_append

theorem commands_calls (journal : Journal) : commands (calls journal) = commands journal := by
  induction journal with
  | nil => rfl
  | cons entry others ih =>
      cases entry with
      | said line => exact ih
      | located tool found => exact ih
      | ran mode command answer => exact congrArg ((mode, command) :: ·) ih

theorem answers_calls (journal : Journal) : answers (calls journal) = answers journal := by
  induction journal with
  | nil => rfl
  | cons entry others ih =>
      cases entry with
      | said line => exact ih
      | located tool found => exact ih
      | ran mode command answer => exact congrArg (answer :: ·) ih

theorem answers_append (first second : Journal) :
    answers (first ++ second) = answers first ++ answers second :=
  List.filterMap_append

theorem mem_calls_ran {journal : Journal} {mode : Mode} {command : Command}
    {answer : Answer} :
    .ran mode command answer ∈ journal.calls ↔ .ran mode command answer ∈ journal := by
  simp [calls, JournalEntry.line?]

theorem mem_calls_located {journal : Journal} {tool : String} {found : Bool} :
    .located tool found ∈ journal.calls ↔ .located tool found ∈ journal := by
  simp [calls, JournalEntry.line?]

theorem mem_lines {journal : Journal} {line : Line} :
    line ∈ journal.lines ↔ .said line ∈ journal := by
  simp only [lines, List.mem_filterMap]
  constructor
  · rintro ⟨entry, member, same⟩
    cases entry <;> cases same
    exact member
  · intro member
    exact ⟨_, member, rfl⟩

theorem mem_answers {journal : Journal} {answer : Answer} :
    answer ∈ journal.answers ↔ ∃ mode command, .ran mode command answer ∈ journal := by
  simp only [answers, List.mem_filterMap]
  constructor
  · rintro ⟨entry, member, same⟩
    cases entry <;> cases same
    exact ⟨_, _, member⟩
  · rintro ⟨mode, command, member⟩
    exact ⟨_, member, rfl⟩

end Journal

namespace Dialogue

variable {dialogue : Dialogue}

theorem mem_journal_said {line : Line} : .said line ∈ dialogue.journal ↔ said line ∈ dialogue := by
  simp only [journal, List.mem_filterMap]
  constructor
  · rintro ⟨⟨request, reply⟩, member, same⟩
    cases request <;> cases same
    exact member
  · intro member
    exact ⟨_, member, rfl⟩

theorem mem_journal_ran {mode : Mode} {command : Command} {answer : Answer} :
    .ran mode command answer ∈ dialogue.journal ↔ ran mode command answer ∈ dialogue := by
  simp only [journal, List.mem_filterMap]
  constructor
  · rintro ⟨⟨request, reply⟩, member, same⟩
    cases request <;> cases same
    exact member
  · intro member
    exact ⟨_, member, rfl⟩

theorem Calm.not_mem_answers (calm : Calm dialogue) : .interrupted ∉ dialogue.journal.answers := by
  intro member
  obtain ⟨mode, command, asked⟩ := Journal.mem_answers.mp member
  have uninterrupted := (calm _ (mem_journal_ran.mp asked)).1
  cases uninterrupted

theorem Quiet.not_mem_journal {mode : Mode} {command : Command} {answer : Answer}
    (quiet : Quiet dialogue) : .ran mode command answer ∉ dialogue.journal := by
  intro member
  have silent := (quiet _ (mem_journal_ran.mp member)).1
  cases silent

theorem launches_journal : dialogue.journal.launches = dialogue.any Exchange.launches := by
  induction dialogue with
  | nil => rfl
  | cons exchange rest ih =>
      rw [List.any_cons, ← ih]
      rcases exchange with ⟨request, reply⟩
      cases request with
      | run mode command => cases mode <;> rfl
      | _ => rfl

theorem Quiet.unlaunched (quiet : Quiet dialogue) : dialogue.any Exchange.launches = false := by
  refine List.any_eq_false.mpr fun exchange member launching => ?_
  have silent := (quiet exchange member).1
  rcases exchange with ⟨request, reply⟩
  cases request with
  | run mode command => cases silent
  | _ => cases launching

theorem Quiet.answers (quiet : Quiet dialogue) : dialogue.journal.answers = [] := by
  refine List.eq_nil_iff_forall_not_mem.mpr fun answer member => ?_
  obtain ⟨mode, command, ran⟩ := Journal.mem_answers.mp member
  exact quiet.not_mem_journal ran

end Dialogue

end DevCluster
