import DevCluster.Application
import DevCluster.Proofs.Narrative

/-!
What a run tells of the failure of its action, and the exit code that it has.
-/

namespace DevCluster

open Exchange Dialogue Routine

theorem Failure.code_of_firstKind {failure : Failure} {kind : FailureKind}
    {source : Option Failure} (first : failure.firstKind? = some (kind, source)) :
    failure.code = kind.code := by
  induction failure with
  | root cause => cases cause <;> cases first; rfl
  | layered layer below ih =>
      cases layer with
      | kind own => cases first; rfl
      | label shown => exact ih first
      | note text => exact ih first

namespace Application

variable {dialogue : Dialogue} {action : Action}

def classification (kind : FailureKind) (source : Option Failure) : Dialogue :=
  source.toList.map (fun cause => noted (.failureCaused cause.fullText)) ++
    [noted (.failureClassified kind source)]

theorem classification_silent (kind : FailureKind) (source : Option Failure) :
    Silent (classification kind source) := by
  cases source <;> simp [classification, record?, taken?]

theorem classify_ends {kind : FailureKind} {source : Option Failure} {result : Except Stop Unit}
    (ends : (classify kind source).Ends dialogue result) :
    result = .ok () ∧ dialogue = classification kind source := by
  cases source with
  | some cause =>
      obtain ⟨_, rfl, classified⟩ := ends_note_bind.mp ends
      obtain ⟨rfl, rfl⟩ := ends_note.mp classified
      exact ⟨rfl, rfl⟩
  | none =>
      obtain ⟨rfl, rfl⟩ := ends_note.mp ends
      exact ⟨rfl, rfl⟩

theorem report_ends {failure : Failure} {kind : FailureKind} {source : Option Failure}
    {result : Except Stop Int} (first : failure.firstKind? = some (kind, source))
    (ends : (report failure).Ends dialogue result) :
    result = .ok kind.code ∧
      dialogue = said (.error kind.text) ::
        (kind.hint.toList.map (fun hint => said (.detail hint)) ++ classification kind source) := by
  have code := Failure.code_of_firstKind first
  have classified {rest : Dialogue}
      (ends : (do classify kind source; pure kind.code).Ends rest result) :
      result = .ok kind.code ∧ rest = classification kind source := by
    rcases ends_bind.mp ends with ⟨why, rfl, stopped⟩ | ⟨_, own, _, rfl, ended, rfl, rfl⟩
    · obtain ⟨impossible, _⟩ := classify_ends stopped
      cases impossible
    · obtain ⟨_, rfl⟩ := classify_ends ended
      exact ⟨rfl, List.append_nil _⟩
  simp only [report, first, code] at ends
  obtain ⟨_, rfl, hinting⟩ := ends_say_bind.mp ends
  cases hinted : kind.hint with
  | some hint =>
      simp only [hinted] at hinting
      obtain ⟨rest, rfl, others⟩ := ends_say_bind.mp hinting
      obtain ⟨rfl, rfl⟩ := classified others
      exact ⟨rfl, rfl⟩
  | none =>
      simp only [hinted] at hinting
      obtain ⟨rfl, rfl⟩ := classified hinting
      exact ⟨rfl, rfl⟩

theorem run_ends {result : Except Stop Int} (ends : (run action).Ends dialogue result) :
    ∃ own acted rest, (act action).Ends own acted ∧ dialogue = own ++ rest ∧
      match acted with
      | .ok () => result = .ok 0 ∧ Silent rest
      | .error .interrupted => result = .error .interrupted ∧ rest = []
      | .error (.failed failure) => ∃ told last, rest = told ++ last ∧ Silent last ∧
          (report failure).Ends told result := by
  rcases ends_bind.mp ends with ⟨why, rfl, attempted⟩ | ⟨outcome, own, rest, rfl, attempted, others⟩
  · rcases ends_attempt.mp attempted with ⟨_, _, impossible⟩ | ⟨_, _, impossible⟩ | ⟨ended, same⟩
    · cases impossible
    · cases impossible
    · cases same
      exact ⟨dialogue, _, [], ended, (List.append_nil _).symm, rfl, rfl⟩
  · rcases ends_attempt.mp attempted with ⟨⟨⟩, ended, same⟩ | ⟨failure, ended, same⟩ |
      ⟨_, impossible⟩
    · cases same
      obtain ⟨_, rfl, rfl, rfl⟩ := ends_note_bind.mp others
      exact ⟨own, _, _, ended, rfl, rfl, by simp [record?, taken?]⟩
    · cases same
      rcases ends_bind.mp others with ⟨why, rfl, told⟩ | ⟨code, told, last, rfl, reported, noted⟩
      · exact ⟨own, _, _, ended, rfl, rest, [], by simp, silent_nil, told⟩
      · obtain ⟨_, rfl, rfl, rfl⟩ := ends_note_bind.mp noted
        exact ⟨own, _, _, ended, rfl, told, _, rfl, by simp [record?, taken?], reported⟩
    · cases impossible

/-- A failure of a known kind is told of in one line, with what can be done about it. -/
structure Told (kind : FailureKind) (dialogue : Dialogue) : Prop where
  calls : dialogue.journal.calls = []
  untaken : dialogue.consumed = 0
  alarms : dialogue.journal.alarms = [.error kind.text]
  lines : dialogue.journal.lines = .error kind.text :: kind.hint.toList.map .detail

theorem told_of_report {failure : Failure} {kind : FailureKind} {source : Option Failure}
    {result : Except Stop Int} {last : Dialogue} (first : failure.firstKind? = some (kind, source))
    (ends : (report failure).Ends dialogue result) (silent : Silent last) :
    result = .ok kind.code ∧ Told kind (dialogue ++ last) := by
  obtain ⟨rfl, rfl⟩ := report_ends first ends
  have others := classification_silent kind source
  have quiet : Quiet (said (.error kind.text) ::
      (kind.hint.toList.map (fun hint => said (.detail hint)) ++ classification kind source) ++
        last) := by
    cases kind.hint <;> simp [others.quiet, silent.quiet, asksCommand, taken?]
  have recorded : journal (said (.error kind.text) ::
      (kind.hint.toList.map (fun hint => said (.detail hint)) ++ classification kind source) ++
        last) =
        .said (.error kind.text) :: kind.hint.toList.map (fun hint => .said (.detail hint)) := by
    cases kind.hint <;> simp [journal_append, others.journal, silent.journal, record?]
  refine ⟨rfl, ?_, quiet.calm.consumed, ?_, ?_⟩
  · rw [recorded]
    cases kind.hint <;> rfl
  · rw [recorded]
    cases kind.hint <;> rfl
  · rw [recorded]
    cases kind.hint <;> rfl

/-- A run either says nothing to the standard error and has the exit code 0, or tells there of the
failure of its action, and has the exit code of what it tells. -/
inductive Finish (dialogue : Dialogue) : Except Stop Unit → Int → Prop
  | success : dialogue.journal.alarms = [] → Finish dialogue (.ok ()) 0
  | failure {failure kind source} : failure.firstKind? = some (kind, source) →
      dialogue.journal.alarms = [.error kind.text] →
      .error kind.text :: kind.hint.toList.map .detail <:+ dialogue.journal.lines →
      Finish dialogue (.error (.failed failure)) kind.code

def Classified (acted : Except Stop Unit) : Prop :=
  acted = .ok () ∨
    ∃ failure found, acted = .error (.failed failure) ∧ failure.firstKind? = some found

/-- A run ends as its action does, and what it adds to that calls nothing. -/
theorem run_finishes {result : Except Stop Int} (ends : (run action).Ends dialogue result) :
    ∃ own acted rest, (act action).Ends own acted ∧ dialogue = own ++ rest ∧
      (Unalarmed own → Classified acted → ∃ code, result = .ok code ∧ Finish dialogue acted code ∧
        rest.journal.calls = [] ∧ rest.consumed = 0) := by
  obtain ⟨own, acted, rest, ended, rfl, reported⟩ := run_ends ends
  refine ⟨own, acted, rest, ended, rfl, fun unalarmed classified => ?_⟩
  rcases classified with rfl | ⟨failure, ⟨kind, source⟩, rfl, first⟩
  · obtain ⟨rfl, silent⟩ := reported
    have quiet := (unalarmed_append.mpr ⟨unalarmed, silent.unalarmed⟩).alarms
    exact ⟨0, rfl, .success quiet, by rw [silent.journal]; rfl, silent.quiet.calm.consumed⟩
  · obtain ⟨told, last, rfl, silent, telling⟩ := reported
    obtain ⟨rfl, tells⟩ := told_of_report first telling silent
    refine ⟨kind.code, rfl, .failure first ?_ ?_, tells.calls, tells.untaken⟩
    · rw [journal_append, Journal.alarms_append, unalarmed.alarms, tells.alarms]
      rfl
    · rw [journal_append, Journal.lines_append, tells.lines]
      exact List.suffix_append _ _

theorem Finish.code_ne {acted : Except Stop Unit} {code : Int}
    (finish : Finish dialogue acted code) : code ≠ 30 := by
  cases finish with
  | success => decide
  | @failure failure kind => cases kind <;> simp [FailureKind.code]

end Application

end DevCluster
