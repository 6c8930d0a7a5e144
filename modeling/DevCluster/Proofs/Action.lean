import DevCluster.Proofs.Shutdown.Heeding

/-!
What an action adds to the start or the stop that it is about: its span, and notes of its end. None
of that reaches a journal.
-/

namespace DevCluster

open Exchange Dialogue Routine

namespace Dialogue

/-- Nothing is said, looked for, run or taken. -/
def Silent (dialogue : Dialogue) : Prop :=
  ∀ exchange ∈ dialogue, exchange.record? = none ∧ exchange.taken? = none

variable {first second dialogue : Dialogue}

@[simp] theorem silent_nil : Silent [] := by
  simp [Silent]

@[simp] theorem silent_cons {exchange : Exchange} :
    Silent (exchange :: dialogue) ↔
      (exchange.record? = none ∧ exchange.taken? = none) ∧ Silent dialogue := by
  simp [Silent]

@[simp] theorem silent_append : Silent (first ++ second) ↔ Silent first ∧ Silent second :=
  List.forall_mem_append

theorem Silent.journal (silent : Silent dialogue) : dialogue.journal = [] :=
  List.filterMap_eq_nil_iff.mpr fun exchange member => (silent exchange member).1

theorem Silent.quiet (silent : Silent dialogue) : Quiet dialogue := by
  intro exchange member
  obtain ⟨unrecorded, untaken⟩ := silent exchange member
  refine ⟨?_, untaken⟩
  rcases exchange with ⟨request, reply⟩
  cases request with
  | run mode command => cases unrecorded
  | _ => rfl

end Dialogue

theorem Routine.leaving_silent {α : Type} (result : Except Stop α) : Silent (leaving result) := by
  unfold leaving
  split <;> simp [record?, taken?]

namespace Action

variable {settings : Settings} {action : Action} {dialogue : Dialogue} {result : Except Stop Unit}

def concluding : Except Stop Unit → Dialogue
  | .ok () => [noted .actionFinished]
  | .error .interrupted => []
  | .error (.failed _) => [noted .actionFailed]

theorem concluding_silent (result : Except Stop Unit) : Silent (concluding result) := by
  unfold concluding
  split <;> simp [record?, taken?]

theorem perform_ends (ends : (action.perform settings).Ends dialogue result) :
    ∃ own, (action.routine settings).Ends own result ∧ dialogue = own ++ concluding result := by
  rcases ends_attempt_bind.mp ends with ⟨ended, rfl⟩ | ⟨outcome, own, _, rfl, ended, others⟩
  · exact ⟨dialogue, ended, (List.append_nil _).symm⟩
  · obtain ⟨_, rfl, last⟩ := ends_note_bind.mp others
    obtain ⟨rfl, rfl⟩ := ends_ofExcept.mp last
    refine ⟨own, ended, ?_⟩
    cases outcome <;> rfl

/-- All actions but a start leave an interrupt to their caller. -/
theorem perform_heeds (settings : Settings) (other : action ≠ .up) :
    (action.perform settings).Heeds := by
  have heeds : (action.routine settings).Heeds := by
    cases action with
    | up => exact absurd rfl other
    | down => exact ((Shutdown.run_heeds settings).bind fun _ => heeds_note _).within
    | completions shell => exact (writeCompletions_heeds shell).within
  exact heeds.attempt.bind fun outcome => (heeds_note _).bind fun _ => heeds_ofExcept outcome

/-- An action is what it is about, with nothing around it but its span and notes. -/
theorem surrounded_ends {α : Type} {inner : Routine α} {span : Span} {event : α → Event}
    (surrounds : action.routine settings = within span (inner >>= fun value => note (event value)))
    (ends : (action.perform settings).Ends dialogue result) :
    ∃ own outcome rest, inner.Ends own outcome ∧ result = outcome.map (fun _ => ()) ∧
      Silent rest ∧ dialogue = entered span :: (own ++ rest) := by
  obtain ⟨_, routed, rfl⟩ := perform_ends ends
  rw [surrounds] at routed
  obtain ⟨_, acted, rfl⟩ := ends_within.mp routed
  have closing := silent_append.mpr ⟨leaving_silent result, concluding_silent result⟩
  rcases ends_bind.mp acted with ⟨why, rfl, ended⟩ | ⟨value, own, _, rfl, ended, last⟩
  · exact ⟨_, .error why, _, ended, rfl, closing, by simp⟩
  · obtain ⟨rfl, rfl⟩ := ends_note.mp last
    refine ⟨own, .ok value, noted (event value) :: _, ended, rfl, ?_, by simp; rfl⟩
    exact silent_cons.mpr ⟨⟨rfl, rfl⟩, closing⟩

theorem up_ends (ends : (Action.up.perform settings).Ends dialogue result) :
    ∃ own outcome rest, (Startup.run settings).Ends own outcome ∧
      result = outcome.map (fun _ => ()) ∧ Silent rest ∧
      dialogue = entered (.start settings.clusterName) :: (own ++ rest) :=
  surrounded_ends rfl ends

end Action

end DevCluster
