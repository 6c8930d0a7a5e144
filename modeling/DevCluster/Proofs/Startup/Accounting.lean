import DevCluster.Proofs.Session.Settling
import DevCluster.Proofs.Narrative

/-!
How many interrupts a start takes.
-/

namespace DevCluster.Startup

open Exchange Dialogue

variable {settings : Settings} {dialogue : Dialogue} {pending : Bool}

/-- How many interrupts a start takes: one if it ends interrupted before Tilt runs. -/
theorem Course.balanced {result : Except Stop StartOutcome}
    (course : Course settings dialogue result) (truthful : Truthful pending dialogue) :
    Balanced pending dialogue
      (result = .ok .interrupted && !dialogue.journal.launches).toNat := by
  rw [launches_journal]
  have greeting {search : Dialogue} (quiet : Quiet search) : Quiet (said welcome :: search) := by
    simp [quiet, asksCommand, taken?]
  have reporting (outcome : StartOutcome) : Quiet (reportDialogue settings outcome) :=
    reportDialogue_quiet outcome
  cases course with
  | toolMissing searched => exact (greeting searched.quiet).balanced
  | alreadyInterrupted searched =>
      have opening := greeting searched.quiet
      obtain rfl := opening.told truthful
      have balanced :=
        Balanced.append opening (balanced_taken.append_quiet (reporting .interrupted))
      simpa [Exchange.launches, searched.quiet.unlaunched, (reporting .interrupted).unlaunched]
        using balanced
  | preparationFailed searched preparation =>
      have opening := greeting searched.quiet
      obtain rfl := opening.told truthful
      exact .append opening preparation.heeded.settled.balanced
  | preparationInterrupted searched preparation =>
      have opening := greeting searched.quiet
      obtain rfl := opening.told truthful
      -- The interrupt that has stopped the preparation is pending when the start asks for it.
      have settled := preparation.heeded.settled
      rw [← List.cons_append] at truthful
      obtain rfl := settled.told (truthful_append.mp truthful).2.2
      have balanced := Balanced.append opening
        (settled.balanced_taken.append_quiet (reporting .interrupted))
      simpa [Exchange.launches, searched.quiet.unlaunched, preparation.unlaunched,
        (reporting .interrupted).unlaunched] using balanced
  | launchFailed searched preparation launch =>
      have opening := greeting searched.quiet
      obtain rfl := opening.told truthful
      have calm := preparation.heeded.calm_of_ne (by simp)
      exact .append opening (launch.settled.append calm).balanced
  | @launched _ _ _ outcome searched preparation launch =>
      have opening := greeting searched.quiet
      obtain rfl := opening.told truthful
      have calm := preparation.heeded.calm_of_ne (by simp)
      have balanced := Balanced.append opening
        ((launch.settled.append calm).balanced.append_quiet (reporting outcome))
      simpa [launch.launched] using balanced

end DevCluster.Startup
