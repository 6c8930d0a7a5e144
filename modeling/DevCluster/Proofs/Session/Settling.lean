import DevCluster.Proofs.Session.Replies
import DevCluster.Proofs.Startup.Heeding

/-!
How dialogues settle interrupts: those of routines that leave an interrupt to their caller, and
those that take it themselves.
-/

namespace DevCluster

open Exchange Dialogue Routine

/-- The dialogue of a routine that takes no interrupt. One that ends a command is the end of all
commands, and is pending afterwards if it stops the routine. -/
structure Settled {α : Type} (dialogue : Dialogue) (result : Except Stop α) : Prop where
  orderly : Orderly false dialogue
  untaken : dialogue.consumed = 0
  pending : dialogue.pendingAfter false = true ↔ result = .error .interrupted
  last : .interrupted ∉ dialogue.journal.answers.dropLast

/-- The dialogue of a routine that takes interrupts itself, and how many of them. -/
structure Balanced (pending : Bool) (dialogue : Dialogue) (taken : Nat) : Prop where
  orderly : Orderly pending dialogue
  consumed : dialogue.consumed = taken
  last : .interrupted ∉ dialogue.journal.answers.dropLast

namespace Dialogue

theorem consumed_append (first second : Dialogue) :
    consumed (first ++ second) = first.consumed + second.consumed :=
  List.countP_append

theorem Calm.not_mem_dropLast {dialogue : Dialogue} (calm : Calm dialogue) :
    .interrupted ∉ dialogue.journal.answers.dropLast :=
  fun member => calm.not_mem_answers (List.dropLast_subset _ member)

theorem not_mem_dropLast_append {first second : Dialogue} (calm : Calm first)
    (last : .interrupted ∉ second.journal.answers.dropLast) :
    .interrupted ∉ (journal (first ++ second)).answers.dropLast := by
  rw [journal_append, Journal.answers_append, List.dropLast_append]
  split
  · exact calm.not_mem_dropLast
  · exact List.not_mem_append calm.not_mem_answers last

end Dialogue

variable {α β : Type} {pending : Bool} {count : Nat} {first middle dialogue : Dialogue}
  {result : Except Stop α}

theorem Heeded.settled (heeded : Heeded dialogue result) : Settled dialogue result := by
  refine ⟨heeded.orderly, ?_, ?_, ?_⟩
  · cases heeded with
    | calm calm _ => exact calm.consumed
    | interrupted calm _ => rw [consumed_append, calm.consumed]; rfl
  · cases heeded with
    | calm calm unstopped => simp [calm.pendingAfter, unstopped]
    | interrupted calm foreground =>
        rw [pendingAfter_append, calm.pendingAfter]
        simp [Dialogue.pendingAfter, Exchange.pendingAfter, taken?, raises, foreground,
          Answer.isInterrupted]
  · cases heeded with
    | calm calm _ => exact calm.not_mem_dropLast
    | interrupted calm _ => exact not_mem_dropLast_append calm (List.not_mem_nil)

theorem Startup.Launch.settled {settings : Settings} {launched : Except Stop StartOutcome}
    (launch : Startup.Launch settings dialogue launched) : Settled dialogue launched := by
  have orderly (answer : Answer) : Orderly false (Startup.launchDialogue settings answer) := by
    simp [Startup.launchDialogue, Orderly, asksCommand, Exchange.pendingAfter, taken?, raises]
  have unstopped : launched ≠ .error .interrupted := by
    cases launch <;> simp
  refine ⟨?_, ?_, ?_, ?_⟩
  · cases launch <;> exact orderly _
  · cases launch <;> rfl
  · simp [launch.pendingAfter, unstopped]
  · cases launch <;> exact List.not_mem_nil

theorem Settled.append (settled : Settled dialogue result) (calm : Calm first) :
    Settled (first ++ dialogue) result := by
  refine ⟨orderly_append.mpr ⟨calm.orderly, ?_⟩, ?_, ?_, not_mem_dropLast_append calm settled.last⟩
  · rw [calm.pendingAfter]
    exact settled.orderly
  · rw [consumed_append, calm.consumed, settled.untaken]
  · rw [pendingAfter_append, calm.pendingAfter]
    exact settled.pending

theorem Settled.map {change : α → β} (settled : Settled dialogue result) :
    Settled dialogue (result.map change) := by
  refine ⟨settled.orderly, settled.untaken, settled.pending.trans ?_, settled.last⟩
  cases result <;> simp [Except.map]

theorem Dialogue.Quiet.balanced (quiet : Quiet dialogue) : Balanced pending dialogue 0 :=
  ⟨quiet.orderly, quiet.calm.consumed, quiet.calm.not_mem_dropLast⟩

theorem Balanced.append (quiet : Quiet first) (balanced : Balanced pending dialogue count) :
    Balanced pending (first ++ dialogue) count := by
  refine ⟨orderly_append.mpr ⟨quiet.orderly, ?_⟩, ?_, ?_⟩
  · rw [quiet.calm.pendingAfter]
    exact balanced.orderly
  · rw [consumed_append, quiet.calm.consumed, balanced.consumed, Nat.zero_add]
  · exact not_mem_dropLast_append quiet.calm balanced.last

theorem Balanced.append_quiet (balanced : Balanced pending middle count) (quiet : Quiet dialogue) :
    Balanced pending (middle ++ dialogue) count := by
  refine ⟨orderly_append.mpr ⟨balanced.orderly, quiet.orderly⟩, ?_, ?_⟩
  · rw [consumed_append, quiet.calm.consumed, balanced.consumed, Nat.add_zero]
  · rw [journal_append, Journal.answers_append, quiet.answers, List.append_nil]
    exact balanced.last

theorem balanced_taken : Balanced true [taken true] 1 :=
  ⟨⟨fun asks => by simp [asksCommand] at asks, trivial⟩, rfl, List.not_mem_nil⟩

theorem Settled.balanced (settled : Settled dialogue result) :
    Balanced false (taken false :: dialogue) 0 :=
  ⟨⟨fun _ => rfl, settled.orderly⟩, settled.untaken, settled.last⟩

theorem Settled.balanced_taken (settled : Settled dialogue (.error .interrupted : Except Stop α)) :
    Balanced false (taken false :: (dialogue ++ [taken true])) 1 := by
  refine ⟨⟨fun _ => rfl, orderly_append.mpr ⟨settled.orderly, fun asks => ?_, trivial⟩⟩, ?_, ?_⟩
  · simp [asksCommand] at asks
  · change consumed (dialogue ++ [taken true]) = 1
    rw [consumed_append, settled.untaken]
    rfl
  · change .interrupted ∉ (journal (dialogue ++ [taken true])).answers.dropLast
    rw [journal_append, Journal.answers_append]
    simpa [record?, Journal.answers] using settled.last

/-- Whoever takes an interrupt after one has stopped the routine finds it pending. -/
theorem Settled.told {told : Bool}
    (settled : Settled dialogue (.error .interrupted : Except Stop α))
    (truthful : Truthful false (dialogue ++ taken told :: middle)) : told = true := by
  have taking := (truthful_append.mp truthful).2.1 told rfl
  rw [settled.pending.mpr rfl] at taking
  exact taking

theorem Dialogue.Quiet.told {told : Bool} (quiet : Quiet first)
    (truthful : Truthful pending (first ++ taken told :: dialogue)) : told = pending := by
  have taking := (truthful_append.mp truthful).2.1 told rfl
  rw [quiet.calm.pendingAfter] at taking
  exact taking

end DevCluster
