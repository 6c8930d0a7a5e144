import DevCluster.Proofs.Action
import DevCluster.Proofs.Session.Visits
import DevCluster.Proofs.Startup.Accounting
import DevCluster.Proofs.Startup.Gating

/-!
The account of interrupts in sessions: none is lost, made or ignored, whatever steps are taken.
-/

namespace DevCluster

open Exchange Dialogue Routine

theorem Session.replies_silent {session after : Session} {journal last : Journal}
    {dialogue : Dialogue} (silent : Silent dialogue)
    (replies : host.Replies (session, journal) dialogue (after, last)) : after = session := by
  induction dialogue generalizing session journal with
  | nil => exact (Prod.mk.inj replies).1
  | cons exchange rest ih =>
      obtain ⟨⟨unrecorded, untaken⟩, others⟩ := silent_cons.mp silent
      obtain ⟨_, later⟩ := replies
      have same := ih others later
      rcases exchange with ⟨request, reply⟩
      cases request with
      | say line => cases unrecorded
      | locate tool => cases unrecorded
      | run mode command => cases unrecorded
      | takeInterrupt => cases untaken
      | _ => exact same

namespace Step

variable {settings : Settings} {step : Step} {routine : Routine StepResult} {pending : Bool}
  {dialogue : Dialogue} {result : Except Stop StepResult} {session after : Session}

/-- A routine that leaves interrupts to its caller, and does not itself end as abandoned. -/
structure Leaves (routine : Routine StepResult) : Prop where
  settles : ∀ own ended, routine.Ends own ended → Settled own ended
  named : ∀ own, ¬ routine.Ends own (.ok .abandoned)

theorem leaves_map {α : Type} {inner : Routine α} {change : α → StepResult}
    (settles : ∀ own ended, inner.Ends own ended → Settled own ended)
    (named : ∀ value, change value ≠ .abandoned) : Leaves (change <$> inner) := by
  constructor
  · intro own ended ends
    obtain ⟨_, innerEnds, rfl⟩ := ends_map.mp ends
    exact (settles _ _ innerEnds).map
  · intro own ends
    obtain ⟨innerResult, _, same⟩ := ends_map.mp ends
    cases innerResult with
    | ok value => exact named value (Except.ok.inj same).symm
    | error why => cases same

theorem leaves_map_of_heeds {α : Type} {inner : Routine α} {change : α → StepResult}
    (heeds : inner.Heeds) (named : ∀ value, change value ≠ .abandoned) :
    Leaves (change <$> inner) :=
  leaves_map (fun _ _ ends => (heeds _ _ ends).settled) named

theorem leaves_nothing {inner : Routine Unit}
    (settles : ∀ own ended, inner.Ends own ended → Settled own ended) :
    Leaves (do inner; pure .nothing) := by
  have mapped : Leaves ((fun _ => StepResult.nothing) <$> inner) := leaves_map settles (by simp)
  exact mapped

theorem routine_leaves (plays : step.routine? settings = some routine)
    (other : step.isStart = false) : ∃ inner, routine = abandonable inner ∧ Leaves inner := by
  cases step with
  | configure document environment => cases plays
  | missing tools => cases plays
  | script commandLine replies => cases plays
  | interrupt => cases plays
  | up => cases other
  | dispatch action =>
      cases action with
      | up => cases other
      | down =>
          cases plays
          have heeds : (Action.down.perform settings).Heeds :=
            Action.perform_heeds settings (by simp)
          exact ⟨_, rfl, leaves_nothing fun _ _ ends => (heeds _ _ ends).settled⟩
      | completions shell =>
          cases plays
          have heeds : ((Action.completions shell).perform settings).Heeds :=
            Action.perform_heeds settings (by simp)
          exact ⟨_, rfl, leaves_nothing fun _ _ ends => (heeds _ _ ends).settled⟩
  | down =>
      cases plays
      exact ⟨_, rfl, leaves_map_of_heeds (Shutdown.run_heeds settings) (by simp)⟩
  | checkTools =>
      cases plays
      refine ⟨_, rfl, leaves_nothing fun _ _ ends => ?_⟩
      exact (Startup.toolSearch_of_ends ends).heeded.settled
  | checkDaemon =>
      cases plays
      refine ⟨_, rfl, leaves_nothing fun _ _ ends => ?_⟩
      exact (Startup.daemonCheck_of_ends ends).heeded.settled
  | bootstrapCluster =>
      cases plays
      refine ⟨_, rfl, leaves_nothing fun _ _ ends => ?_⟩
      exact (Startup.clusterBootstrap_of_ends ends).heeded.settled
  | switchContext =>
      cases plays
      refine ⟨_, rfl, leaves_map (fun _ _ ends => ?_) (by simp)⟩
      exact (Startup.contextChoice_of_ends ends).heeded.settled
  | launchOrchestrator =>
      cases plays
      refine ⟨_, rfl, leaves_map (fun _ _ ends => ?_) (by simp)⟩
      exact (Startup.launch_of_ends ends).settled
  | stopOrchestrator =>
      cases plays
      exact ⟨_, rfl, leaves_map_of_heeds Shutdown.stopOrchestrator_heeds (by simp)⟩
  | deleteCluster =>
      cases plays
      exact ⟨_, rfl, leaves_map_of_heeds (Shutdown.deleteCluster_heeds settings) (by simp)⟩

/-- A step that can be abandoned takes an interrupt exactly if it is abandoned, and leaves none
pending. -/
theorem abandonable_balanced (leaves : Leaves routine)
    (ends : (abandonable routine).Ends dialogue result) (truthful : Truthful pending dialogue) :
    Balanced pending dialogue (StepResult.ofRun result = .abandoned : Bool).toNat := by
  obtain ⟨caught, waited, rfl⟩ :
      ∃ caught, routine.untilInterrupted.Ends dialogue caught ∧
        result = caught.map (·.getD .abandoned) := ends_map.mp ends
  rcases ends_untilInterrupted.mp waited with ⟨rfl, rfl⟩ | ⟨rest, rfl, caughtEnds⟩
  · obtain rfl := truthful.1 true rfl
    exact balanced_taken
  · obtain rfl := truthful.1 false rfl
    rcases ends_catchInterrupt.mp caughtEnds with ⟨value, ended, rfl⟩ | ⟨failure, ended, rfl⟩ |
      ⟨own, told, rfl, ended, rfl⟩
    · have unabandoned : value ≠ .abandoned := by
        rintro rfl
        exact leaves.named _ ended
      simpa [Except.map, StepResult.ofRun, unabandoned] using (leaves.settles _ _ ended).balanced
    · exact (leaves.settles _ _ ended).balanced
    · have settled := leaves.settles _ _ ended
      obtain rfl := settled.told truthful.2
      exact settled.balanced_taken

def outcomeResult (step : Step) (outcome : StartOutcome) : StepResult :=
  if step = .up then .started outcome else .nothing

theorem start_course (plays : step.routine? settings = some routine) (starts : step.isStart = true)
    (ends : routine.Ends dialogue result) :
    ∃ before own rest outcome, Silent before ∧ Silent rest ∧ dialogue = before ++ (own ++ rest) ∧
      Startup.Course settings own outcome ∧ result = outcome.map step.outcomeResult := by
  cases step with
  | up =>
      cases plays
      obtain ⟨outcome, started, rfl⟩ := ends_map.mp ends
      refine ⟨[], dialogue, [], outcome, silent_nil, silent_nil, by simp, ?_, rfl⟩
      exact Startup.course_of_ends started
  | dispatch action =>
      cases action with
      | up =>
          cases plays
          obtain ⟨performed, acted, rfl⟩ :
              ∃ performed, (Action.up.perform settings).Ends dialogue performed ∧
                result = performed.map fun _ => .nothing := ends_map.mp ends
          obtain ⟨own, outcome, rest, started, rfl, silent, rfl⟩ := Action.up_ends acted
          refine ⟨[_], own, rest, outcome, by simp [record?, taken?], silent, rfl, ?_, ?_⟩
          · exact Startup.course_of_ends started
          · cases outcome <;> rfl
      | down => cases starts
      | completions shell => cases starts
  | _ => cases starts

theorem endsInterrupted_eq {own : Dialogue} {outcome : Except Stop StartOutcome}
    (starts : step.isStart = true) (course : Startup.Course settings own outcome) :
    Visit.endsInterrupted ⟨session, step, StepResult.ofRun (outcome.map step.outcomeResult),
      own.journal, after⟩ = decide (outcome = .ok .interrupted) := by
  cases step with
  | up =>
      cases outcome with
      | ok value => simp [Visit.endsInterrupted, Except.map, StepResult.ofRun, outcomeResult]
      | error why => cases why <;> simp [Visit.endsInterrupted, Except.map, StepResult.ofRun]
  | dispatch action =>
      rw [Bool.eq_iff_iff, decide_eq_true_iff]
      exact List.isSuffixOf_iff_suffix.trans course.tells_interrupt
  | _ => cases starts

theorem ne_abandoned {own : Dialogue} {outcome : Except Stop StartOutcome}
    (course : Startup.Course settings own outcome) :
    StepResult.ofRun (outcome.map step.outcomeResult) ≠ .abandoned := by
  cases outcome with
  | ok value =>
      simp only [Except.map, StepResult.ofRun, outcomeResult]
      split <;> simp
  | error why =>
      cases why with
      | interrupted => exact absurd rfl course.unstopped
      | failed failure => simp [Except.map, StepResult.ofRun]

/-- A start with all its tools leaves no interrupt pending, and one without does not touch it. -/
theorem start_accounted (plays : step.routine? session.settings = some routine)
    (starts : step.isStart = true) (ends : routine.Ends dialogue result)
    (replies : Session.host.Replies (session, []) dialogue (after, dialogue.journal)) :
    Balanced session.interruptPending dialogue
        (Visit.consumed ⟨session, step, StepResult.ofRun result, dialogue.journal, after⟩) ∧
      after.interruptPending = (session.interruptPending && !session.equipped) := by
  obtain ⟨before, own, rest, outcome, opening, closing, rfl, course, rfl⟩ :=
    start_course plays starts ends
  have told := Session.replies_truthful replies
  -- What surrounds the course of the start is silent, so the session enters and leaves it as it
  -- enters and leaves the step.
  obtain ⟨⟨between, read⟩, opened, others⟩ := Host.replies_append.mp replies
  obtain rfl := Session.replies_silent opening opened
  obtain ⟨⟨ending, written⟩, started, closed⟩ := Host.replies_append.mp others
  obtain rfl := Session.replies_silent closing closed
  have truthful : Truthful between.interruptPending own := by
    have later := (truthful_append.mp told).2
    rw [opening.quiet.calm.pendingAfter] at later
    exact (truthful_append.mp later).1
  have recorded : (before ++ (own ++ rest)).journal = own.journal := by
    simp [journal_append, opening.journal, closing.journal]
  have settles := course.settles started
  have balanced := Balanced.append opening.quiet
    ((course.balanced truthful).append_quiet closing.quiet)
  rw [recorded, Visit.consumed, endsInterrupted_eq starts course]
  cases equipped : between.equipped with
  | true =>
      simp only [equipped, if_true] at settles
      simpa [ne_abandoned course, starts, settles] using balanced
  | false =>
      simp only [equipped, Bool.false_eq_true, if_false] at settles
      obtain ⟨rfl, failure, rfl⟩ := settles
      simpa [ne_abandoned course] using balanced

end Step

theorem Dialogue.raised_journal (dialogue : Dialogue) :
    dialogue.journal.countP JournalEntry.raises = dialogue.raised := by
  rw [journal, List.countP_filterMap, raised]
  refine List.countP_congr fun exchange _ => ?_
  rcases exchange with ⟨request, reply⟩
  cases request <;> rfl

structure Visit.Accounted (visit : Visit) : Prop where
  calls : visit.moments.filterMap (fun moment => moment.2.call? moment.1) = visit.journal.calls
  heard : ∀ moment ∈ visit.moments, ∀ mode command, moment.1 = .run mode command →
    moment.2.interruptPending = false
  balance : visit.before.interruptPending.toNat + visit.raised =
    visit.consumed + visit.after.interruptPending.toNat
  settles : visit.step.isStart = true →
    visit.after.interruptPending = (visit.before.interruptPending && !visit.before.equipped)
  last : .interrupted ∉ visit.journal.answers.dropLast

namespace Session

variable {session : Session} {step : Step} {routine : Routine StepResult}

@[simp] theorem visit_before : (session.visit step).before = session := rfl

@[simp] theorem visit_step : (session.visit step).step = step := rfl

theorem visit_eq (plays : step.routine? session.settings = some routine) :
    session.visit step =
      ⟨session, step, StepResult.ofRun (routine.run host (session, [])).1,
        (routine.dialogue host (session, [])).journal, (routine.run host (session, [])).2.1⟩ := by
  have replies := replies_dialogue host routine (session, [])
  rw [visit, Step.perform_eq_play plays, Step.play]
  generalize routine.run host (session, []) = ending at replies ⊢
  obtain ⟨result, after, journal⟩ := ending
  obtain rfl : journal = Dialogue.journal _ := replies_journal replies
  rfl

theorem setUp_journal (setUp : step.routine? session.settings = none) :
    (session.visit step).journal = [] := by
  rw [visit, Step.perform_eq_setUp setUp]

theorem setUp_pending (setUp : step.routine? session.settings = none) :
    (session.visit step).result ≠ .abandoned ∧ (session.visit step).after.interruptPending =
      (session.interruptPending || step = .interrupt) := by
  rw [visit, Step.perform_eq_setUp setUp]
  rcases Step.setUp_cases setUp with ⟨document, environment, rfl⟩ | ⟨_, rfl⟩ | ⟨_, _, rfl⟩ | rfl
  · simp only [Step.setUp]
    split <;> simp
  · simp [Step.setUp]
  · simp [Step.setUp, setReplies]
  · simp [Step.setUp]

/-- A step that only sets up the session runs nothing, and raises at most the interrupt that it
is itself. -/
theorem setUp_accounted (setUp : step.routine? session.settings = none) :
    (session.visit step).Accounted := by
  have journal := setUp_journal setUp
  obtain ⟨unabandoned, pending⟩ := setUp_pending setUp
  have moments : (session.visit step).moments = [] := by
    rw [Visit.moments, visit_before, visit_step, setUp]
  have unstarted : step.isStart = false := by
    rcases Step.setUp_cases setUp with ⟨_, _, rfl⟩ | ⟨_, rfl⟩ | ⟨_, _, rfl⟩ | rfl <;> rfl
  refine ⟨?_, by simp [moments], ?_, ?_, by simp [journal, Journal.answers]⟩
  · rw [moments, journal]
    rfl
  · by_cases interrupting : step = .interrupt
    · subst interrupting
      cases waiting : session.interruptPending <;>
        simp [Visit.raised, Visit.consumed, journal, pending, unabandoned, unstarted, waiting]
    · simp [Visit.raised, Visit.consumed, journal, pending, unabandoned, unstarted, interrupting]
  · intro starts
    rw [visit_step, unstarted] at starts
    cases starts

theorem visit_accounted (session : Session) (step : Step) : (session.visit step).Accounted := by
  cases plays : step.routine? session.settings with
  | none => exact setUp_accounted plays
  | some routine =>
      have ends := ends_dialogue host routine (session, [])
      have replies := replies_dialogue host routine (session, [])
      have heard := routine.moments_orderly session []
      have calls := routine.moments_calls session []
      rw [visit_eq plays]
      generalize routine.run host (session, []) = ending at ends replies ⊢
      generalize routine.dialogue host (session, []) = dialogue at ends replies heard calls ⊢
      obtain ⟨result, after, journal⟩ := ending
      obtain rfl : journal = dialogue.journal := replies_journal replies
      have truthful := replies_truthful replies
      -- Starts take their interrupts themselves; all other steps are abandoned for one.
      obtain ⟨balanced, settles⟩ :
          Balanced session.interruptPending dialogue
              (Visit.consumed ⟨session, step, StepResult.ofRun result, dialogue.journal, after⟩) ∧
            (step.isStart = true →
              after.interruptPending = (session.interruptPending && !session.equipped)) := by
        cases starts : step.isStart with
        | true =>
            have accounted := Step.start_accounted plays starts ends replies
            exact ⟨accounted.1, fun _ => accounted.2⟩
        | false =>
            obtain ⟨inner, rfl, leaves⟩ := Step.routine_leaves plays starts
            have balanced := Step.abandonable_balanced leaves ends truthful
            exact ⟨by simpa [Visit.consumed, starts] using balanced, by simp⟩
      refine ⟨?_, ?_, ?_, settles, balanced.last⟩
      · rw [Visit.moments, plays, List.filterMap_map]
        exact calls
      · intro moment member mode command asked
        simp only [Visit.moments, plays, List.mem_map] at member
        obtain ⟨⟨request, state⟩, member, rfl⟩ := member
        subst asked
        exact heard balanced.orderly member
      · have conserved := conserved balanced.orderly truthful
        rw [← replies_pending replies, balanced.consumed, ← raised_journal] at conserved
        have notInterrupt : step ≠ .interrupt := by
          rintro rfl
          cases plays
        simpa [Visit.raised, notInterrupt] using conserved

theorem visits_accounted (session : Session) (steps : List Step) :
    ∀ visit ∈ session.visits steps, visit.Accounted := by
  induction steps generalizing session with
  | nil => simp [visits]
  | cons step steps ih =>
      refine List.forall_mem_cons.mpr ⟨session.visit_accounted step, ?_⟩
      exact ih _

/-- Over any steps, the interrupts that are pending or raised are those that are consumed or still
pending. -/
theorem visits_conserved (session : Session) (steps : List Step) :
    session.interruptPending.toNat + ((session.visits steps).map Visit.raised).sum =
      ((session.visits steps).map Visit.consumed).sum +
        (session.leftBy steps).interruptPending.toNat := by
  induction steps generalizing session with
  | nil => simp [visits, leftBy]
  | cons step steps ih =>
      have once := (session.visit_accounted step).balance
      have others := ih (session.visit step).after
      simp only [visits, List.map_cons, List.sum_cons, visit_before] at once ⊢
      change _ = _ + ((session.visit step).after.leftBy steps).interruptPending.toNat
      omega

theorem foreground_pending (session : Session) (command : Command) :
    (session.run .foreground command).2.interruptPending = session.interruptPending := by
  obtain ⟨script, ran⟩ := session.run_eq .foreground command
  rw [ran]
  simp

/-- No interrupt is lost, made or ignored in a session: in particular no command is asked for while
one is pending, where what is asked for is what the journals of the session have. -/
theorem interrupts_accounted (steps : List Step) :
    let visits := ({} : Session).visits steps
    visits.map (fun visit => (visit.result, visit.journal)) = ({} : Session).play steps ∧
    (∀ visit ∈ visits,
      visit.moments.filterMap (fun moment => moment.2.call? moment.1) = visit.journal.calls) ∧
    (∀ visit ∈ visits, ∀ moment ∈ visit.moments, ∀ mode command,
      moment.1 = .run mode command → moment.2.interruptPending = false) ∧
    (visits.map Visit.raised).sum =
      (visits.map Visit.consumed).sum + (({} : Session).leftBy steps).interruptPending.toNat ∧
    (∀ visit ∈ visits, visit.step.isStart = true →
      visit.after.interruptPending = (visit.before.interruptPending && !visit.before.equipped)) ∧
    (∀ visit ∈ visits, .interrupted ∉ visit.journal.answers.dropLast) ∧
    ∀ (session : Session) command,
      (session.run .foreground command).2.interruptPending = session.interruptPending := by
  have accounted := ({} : Session).visits_accounted steps
  have conserved := ({} : Session).visits_conserved steps
  refine ⟨({} : Session).visits_play steps, fun visit member => (accounted visit member).calls,
    fun visit member => (accounted visit member).heard, ?_,
    fun visit member => (accounted visit member).settles,
    fun visit member => (accounted visit member).last, foreground_pending⟩
  simpa using conserved

end Session

end DevCluster
