import DevCluster.Proofs.Session.Replies
import DevCluster.Proofs.Startup.Course

/-!
The steps of a session, each with the session before and after it, and what its commands and
interrupts come to.
-/

namespace DevCluster

open Exchange Dialogue

/-- The requests of a routine's run, each with the state of the host that it finds. -/
def Routine.moments {σ α : Type} (host : Host σ) : Routine α → σ → List (Request × σ)
  | done _, _ | stopped _, _ => []
  | ask request next, state =>
    let (reply, after) := host.perform request state
    (request, state) :: (next reply).moments host after

theorem Routine.moments_orderly {α : Type} (routine : Routine α) (session : Session)
    (journal : Journal)
    (orderly : Orderly session.interruptPending
      (routine.dialogue Session.host (session, journal)))
    {mode : Mode} {command : Command} {state : Session × Journal}
    (asked : (.run mode command, state) ∈ routine.moments Session.host (session, journal)) :
    state.1.interruptPending = false := by
  induction routine generalizing session journal with
  | done value => cases asked
  | stopped why => cases asked
  | ask request next ih =>
      rw [dialogue_ask, Orderly, ← Session.host_pending] at orderly
      rcases List.mem_cons.mp asked with same | others
      · cases same
        exact orderly.1 rfl
      · exact ih _ _ _ orderly.2 others

/-- What a journal has of a request that finds the session so, if it is for a tool or a command. -/
def Session.call? (session : Session) : Request → Option JournalEntry
  | .locate tool => some (.located tool (!session.missing.contains tool))
  | .run mode command => some (.ran mode command (session.run mode command).1)
  | _ => none

theorem Routine.moments_calls {α : Type} (routine : Routine α) (session : Session)
    (journal : Journal) :
    (routine.moments Session.host (session, journal)).filterMap
        (fun moment => moment.2.1.call? moment.1) =
      (routine.dialogue Session.host (session, journal)).journal.calls := by
  induction routine generalizing session journal with
  | done value => rfl
  | stopped why => rfl
  | ask request next ih =>
      rw [dialogue_ask, journal_cons, Journal.calls_append, ← ih]
      cases request with
      | locate tool =>
          by_cases missing : tool ∈ session.missing <;>
            simp [moments, Session.call?, Session.host, record?, Journal.calls,
              JournalEntry.line?, missing]
      | _ => rfl

namespace Step

def isStart : Step → Bool
  | up | dispatch .up => true
  | _ => false

theorem perform_eq_play {session : Session} {step : Step} {routine : Routine StepResult}
    (plays : step.routine? session.settings = some routine) :
    step.perform session = play session routine := by
  rw [perform, plays]

theorem perform_eq_setUp {session : Session} {step : Step}
    (setsUp : step.routine? session.settings = none) :
    step.perform session = ((step.setUp session).1, [], (step.setUp session).2) := by
  rw [perform, setsUp]

theorem setUp_cases {settings : Settings} {step : Step} (setUp : step.routine? settings = none) :
    (∃ document environment, step = configure document environment) ∨
      (∃ tools, step = missing tools) ∨
      (∃ commandLine replies, step = script commandLine replies) ∨ step = interrupt := by
  cases step with
  | configure document environment => exact .inl ⟨_, _, rfl⟩
  | missing tools => exact .inr (.inl ⟨_, rfl⟩)
  | script commandLine replies => exact .inr (.inr (.inl ⟨_, _, rfl⟩))
  | interrupt => exact .inr (.inr (.inr rfl))
  | dispatch action => cases action <;> cases setUp
  | _ => cases setUp

end Step

structure Visit where
  before : Session
  step : Step
  result : StepResult
  journal : Journal
  after : Session

namespace Session

def visit (session : Session) (step : Step) : Visit :=
  let (result, journal, after) := step.perform session
  { before := session, step, result, journal, after }

def visits : Session → List Step → List Visit
  | _, [] => []
  | session, step :: steps => session.visit step :: (session.visit step).after.visits steps

def leftBy (session : Session) (steps : List Step) : Session :=
  steps.foldl (fun session step => (session.visit step).after) session

theorem visits_play (session : Session) (steps : List Step) :
    (session.visits steps).map (fun visit => (visit.result, visit.journal)) =
      session.play steps := by
  induction steps generalizing session with
  | nil => rfl
  | cons step steps ih => exact congrArg (List.cons _) (ih _)

end Session

/-- A command ended by an interrupt that it leaves pending. -/
def JournalEntry.raises : JournalEntry → Bool
  | ran mode _ answer => mode ≠ .foreground && answer.isInterrupted
  | _ => false

namespace Visit

def moments (visit : Visit) : List (Request × Session) :=
  match visit.step.routine? visit.before.settings with
  | none => []
  | some routine =>
    (routine.moments Session.host (visit.before, [])).map fun moment => (moment.1, moment.2.1)

/-- How many interrupts the step raises. One that is pending already is not raised again. -/
def raised (visit : Visit) : Nat :=
  (visit.step = .interrupt && !visit.before.interruptPending).toNat +
    visit.journal.countP JournalEntry.raises

/-- Whether a start ends by an interrupt, as its result says, or else what it tells at its end. -/
def endsInterrupted (visit : Visit) : Bool :=
  match visit.step with
  | .up => visit.result = .started .interrupted
  | _ => Startup.interruptReport.isSuffixOf visit.journal.lines

/-- How many interrupts the step consumes: the one that it is abandoned for, or that a start ends
by before Tilt runs. -/
def consumed (visit : Visit) : Nat :=
  (visit.result = .abandoned : Bool).toNat +
    (visit.step.isStart && visit.before.equipped && visit.endsInterrupted &&
      !visit.journal.launches).toNat

end Visit

end DevCluster
