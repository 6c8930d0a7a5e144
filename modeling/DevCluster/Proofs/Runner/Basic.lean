import DevCluster.Proofs.Session.Runs
import DevCluster.Proofs.Session.Visits

/-!
Runners: whatever looks for tools and answers commands. The steps of a session can be taken with any
runner, and what a session has scripted is one.
-/

namespace DevCluster

/-- Looks for tools and answers commands, each by what it is and by all that were run before it. -/
structure Runner where
  locate : String → Option String
  answer : List (Mode × Command) → Mode → Command → Answer

namespace Runner

def after (runner : Runner) (mode : Mode) (command : Command) : Runner :=
  { runner with answer := fun earlier => runner.answer ((mode, command) :: earlier) }

structure State where
  runner : Runner
  interruptPending : Bool
  journal : Journal

def host : Host State where
  perform
    | .settingsFile, state => ({ path := "", content := .absent }, state)
    | .lookUp _, state => (none, state)
    | .locate tool, state =>
      let path := state.runner.locate tool
      (path, { state with journal := state.journal ++ [.located tool path.isSome] })
    | .run mode command, state =>
      let answer := state.runner.answer [] mode command
      let raised := mode ≠ .foreground && answer.isInterrupted
      (answer, {
        runner := state.runner.after mode command
        interruptPending := state.interruptPending || raised
        journal := state.journal ++ [.ran mode command answer] })
    | .say line, state => ((), { state with journal := state.journal ++ [.said line] })
    | .takeInterrupt, state => (state.interruptPending, { state with interruptPending := false })
    | .note _, state | .enter _, state | .leave, state | .write _, state => ((), state)

/-- The result and the journal of every step in order. Steps that only set up a session are passed
over. -/
def play (settings : Settings) : Runner → Bool → List Step → List (StepResult × Journal)
  | _, _, [] => []
  | runner, pending, step :: steps =>
    match step.routine? settings with
    | none => play settings runner pending steps
    | some routine =>
      let (result, state) := routine.run host ⟨runner, pending, []⟩
      (StepResult.ofRun result, state.journal) ::
        play settings state.runner state.interruptPending steps

end Runner

namespace Session

variable {session : Session} {journal : Journal}

/-- The session after commands have used up their replies. -/
def afterCommands (session : Session) (commands : List (Mode × Command)) : Session :=
  commands.foldl (fun session call => (session.run call.1 call.2).2) session

def runner (session : Session) : Runner where
  locate tool := if !session.missing.contains tool then some s!"/usr/local/bin/{tool}" else none
  answer earlier mode command := ((session.afterCommands earlier).run mode command).1

def state (session : Session) (journal : Journal) : Runner.State :=
  ⟨session.runner, session.interruptPending, journal⟩

theorem run_pending (pending : Bool) (mode : Mode) (command : Command) :
    ∃ waiting, ({ session with interruptPending := pending }).run mode command =
      ((session.run mode command).1,
        { (session.run mode command).2 with interruptPending := waiting }) := by
  simp only [run, nextReply_pending]
  exact ⟨_, rfl⟩

theorem afterCommands_pending (pending : Bool) (commands : List (Mode × Command)) :
    ∃ waiting, ({ session with interruptPending := pending }).afterCommands commands =
      { session.afterCommands commands with interruptPending := waiting } := by
  induction commands generalizing session pending with
  | nil => exact ⟨pending, rfl⟩
  | cons first others ih =>
      obtain ⟨waiting, ran⟩ := session.run_pending pending first.1 first.2
      obtain ⟨last, same⟩ := @ih (session.run first.1 first.2).2 waiting
      refine ⟨last, ?_⟩
      simp only [afterCommands, List.foldl_cons, ran] at same ⊢
      exact same

theorem runner_pending (pending : Bool) :
    ({ session with interruptPending := pending }).runner = session.runner := by
  simp only [runner, Runner.mk.injEq, true_and]
  funext earlier mode command
  obtain ⟨waiting, same⟩ := session.afterCommands_pending pending earlier
  obtain ⟨last, ran⟩ := (session.afterCommands earlier).run_pending waiting mode command
  rw [same, ran]

theorem runner_after (mode : Mode) (command : Command) :
    session.runner.after mode command = (session.run mode command).2.runner := by
  obtain ⟨script, ran⟩ := session.run_eq mode command
  have missing : (session.run mode command).2.missing = session.missing := by rw [ran]
  simp only [Runner.after, runner, missing, Runner.mk.injEq, true_and]
  rfl

theorem perform_state (request : Request) :
    Runner.host.perform request (session.state journal) =
      ((host.perform request (session, journal)).1,
        (host.perform request (session, journal)).2.1.state
          (host.perform request (session, journal)).2.2) := by
  cases request with
  | locate tool =>
      simp only [Runner.host, host, state, runner]
      cases session.missing.contains tool <;> rfl
  | run mode command =>
      obtain ⟨script, ran⟩ := session.run_eq mode command
      have pending := congrArg interruptPending ran
      refine Prod.ext rfl ?_
      change Runner.State.mk (session.runner.after mode command) _ _ =
        Runner.State.mk _ (session.run mode command).2.interruptPending _
      rw [runner_after, pending]
      rfl
  | takeInterrupt =>
      have same : session.relieved.runner = session.runner := session.runner_pending false
      exact Prod.ext rfl (congrArg (Runner.State.mk · false journal) same.symm)
  | _ => rfl

theorem run_state {α : Type} (routine : Routine α) (session : Session) (journal : Journal) :
    routine.run Runner.host (session.state journal) =
      ((routine.run host (session, journal)).1,
        (routine.run host (session, journal)).2.1.state
          (routine.run host (session, journal)).2.2) := by
  induction routine generalizing session journal with
  | done value => rfl
  | stopped why => rfl
  | ask request next ih =>
      simp only [Routine.run, perform_state]
      exact ih _ _ _

/-- Steps taken in a session are taken with the runner that it has scripted. -/
theorem play_runner {steps : List Step}
    (run : ∀ step ∈ steps, (step.routine? session.settings).isSome) :
    session.runner.play session.settings session.interruptPending steps = session.play steps := by
  induction steps generalizing session with
  | nil => rfl
  | cons step steps ih =>
      obtain ⟨routine, plays⟩ := Option.isSome_iff_exists.mp (run step List.mem_cons_self)
      have settings := run_settings routine session []
      have played := run_state routine session []
      rw [state] at played
      simp only [Runner.play, Session.play, plays, played, Step.perform_eq_play plays, Step.play]
      refine congrArg (List.cons _) ?_
      rw [← ih fun other member => ?_, settings]
      · rfl
      · rw [settings]
        exact run other (List.mem_cons_of_mem step member)

end Session

end DevCluster
