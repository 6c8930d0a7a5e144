import DevCluster.Proofs.Session.Settling

/-!
Runs of routines in a session: how each way of putting routines together ends, what it adds to the
journal, and in which session it leaves off.
-/

namespace DevCluster

open Routine

def Routine.Settles {α : Type} (routine : Routine α) : Prop :=
  ∀ dialogue result, routine.Ends dialogue result → Settled dialogue result

theorem Routine.Heeds.settles {α : Type} {routine : Routine α} (heeds : routine.Heeds) :
    routine.Settles :=
  fun _ _ ends => (heeds _ _ ends).settled

theorem Routine.Settles.map {α β : Type} {routine : Routine α} {change : α → β}
    (settles : routine.Settles) : (change <$> routine).Settles := by
  intro dialogue result ends
  obtain ⟨own, ended, rfl⟩ := ends_map.mp ends
  exact (settles _ _ ended).map

namespace Session

variable {α β : Type} {session between after : Session} {journal others : Journal}
  {routine : Routine α} {next : α → Routine β} {result : Except Stop α} {value : α}

def Runs (session : Session) (routine : Routine α) (result : Except Stop α) (journal : Journal)
    (after : Session) : Prop :=
  routine.run host (session, []) = (result, after, journal)

def relieved (session : Session) : Session :=
  { session with interruptPending := false }

theorem relieved_eq (idle : session.interruptPending = false) : session.relieved = session := by
  cases session
  cases idle
  rfl

theorem host_from (session : Session) (request : Request) (before : Journal) :
    host.perform request (session, before) =
      ((host.perform request (session, [])).1, (host.perform request (session, [])).2.1,
        before ++ (host.perform request (session, [])).2.2) := by
  cases request with
  | say line => rfl
  | locate tool => rfl
  | run mode command => rfl
  | _ => simp [host]

theorem host_settings (request : Request) (before : Journal) :
    (host.perform request (session, before)).2.1.settings = session.settings := by
  cases request with
  | run mode command =>
      obtain ⟨script, ran⟩ := session.run_eq mode command
      change (session.run mode command).2.settings = _
      rw [ran]
  | _ => rfl

theorem run_settings (routine : Routine α) (session : Session) (before : Journal) :
    (routine.run host (session, before)).2.1.settings = session.settings := by
  induction routine generalizing session before with
  | done value => rfl
  | stopped why => rfl
  | ask request rest ih => exact (ih _ _ _).trans (host_settings request before)

theorem run_from (routine : Routine α) (session : Session) (before : Journal) :
    routine.run host (session, before) =
      ((routine.run host (session, [])).1, (routine.run host (session, [])).2.1,
        before ++ (routine.run host (session, [])).2.2) := by
  induction routine generalizing session before with
  | done value => simp [Routine.run]
  | stopped why => simp [Routine.run]
  | ask request rest ih =>
      have own := host_from session request before
      simp only [Routine.run, own]
      rw [ih, ih _ _ (host.perform request (session, [])).2.2, List.append_assoc]

theorem exists_runs (session : Session) (routine : Routine α) :
    ∃ result journal after, session.Runs routine result journal after :=
  ⟨_, _, _, rfl⟩

def caught : Except Stop α → Except Stop (Option α)
  | .ok value => .ok (some value)
  | .error .interrupted => .ok none
  | .error (.failed failure) => .error (.failed failure)

theorem run_catchInterrupt (routine : Routine α) (session : Session) (before : Journal) :
    routine.catchInterrupt.run host (session, before) =
      match routine.run host (session, before) with
      | (.error .interrupted, after, journal) => (.ok none, after.relieved, journal)
      | (result, after, journal) => (caught result, after, journal) := by
  induction routine generalizing session before with
  | done value => rfl
  | stopped why => cases why <;> rfl
  | ask request rest ih => exact ih _ _ _

namespace Runs

theorem done (value : α) : session.Runs (.done value) (.ok value) [] session := rfl

theorem say (line : Line) : session.Runs (.say line) (.ok ()) [.said line] session := rfl

theorem settings (runs : session.Runs routine result journal after) :
    after.settings = session.settings := by
  have unchanged := run_settings routine session []
  rw [runs] at unchanged
  exact unchanged

theorem exists_dialogue (runs : session.Runs routine result journal after) :
    ∃ dialogue, routine.Ends dialogue result ∧
      host.Replies (session, []) dialogue (after, journal) := by
  have ends := ends_dialogue host routine (session, [])
  have replies := replies_dialogue host routine (session, [])
  rw [runs] at ends replies
  exact ⟨_, ends, replies⟩

theorem pending (settles : routine.Settles) (idle : session.interruptPending = false)
    (runs : session.Runs routine result journal after) :
    after.interruptPending = true ↔ result = .error .interrupted := by
  obtain ⟨dialogue, ends, replies⟩ := runs.exists_dialogue
  have settled := settles _ _ ends
  rw [replies_pending replies, idle]
  exact settled.pending

theorem idle_after (settles : routine.Settles) (idle : session.interruptPending = false)
    (runs : session.Runs routine result journal after) (unstopped : result ≠ .error .interrupted) :
    after.interruptPending = false := by
  have pending := runs.pending settles idle
  simpa [unstopped] using pending

theorem bind {ending : Except Stop β} (first : session.Runs routine (.ok value) journal between)
    (second : between.Runs (next value) ending others after) :
    session.Runs (routine >>= next) ending (journal ++ others) after := by
  rw [Runs, bind_eq, run_bind, first]
  dsimp only
  rw [run_from, second]

theorem bind_error {why : Stop} (first : session.Runs routine (.error why) journal after) :
    session.Runs (routine >>= next) (.error why) journal after := by
  rw [Runs, bind_eq, run_bind, first]

theorem unique {other : Except Stop α} {between : Session}
    (first : session.Runs routine result journal after)
    (second : session.Runs routine other others between) :
    result = other ∧ journal = others ∧ after = between := by
  obtain ⟨rfl, rfl, rfl⟩ : result = other ∧ after = between ∧ journal = others := by
    simpa using first.symm.trans second
  exact ⟨rfl, rfl, rfl⟩

theorem map (change : α → β) (runs : session.Runs routine result journal after) :
    session.Runs (change <$> routine) (result.map change) journal after := by
  cases result with
  | error why => exact runs.bind_error
  | ok value =>
      have mapped : session.Runs (change <$> routine) _ (journal ++ []) after :=
        runs.bind (Runs.done (change value))
      rwa [List.append_nil] at mapped

theorem catchInterrupt (settles : routine.Settles) (idle : session.interruptPending = false)
    (runs : session.Runs routine result journal after) :
    session.Runs routine.catchInterrupt (caught result) journal after.relieved := by
  have pending := runs.pending settles idle
  rw [Runs, run_catchInterrupt, runs]
  cases result with
  | ok value => rw [relieved_eq (by simpa using pending)]
  | error why =>
      cases why with
      | interrupted => rfl
      | failed failure => rw [relieved_eq (by simpa using pending)]

/-- A routine that settles its interrupts can be waited for in an idle session, which is idle again
when the wait is over. -/
theorem untilInterrupted (settles : routine.Settles) (idle : session.interruptPending = false)
    (runs : session.Runs routine result journal after) :
    session.Runs routine.untilInterrupted (caught result) journal after.relieved := by
  have waits : session.Runs routine.untilInterrupted = session.Runs routine.catchInterrupt := by
    have taking : host.perform .takeInterrupt (session, []) =
        (session.interruptPending, session.relieved, []) := rfl
    funext result journal after
    simp [Runs, Routine.untilInterrupted, Routine.run, taking, idle, relieved_eq idle]
  rw [waits]
  exact runs.catchInterrupt settles idle

end Runs

end Session

end DevCluster
