import DevCluster.Proofs.Session.Accounting
import DevCluster.Proofs.Session.Runs

/-!
Whole starts and stops against their parts taken as steps of their own, one after another: the same
calls, lines and ends, and the same session left, wherever a failure or an interrupt cuts them
short.
-/

namespace DevCluster

open Routine

def StepResult.cutsShort : StepResult → Bool
  | abandoned | failed _ => true
  | _ => false

/-- What comes of the parts taken one after another: all that they were made of has been read, or
the last part was abandoned or failed. -/
inductive Concludes {α : Type} (reads : List StepResult → α → Prop) :
    List StepResult → Except Stop α → Prop
  | complete {results value} : reads results value → Concludes reads results (.ok value)
  | abandoned {results} : results.getLast? = some .abandoned →
      Concludes reads results (.error .interrupted)
  | failed {results failure} : results.getLast? = some (.failed failure) →
      Concludes reads results (.error (.failed failure))

namespace Session

/-- The steps one after another, up to the first that fails or is abandoned. -/
def inTurn : Session → List Step → List (StepResult × Journal) × Session
  | session, [] => ([], session)
  | session, step :: steps =>
    let (result, journal, after) := step.perform session
    if result.cutsShort then ([(result, journal)], after)
    else
      let (parts, last) := after.inTurn steps
      ((result, journal) :: parts, last)

variable {session after : Session} {step : Step} {steps : List Step} {result : StepResult}
  {journal : Journal}

theorem inTurn_stops (performed : step.perform session = (result, journal, after))
    (cut : result.cutsShort = true) :
    session.inTurn (step :: steps) = ([(result, journal)], after) := by
  simp [inTurn, performed, cut]

theorem inTurn_goes_on (performed : step.perform session = (result, journal, after))
    (uncut : result.cutsShort = false) :
    session.inTurn (step :: steps) =
      ((result, journal) :: (after.inTurn steps).1, (after.inTurn steps).2) := by
  simp [inTurn, performed, uncut]

end Session

namespace Step

variable {α β : Type} {settings : Settings} {session after : Session} {step : Step}
  {steps : List Step} {journal : Journal}

theorem play_of_runs {routine : Routine StepResult} {result : Except Stop StepResult}
    (runs : session.Runs routine result journal after) :
    play session routine = (StepResult.ofRun result, journal, after) := by
  rw [play, runs]

theorem perform_of_runs {inner : Routine StepResult} {result : Except Stop StepResult}
    (plays : step.routine? session.settings = some (abandonable inner)) (settles : inner.Settles)
    (idle : session.interruptPending = false) (runs : session.Runs inner result journal after) :
    step.perform session = (StepResult.ofRun result, journal, after.relieved) := by
  have waited := (runs.untilInterrupted settles idle).map (·.getD .abandoned)
  have played : session.Runs (abandonable inner) ((Session.caught result).map (·.getD .abandoned))
      journal after.relieved := waited
  rw [perform_eq_play plays, play_of_runs played]
  cases result with
  | ok value => rfl
  | error why => cases why <;> rfl

/-- A step that runs one part of a start or stop, and goes on to the next unless it is cut short. -/
structure Part (settings : Settings) (step : Step) (inner : Routine α) (change : α → StepResult) :
    Prop where
  plays : step.routine? settings = some (abandonable (change <$> inner))
  settles : inner.Settles
  goesOn : ∀ value, (change value).cutsShort = false

/-- In every idle session the routine does what the steps do in turn. -/
def Composes (settings : Settings) (routine : Routine β) (steps : List Step)
    (reads : List StepResult → β → Prop) : Prop :=
  ∀ session : Session, session.settings = settings → session.interruptPending = false →
    ∃ result after, session.Runs routine result ((session.inTurn steps).1.flatMap Prod.snd) after ∧
      (session.inTurn steps).2 = after.relieved ∧
      (after.interruptPending = true ↔ result = .error .interrupted) ∧
      Concludes reads ((session.inTurn steps).1.map Prod.fst) result

theorem composes_pure {reads : List StepResult → β → Prop} {value : β} (read : reads [] value) :
    Composes settings (pure value) [] reads := by
  intro session _ idle
  refine ⟨.ok value, session, rfl, (Session.relieved_eq idle).symm, by simp [idle], ?_⟩
  exact .complete read

theorem composes_bind {inner : Routine α} {change : α → StepResult} {next : α → Routine β}
    {reads : List StepResult → β → Prop} (part : Part settings step inner change)
    (rest : ∀ value, Composes settings (next value) steps fun results =>
      reads (change value :: results)) :
    Composes settings (inner >>= next) (step :: steps) reads := by
  intro session same idle
  obtain ⟨result, journal, after, runs⟩ := session.exists_runs inner
  have pending := runs.pending part.settles idle
  have performed : step.perform session =
      (StepResult.ofRun (result.map change), journal, after.relieved) := by
    refine perform_of_runs ?_ part.settles.map idle (runs.map change)
    rw [same]
    exact part.plays
  cases result with
  | error why =>
      have stopped : (StepResult.ofRun ((Except.error why : Except Stop α).map change)).cutsShort =
          true := by
        cases why <;> rfl
      rw [Session.inTurn_stops performed stopped]
      refine ⟨.error why, after, by simpa using runs.bind_error, rfl, by simpa using pending, ?_⟩
      cases why with
      | interrupted => exact .abandoned rfl
      | failed failure => exact .failed rfl
  | ok value =>
      -- Nothing is pending behind a part that was not interrupted: the next step starts in the very
      -- session that the routine goes on in.
      have settled : after.interruptPending = false := by simpa using pending
      rw [Session.relieved_eq settled] at performed
      obtain ⟨ending, last, others, left, unpending, concludes⟩ :=
        rest value after (runs.settings.trans same) settled
      rw [Session.inTurn_goes_on performed (part.goesOn value)]
      refine ⟨ending, last, runs.bind others, left, unpending, ?_⟩
      cases concludes with
      | complete read => exact .complete read
      | abandoned last => exact .abandoned (by simp [List.getLast?_cons, last])
      | failed last => exact .failed (by simp [List.getLast?_cons, last])

end Step

namespace Startup

open Step

variable {settings : Settings} {session : Session}

theorem checkTools_part (settings : Settings) :
    Part settings .checkTools checkTools fun _ => .nothing :=
  ⟨rfl, fun _ _ ends => (toolSearch_of_ends ends).heeded.settled, fun _ => rfl⟩

theorem checkDaemon_part : Part settings .checkDaemon checkDaemon fun _ => .nothing :=
  ⟨rfl, fun _ _ ends => (daemonCheck_of_ends ends).heeded.settled, fun _ => rfl⟩

theorem bootstrapCluster_part :
    Part settings .bootstrapCluster (bootstrapCluster settings) fun _ => .nothing :=
  ⟨rfl, fun _ _ ends => (clusterBootstrap_of_ends ends).heeded.settled, fun _ => rfl⟩

theorem switchContext_part : Part settings .switchContext (switchContext settings) .switched :=
  ⟨rfl, fun _ _ ends => (contextChoice_of_ends ends).heeded.settled, fun _ => rfl⟩

theorem launchOrchestrator_part :
    Part settings .launchOrchestrator (launchOrchestrator settings) .started :=
  ⟨rfl, fun _ _ ends => (launch_of_ends ends).settled, fun _ => rfl⟩

/-- A start without its announcement and report, and without waiting for an interrupt. -/
def body (settings : Settings) : Routine StartOutcome := do
  checkTools
  prepareCluster settings
  launchOrchestrator settings

theorem body_composes :
    Composes settings (body settings)
      [.checkTools, .checkDaemon, .bootstrapCluster, .switchContext, .launchOrchestrator]
      fun results outcome => ∃ switched,
        results = [.nothing, .nothing, .nothing, .switched switched, .started outcome] := by
  refine composes_bind (checkTools_part settings) fun _ => ?_
  have flat : (do prepareCluster settings; launchOrchestrator settings) =
      (do
        checkDaemon
        bootstrapCluster settings
        let _ ← switchContext settings
        (launchOrchestrator settings).bind .done) := by
    simp only [prepareCluster, bind_eq, bind_assoc, bind_done]
    rfl
  rw [flat]
  refine composes_bind checkDaemon_part fun _ => composes_bind bootstrapCluster_part fun _ => ?_
  refine composes_bind switchContext_part fun switched => ?_
  exact composes_bind launchOrchestrator_part fun outcome => composes_pure ⟨switched, rfl⟩

/-- What a start tells last. -/
def ending : Except Stop StartOutcome → List Line
  | .ok .interrupted | .error .interrupted => interruptReport
  | .ok (.exited code) =>
    if code = some 0 then [] else [.warn s!"Tilt exited with status {describeExit code}"]
  | .error (.failed _) => []

def concluded : Except Stop StartOutcome → Except Stop StartOutcome
  | .error .interrupted => .ok .interrupted
  | result => result

theorem report_runs (settings : Settings) (session : Session) (outcome : StartOutcome) :
    session.Runs (do reportOutcome settings outcome; pure outcome) (.ok outcome)
      ((ending (.ok outcome)).map .said) session := by
  cases outcome with
  | interrupted => rfl
  | exited code =>
      by_cases success : code = some 0
      · simp only [reportOutcome, ending, success, if_true]
        rfl
      · simp only [reportOutcome, ending, success, if_false]
        rfl

/-- Tilt takes the interrupt that ends it, so the session is idle whatever comes of it. -/
theorem launch_runs (settings : Settings) (idle : session.interruptPending = false) :
    ∃ result journal after, session.Runs (launchOrchestrator settings) result journal after ∧
      after.interruptPending = false ∧ concluded result = result ∧
      session.Runs (do
          let outcome ← launchOrchestrator settings
          reportOutcome settings outcome
          pure outcome)
        result (journal ++ (ending result).map .said) after := by
  obtain ⟨result, journal, after, launches⟩ := session.exists_runs (launchOrchestrator settings)
  obtain ⟨_, ends, _⟩ := launches.exists_dialogue
  have unstopped : result ≠ .error .interrupted := by
    cases launch_of_ends ends <;> simp
  have idling := launches.idle_after launchOrchestrator_part.settles idle unstopped
  cases result with
  | ok outcome =>
      exact ⟨_, _, _, launches, idling, rfl, launches.bind (report_runs settings after outcome)⟩
  | error why =>
      cases why with
      | interrupted => exact absurd rfl unstopped
      | failed failure =>
          refine ⟨_, _, _, launches, idling, rfl, ?_⟩
          simpa [ending] using launches.bind_error

/-- An interrupt of the preparation comes to the same as one of Tilt. -/
theorem preparation_runs (settings : Settings) (idle : session.interruptPending = false) :
    ∃ result journal after,
      session.Runs (do prepareCluster settings; launchOrchestrator settings) result journal after ∧
      session.Runs (do
          let outcome ← match ← (prepareCluster settings).untilInterrupted with
            | some _ => launchOrchestrator settings
            | none => pure .interrupted
          reportOutcome settings outcome
          pure outcome)
        (concluded result) (journal ++ (ending result).map .said) after.relieved := by
  obtain ⟨prepared, journal, ready, prepares⟩ := session.exists_runs (prepareCluster settings)
  have settles : (prepareCluster settings).Settles :=
    fun _ _ ends => (preparation_of_ends ends).heeded.settled
  have waits := prepares.untilInterrupted settles idle
  cases prepared with
  | ok _ =>
      have idling := prepares.idle_after settles idle (by simp)
      rw [Session.relieved_eq idling] at waits
      obtain ⟨result, others, last, launches, settled, same, reports⟩ :=
        launch_runs settings idling
      refine ⟨result, journal ++ others, last, prepares.bind launches, ?_⟩
      rw [same, Session.relieved_eq settled, List.append_assoc]
      exact waits.bind reports
  | error why =>
      refine ⟨.error why, journal, ready, prepares.bind_error, ?_⟩
      cases why with
      | interrupted => exact waits.bind (report_runs settings ready.relieved .interrupted)
      | failed failure =>
          change session.Runs _ _ (journal ++ []) _
          rw [List.append_nil]
          exact waits.bind_error

theorem run_runs (settings : Settings) (idle : session.interruptPending = false) :
    ∃ result journal after, session.Runs (body settings) result journal after ∧
      session.Runs (run settings) (concluded result)
        (.said welcome :: (journal ++ (ending result).map .said)) after.relieved := by
  obtain ⟨searched, first, found, searches⟩ := session.exists_runs checkTools
  obtain ⟨_, search, _⟩ := searches.exists_dialogue
  have unstopped := (toolSearch_of_ends search).unstopped
  have idling := searches.idle_after (checkTools_part settings).settles idle unstopped
  cases searched with
  | ok _ =>
      obtain ⟨result, others, last, prepares, reports⟩ := preparation_runs settings idling
      refine ⟨result, first ++ others, last, searches.bind prepares, ?_⟩
      rw [List.append_assoc]
      exact (Session.Runs.say welcome).bind (searches.bind reports)
  | error why =>
      refine ⟨.error why, first, found, searches.bind_error, ?_⟩
      rw [Session.relieved_eq idling]
      cases why with
      | interrupted => exact absurd rfl unstopped
      | failed failure =>
          change session.Runs _ _ (.said welcome :: (first ++ [])) _
          rw [List.append_nil]
          exact (Session.Runs.say welcome).bind searches.bind_error

end Startup

namespace Shutdown

open Step

variable {settings : Settings} {session : Session}

theorem stopOrchestrator_part :
    Part settings .stopOrchestrator stopOrchestrator .orchestrator :=
  ⟨rfl, stopOrchestrator_heeds.settles, fun _ => rfl⟩

theorem deleteCluster_part : Part settings .deleteCluster (deleteCluster settings) .cluster :=
  ⟨rfl, (deleteCluster_heeds settings).settles, fun _ => rfl⟩

/-- A stop without its announcement and summary. -/
def body (settings : Settings) : Routine StopReport := do
  let orchestrator ← stopOrchestrator
  let cluster ← deleteCluster settings
  pure { orchestrator, cluster }

theorem body_composes :
    Composes settings (body settings) [.stopOrchestrator, .deleteCluster] fun results report =>
      results = [.orchestrator report.orchestrator, .cluster report.cluster] := by
  refine composes_bind stopOrchestrator_part fun orchestrator => ?_
  exact composes_bind deleteCluster_part fun cluster => composes_pure rfl

theorem run_runs {result : Except Stop StopReport} {journal : Journal} {after : Session}
    (runs : session.Runs (body settings) result journal after) :
    session.Runs (run settings) result
      (.said farewell :: (journal ++ if result.isOk then [.said summary] else [])) after := by
  have flat : run settings = (do
      Routine.say farewell
      let report ← body settings
      Routine.note (.stopFinished report)
      Routine.say summary
      pure report) := by
    simp only [run, body, bind_eq, bind_assoc]
    rfl
  rw [flat]
  refine (Session.Runs.say farewell).bind ?_
  cases result with
  | error why =>
      change session.Runs _ (.error why) (journal ++ []) after
      rw [List.append_nil]
      exact runs.bind_error
  | ok report => exact runs.bind rfl

end Shutdown

theorem Session.Runs.of_perform {α : Type} {inner : Routine α} {settings : Settings}
    {action : Action} {span : Span} {event : α → Event} {session after : Session}
    {result : Except Stop Unit} {journal : Journal}
    (surrounds : action.routine settings =
      within span (inner >>= fun value => Routine.note (event value)))
    (runs : session.Runs (action.perform settings) result journal after) :
    ∃ outcome, session.Runs inner outcome journal after ∧ result = outcome.map fun _ => () := by
  obtain ⟨_, ends, replies⟩ := runs.exists_dialogue
  obtain ⟨own, outcome, rest, ended, rfl, silent, rfl⟩ := Action.surrounded_ends surrounds ends
  obtain ⟨⟨between, told⟩, first, last⟩ := Host.replies_append.mp replies.2
  obtain rfl := replies_silent silent last
  obtain rfl : journal = told := by
    rw [replies_journal last, silent.journal, List.append_nil]
  exact ⟨outcome, run_of_ends ended first, rfl⟩

/-- The journals of the parts between the lines that only the whole has. -/
def Journal.around (opening : Line) (parts : List (StepResult × Journal)) (ending : List Line) :
    Journal :=
  .said opening :: (parts.flatMap Prod.snd ++ ending.map .said)

theorem Journal.calls_around (opening : Line) (parts : List (StepResult × Journal))
    (ending : List Line) :
    calls (around opening parts ending) = calls (parts.flatMap Prod.snd) := by
  have silent : calls (ending.map .said) = [] := by
    simp [calls, JournalEntry.line?]
  change calls (parts.flatMap Prod.snd ++ ending.map .said) = _
  rw [calls_append, silent, List.append_nil]

/-- What a start comes to whose parts, taken in turn, came to this. -/
def Startup.whole (parts : List (StepResult × Journal)) : Option (StepResult × Journal) :=
  let told := Journal.around welcome parts
  match (parts.map Prod.fst).getLast? with
  | some .abandoned | some (.started .interrupted) =>
    some (.started .interrupted, told interruptReport)
  | some (.started (.exited code)) =>
    some (.started (.exited code),
      told (if code = some 0 then [] else [.warn s!"Tilt exited with status {describeExit code}"]))
  | some (.failed failure) => some (.failed failure, told [])
  | _ => none

/-- What a stop comes to whose parts, taken in turn, came to this. -/
def Shutdown.whole (parts : List (StepResult × Journal)) : Option (StepResult × Journal) :=
  let told := Journal.around farewell parts
  match parts.map Prod.fst with
  | [.orchestrator orchestrator, .cluster cluster] =>
    some (.stopped { orchestrator, cluster }, told [summary])
  | results => if results.getLast? = some .abandoned then some (.abandoned, told []) else none

section

variable {parts : List (StepResult × Journal)} {result : StepResult} {journal : Journal}

theorem Startup.whole_calls (whole : Startup.whole parts = some (result, journal)) :
    journal.calls = Journal.calls (parts.flatMap Prod.snd) := by
  have around (ending : List Line) := Journal.calls_around welcome parts ending
  rw [Startup.whole] at whole
  split at whole
  next => cases whole; exact around _
  next => cases whole; exact around _
  next => cases whole; exact around _
  next => cases whole; exact around _
  next => cases whole

theorem Shutdown.whole_calls (whole : Shutdown.whole parts = some (result, journal)) :
    journal.calls = Journal.calls (parts.flatMap Prod.snd) := by
  have around (ending : List Line) := Journal.calls_around farewell parts ending
  rw [Shutdown.whole] at whole
  split at whole
  next => cases whole; exact around _
  next =>
    split at whole
    next => cases whole; exact around _
    next => cases whole

end

def StepResult.withoutValue : StepResult → StepResult
  | started _ | stopped _ => nothing
  | result => result

namespace Session

variable {session : Session}

theorem up_eq_whole (idle : session.interruptPending = false) :
    let (parts, left) := session.inTurn
      [.checkTools, .checkDaemon, .bootstrapCluster, .switchContext, .launchOrchestrator]
    ∃ result journal, Startup.whole parts = some (result, journal) ∧
      journal.calls = Journal.calls (parts.flatMap Prod.snd) ∧
      Step.up.perform session = (result, journal, left) := by
  obtain ⟨result, journal, after, body, runs⟩ := Startup.run_runs session.settings idle
  obtain ⟨_, _, others, left, _, concludes⟩ := Startup.body_composes session rfl idle
  obtain ⟨rfl, rfl, rfl⟩ := body.unique others
  have performed : Step.up.perform session = _ := Step.play_of_runs (runs.map StepResult.started)
  rw [performed]
  generalize session.inTurn _ = turn at left concludes ⊢
  obtain ⟨parts, last⟩ := turn
  obtain rfl : last = after.relieved := left
  suffices whole : Startup.whole parts = some _ from ⟨_, _, whole, Startup.whole_calls whole, rfl⟩
  cases concludes with
  | @complete outcome read =>
      obtain ⟨switched, results⟩ := read
      dsimp only at results
      rw [Startup.whole, results]
      cases outcome <;> rfl
  | abandoned abandoned =>
      dsimp only at abandoned
      rw [Startup.whole, abandoned]
      rfl
  | failed failed =>
      dsimp only at failed
      rw [Startup.whole, failed]
      rfl

theorem down_eq_whole (idle : session.interruptPending = false) :
    let (parts, left) := session.inTurn [.stopOrchestrator, .deleteCluster]
    ∃ result journal, Shutdown.whole parts = some (result, journal) ∧
      journal.calls = Journal.calls (parts.flatMap Prod.snd) ∧
      Step.down.perform session = (result, journal, left) := by
  obtain ⟨result, after, body, left, _, concludes⟩ :=
    Shutdown.body_composes session rfl idle
  have runs := Shutdown.run_runs body
  have settles := (Shutdown.run_heeds session.settings).settles
  have performed : Step.down.perform session = _ :=
    Step.perform_of_runs rfl settles.map idle (runs.map StepResult.stopped)
  obtain ⟨_, ends, _⟩ := runs.exists_dialogue
  have course := Shutdown.course_of_ends ends
  rw [performed]
  generalize session.inTurn _ = turn at left concludes ⊢
  obtain ⟨parts, last⟩ := turn
  obtain rfl : last = after.relieved := left
  suffices whole : Shutdown.whole parts = some _ from
    ⟨_, _, whole, Shutdown.whole_calls whole, rfl⟩
  cases concludes with
  | complete read =>
      dsimp only at read
      rw [Shutdown.whole, read]
      rfl
  | abandoned abandoned =>
      dsimp only [Shutdown.whole] at abandoned ⊢
      split
      next complete => simp [complete] at abandoned
      next =>
        rw [if_pos abandoned]
        rfl
  | failed failed => cases course.unfailing

theorem dispatch_up_eq (session : Session) :
    (Step.dispatch .up).perform session =
      ((Step.up.perform session).1.withoutValue, (Step.up.perform session).2) := by
  obtain ⟨result, journal, after, runs⟩ :=
    session.exists_runs (Action.up.perform session.settings)
  obtain ⟨outcome, started, rfl⟩ := runs.of_perform rfl
  have performed : Step.up.perform session = _ :=
    Step.play_of_runs (started.map StepResult.started)
  have dispatched : (Step.dispatch .up).perform session = _ :=
    Step.play_of_runs (runs.map fun _ => StepResult.nothing)
  rw [performed, dispatched]
  cases outcome with
  | ok value => rfl
  | error why => cases why <;> rfl

theorem dispatch_down_eq (idle : session.interruptPending = false) :
    (Step.dispatch .down).perform session =
      ((Step.down.perform session).1.withoutValue, (Step.down.perform session).2) := by
  obtain ⟨result, journal, after, runs⟩ :=
    session.exists_runs (Action.down.perform session.settings)
  obtain ⟨outcome, stopped, rfl⟩ := runs.of_perform rfl
  have performs : (Action.down.perform session.settings).Settles :=
    (Action.perform_heeds session.settings (by simp)).settles
  have settles := (Shutdown.run_heeds session.settings).settles
  have performed : Step.down.perform session = _ :=
    Step.perform_of_runs rfl settles.map idle (stopped.map StepResult.stopped)
  have dispatched : (Step.dispatch .down).perform session = _ :=
    Step.perform_of_runs rfl performs.map idle (runs.map fun _ => StepResult.nothing)
  rw [performed, dispatched]
  cases outcome with
  | ok value => rfl
  | error why => cases why <;> rfl

/-- In an idle session a start and a stop come to the same as their parts taken one after another,
with the lines that only the whole has around theirs, and the session is left the same. An action
that is dispatched is the same start or stop, and gives back no more than how it ended. -/
theorem runs_eq_wholes (session : Session) (idle : session.interruptPending = false) :
    (let (parts, left) := session.inTurn
        [.checkTools, .checkDaemon, .bootstrapCluster, .switchContext, .launchOrchestrator]
      ∃ result journal, Startup.whole parts = some (result, journal) ∧
        journal.calls = Journal.calls (parts.flatMap Prod.snd) ∧
        Step.up.perform session = (result, journal, left)) ∧
      (let (parts, left) := session.inTurn [.stopOrchestrator, .deleteCluster]
        ∃ result journal, Shutdown.whole parts = some (result, journal) ∧
          journal.calls = Journal.calls (parts.flatMap Prod.snd) ∧
          Step.down.perform session = (result, journal, left)) ∧
      (Step.dispatch .up).perform session =
        ((Step.up.perform session).1.withoutValue, (Step.up.perform session).2) ∧
      (Step.dispatch .down).perform session =
        ((Step.down.perform session).1.withoutValue, (Step.down.perform session).2) :=
  ⟨up_eq_whole idle, down_eq_whole idle, dispatch_up_eq session, dispatch_down_eq idle⟩

theorem interrupted_in_turn :
    let session : Session := {
      script := [
        ("bash scripts/setup_kind_cluster.sh", [.interrupt]),
        ("kind delete cluster --name lifeguard-test", [.interrupt])] }
    session.interruptPending = false ∧
      (Step.up.perform session).1 = .started .interrupted ∧
      (Step.down.perform session).1 = .abandoned ∧
      ((Step.dispatch .down).perform session).1 = .abandoned := by
  intro session
  obtain ⟨⟨_, _, start, _, starts⟩, ⟨_, _, stop, _, stops⟩, _, same⟩ := runs_eq_wholes session rfl
  cases start
  cases stop
  rw [same, starts, stops]
  exact ⟨rfl, rfl, rfl, rfl⟩

end Session

end DevCluster
