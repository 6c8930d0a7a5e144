import DevCluster.Proofs.Session.Branching
import DevCluster.Proofs.Session.Settling
import DevCluster.Proofs.Startup.Gating

/-!
What an interrupt makes of a start: the same run up to the command that it interrupts, and then the
report of the interrupt and nothing else, whatever would have come of the command.
-/

namespace DevCluster

open Exchange Dialogue Routine

namespace Dialogue

def Undisturbed (dialogue : Dialogue) : Prop :=
  ∀ exchange ∈ dialogue, exchange.isInterrupted = false

variable {before behind first last dialogue : Dialogue} {exchange : Exchange} {mode : Mode}
  {command : Command}

@[simp] theorem undisturbed_nil : Undisturbed [] := by
  simp [Undisturbed]

@[simp] theorem undisturbed_cons :
    Undisturbed (exchange :: dialogue) ↔
      exchange.isInterrupted = false ∧ Undisturbed dialogue := by
  simp [Undisturbed]

@[simp] theorem undisturbed_append :
    Undisturbed (first ++ last) ↔ Undisturbed first ∧ Undisturbed last :=
  List.forall_mem_append

theorem Calm.undisturbed (calm : Calm dialogue) : Undisturbed dialogue :=
  fun exchange member => (calm exchange member).1

theorem Undisturbed.not_mem (undisturbed : Undisturbed dialogue) :
    ran mode command .interrupted ∉ dialogue := by
  intro member
  cases undisturbed _ member

theorem Undisturbed.ne_append (undisturbed : Undisturbed dialogue) :
    dialogue ≠ first ++ ran mode command .interrupted :: last := by
  intro same
  have member : ran mode command .interrupted ∈ dialogue := by simp [same]
  exact undisturbed.not_mem member

/-- Where one command is interrupted and no other, there is one place to part a dialogue at it. -/
theorem part_interrupted (exchange : Exchange) (opening : Undisturbed before)
    (ending : Undisturbed behind)
    (same : before ++ exchange :: behind = first ++ ran mode command .interrupted :: last) :
    before = first ∧ behind = last := by
  obtain ⟨front, _, back⟩ :=
    (List.append_cons_inj_of_notMem opening.not_mem ending.not_mem).mp same
  exact ⟨front, back⟩

end Dialogue

namespace Startup

variable {settings : Settings} {dialogue first last : Dialogue} {mode : Mode} {command : Command}
  {result : Except Stop StartOutcome}

theorem reportDialogue_undisturbed (settings : Settings) (outcome : StartOutcome) :
    Undisturbed (reportDialogue settings outcome) :=
  (reportDialogue_quiet outcome).calm.undisturbed

theorem reportDialogue_journal (settings : Settings) :
    (reportDialogue settings .interrupted).journal = interruptReport.map .said := rfl

theorem opening_undisturbed {search : Dialogue} {found : Except Stop Unit} (pending : Bool)
    (searched : ToolSearch requiredTools search found) (undisturbed : Undisturbed dialogue) :
    Undisturbed (said welcome :: (search ++ taken pending :: dialogue)) := by
  have quiet := searched.quiet.calm.undisturbed
  simp [quiet, undisturbed, isInterrupted]

def announcement (settings : Settings) : Dialogue :=
  [said (.info "🎯 Starting Tilt..."), said (.detail s!"Tilt UI: {settings.orchestratorUrl}"),
    said (.detail s!"PostgreSQL: {settings.databaseHint} (via Tilt port forward)")]

theorem launchDialogue_eq (settings : Settings) (answer : Answer) :
    launchDialogue settings answer =
      announcement settings ++ [ran .foreground orchestrator answer] := rfl

theorem announcement_undisturbed (settings : Settings) : Undisturbed (announcement settings) := by
  simp [announcement, isInterrupted]

theorem launchDialogue_undisturbed (settings : Settings) (answer : Answer)
    (returned : answer.isInterrupted = false) :
    Undisturbed (launchDialogue settings answer) := by
  rw [launchDialogue_eq]
  simp [announcement_undisturbed, isInterrupted, returned]

/-- After a command that is interrupted, a start tells of the interrupt and ends by it. -/
theorem Course.cut (course : Course settings dialogue result)
    (interrupted : dialogue = first ++ ran mode command .interrupted :: last) :
    result = .ok .interrupted ∧ last.journal = interruptReport.map .said := by
  cases course with
  | toolMissing searched =>
      have undisturbed : Undisturbed (said welcome :: _) :=
        undisturbed_cons.mpr ⟨rfl, searched.quiet.calm.undisturbed⟩
      exact absurd interrupted undisturbed.ne_append
  | alreadyInterrupted searched =>
      have undisturbed := opening_undisturbed true searched
        (reportDialogue_undisturbed settings .interrupted)
      exact absurd interrupted undisturbed.ne_append
  | preparationFailed searched preparation =>
      have calm := preparation.heeded.calm_of_ne (by simp)
      have undisturbed := opening_undisturbed false searched calm.undisturbed
      exact absurd interrupted undisturbed.ne_append
  | @preparationInterrupted search preparation pending searched prepared =>
      -- The interrupted command is the last of the preparation.
      have heeded := prepared.heeded
      cases heeded with
      | calm _ unstopped => exact absurd rfl unstopped
      | @interrupted before mode command calm _ =>
          have opening := opening_undisturbed false searched calm.undisturbed
          have ending : Undisturbed (taken pending :: reportDialogue settings .interrupted) :=
            undisturbed_cons.mpr ⟨rfl, reportDialogue_undisturbed settings _⟩
          obtain ⟨_, rfl⟩ := part_interrupted (ran mode command .interrupted) opening
            ending (by simpa using interrupted)
          exact ⟨rfl, reportDialogue_journal settings⟩
  | launchFailed searched prepared launch =>
      have calm := prepared.heeded.calm_of_ne (by simp)
      cases launch with
      | @notRun fault =>
          have failed := launchDialogue_undisturbed settings (.failed fault) rfl
          have undisturbed := opening_undisturbed false searched
            (undisturbed_append.mpr ⟨calm.undisturbed, failed⟩)
          exact absurd interrupted undisturbed.ne_append
  | launched searched prepared launch =>
      have calm := prepared.heeded.calm_of_ne (by simp)
      cases launch with
      | @exited output =>
          have ended := launchDialogue_undisturbed settings (.ended output) rfl
          have reported := reportDialogue_undisturbed settings (.exited output.code)
          have undisturbed := opening_undisturbed false searched
            (undisturbed_append.mpr ⟨calm.undisturbed, undisturbed_append.mpr ⟨ended, reported⟩⟩)
          exact absurd interrupted undisturbed.ne_append
      | interrupted =>
          have opening := opening_undisturbed false searched
            (undisturbed_append.mpr ⟨calm.undisturbed, announcement_undisturbed settings⟩)
          have ending := reportDialogue_undisturbed settings .interrupted
          obtain ⟨_, rfl⟩ := part_interrupted
            (ran .foreground orchestrator .interrupted) opening ending
            (by simpa [launchDialogue_eq] using interrupted)
          exact ⟨rfl, reportDialogue_journal settings⟩

variable {session other after : Session} {journal before rest : Journal} {answer : Answer}

theorem cut_runs (idle : session.interruptPending = false)
    (asked : ((run settings).run Session.host (session, [])).2.2 =
      before ++ .ran mode command answer :: rest)
    (cut : session.CutBy other before mode command) :
    ∃ after, (run settings).run Session.host (other, []) =
        (.ok .interrupted, after,
          before ++ .ran mode command .interrupted :: interruptReport.map .said) ∧
      after.interruptPending = false := by
  obtain ⟨first, last, rfl, interrupted⟩ := cut.dialogue idle asked
  -- The other run has a course of its own, in which the command is interrupted.
  have course := course_of_ends (ends_dialogue Session.host (run settings) (other, []))
  have replies := replies_dialogue Session.host (run settings) (other, [])
  obtain ⟨ended, told⟩ := course.cut interrupted
  have settles := course.settles replies
  have journal := Session.replies_journal replies
  generalize (run settings).run Session.host (other, []) = outcome at ended settles journal ⊢
  obtain ⟨result, after, journal⟩ := outcome
  dsimp only at ended settles journal
  subst ended
  refine ⟨after, ?_, ?_⟩
  · rw [journal, interrupted, List.nil_append, journal_append, journal_cons, told]
    rfl
  · split at settles
    · exact settles
    · obtain ⟨_, _, impossible⟩ := settles
      cases impossible

theorem ToolSearch.recorded {tools : List String} {search : Dialogue}
    (searched : ToolSearch tools search (.ok ())) :
    search.journal = tools.map (.located · true) := by
  generalize complete : (.ok () : Except Stop Unit) = found at searched
  induction searched with
  | complete => rfl
  | missing => cases complete
  | found _ ih => exact congrArg (List.cons _) (ih complete)

/-- A start that finds its tools and a pending interrupt takes it and ends by it. -/
theorem Course.of_pending (course : Course settings dialogue result)
    (replies : Session.host.Replies (session, []) dialogue (after, journal))
    (pending : session.interruptPending = true) (complete : session.equipped = true) :
    result = .ok .interrupted ∧ after.interruptPending = false ∧
      dialogue.journal =
        .said welcome :: (requiredTools.map (.located · true) ++ interruptReport.map .said) := by
  have settled := course.settles replies
  rw [if_pos complete] at settled
  have truthful := Session.replies_truthful replies
  rw [pending] at truthful
  have told {search others : Dialogue} {taking : Bool}
      (searched : ToolSearch requiredTools search (.ok ()))
      (truthful : Truthful true (said welcome :: (search ++ taken taking :: others))) :
      taking = true :=
    Quiet.told searched.quiet truthful.2
  -- A course in which nothing is found pending contradicts what the session tells.
  cases course with
  | toolMissing searched =>
      obtain ⟨rfl, _⟩ := searched.on_session replies.2
      rw [pending] at settled
      cases settled
  | alreadyInterrupted searched =>
      refine ⟨rfl, settled, ?_⟩
      rw [journal_cons, journal_append, searched.recorded, journal_cons, reportDialogue_journal]
      rfl
  | preparationFailed searched => cases told searched truthful
  | preparationInterrupted searched => cases told searched truthful
  | launchFailed searched => cases told searched truthful
  | launched searched => cases told searched truthful

/-- An interrupt of any command of a start leaves what the start did before as it was, and puts the
report of the interrupt in place of all that would have followed, a failure included. An interrupt
that is pending when a start has found its tools does so before its first command. -/
theorem start_truncated (settings : Settings) (session : Session) :
    let journal := ((run settings).run Session.host (session, [])).2.2
    (session.interruptPending = false →
      ∀ before mode command answer rest, journal = before ++ .ran mode command answer :: rest →
        session.CutBy (session.interrupting before.commands command) before mode command ∧
        ∀ other, session.CutBy other before mode command →
          ∃ after, (run settings).run Session.host (other, []) =
              (.ok .interrupted, after,
                before ++ .ran mode command .interrupted :: interruptReport.map .said) ∧
            after.interruptPending = false) ∧
    (session.interruptPending = true →
      (∀ tool ∈ ["docker", "kind", "kubectl", "tilt"], tool ∉ session.missing) →
        ∃ after, (run settings).run Session.host (session, []) =
            (.ok .interrupted, after, journal) ∧
          after.interruptPending = false ∧
          journal.commands = [] ∧
          journal.lines =
            .info "🚀 Starting Lifeguard development environment (Kind)..." :: interruptReport) := by
  intro journal
  refine ⟨fun idle before mode command answer rest asked => ?_, fun pending found => ?_⟩
  · exact ⟨Session.cutBy_interrupting idle asked, fun other cut => cut_runs idle asked cut⟩
  · have complete : session.equipped = true := by
      simpa [Session.equipped, requiredTools] using found
    have course := course_of_ends (ends_dialogue Session.host (run settings) (session, []))
    have replies := replies_dialogue Session.host (run settings) (session, [])
    obtain ⟨ended, settled, recorded⟩ := course.of_pending replies pending complete
    have journaled : journal = _ := (Session.replies_journal replies).trans recorded
    refine ⟨_, Prod.ext ended rfl, settled, ?_, ?_⟩
    · rw [journaled]
      rfl
    · rw [journaled]
      rfl

/-- A bootstrap that would fail, interrupted, and a start with an interrupt pending. -/
theorem bootstrap_truncated :
    let session : Session :=
      { script := [("bash scripts/setup_kind_cluster.sh", [.output { code := some 2 }])] }
    let other := session.setReplies "bash scripts/setup_kind_cluster.sh" [.interrupt]
    let waiting : Session := { session with interruptPending := true }
    (∃ after journal, (run .defaults).run Session.host (other, []) =
        (.ok .interrupted, after, journal) ∧
      journal.commands =
        [(.capture, { program := "docker", arguments := ["info"] }),
          (.attached, { program := "bash", arguments := ["scripts/setup_kind_cluster.sh"] })] ∧
      after.interruptPending = false) ∧
    ((run .defaults).run Session.host (waiting, [])).2.2.commands = [] := by
  intro session other waiting
  obtain ⟨truncated, _⟩ := start_truncated .defaults session
  obtain ⟨_, taken⟩ := start_truncated .defaults waiting
  refine ⟨?_, ?_⟩
  · obtain ⟨_, cut⟩ := truncated rfl _ .attached
      { program := "bash", arguments := ["scripts/setup_kind_cluster.sh"] } _ [] rfl
    obtain ⟨after, ended, settled⟩ := cut other ⟨rfl, rfl, rfl⟩
    exact ⟨after, _, ended, rfl, settled⟩
  · obtain ⟨_, _, _, unasked, _⟩ := taken rfl (by simp [waiting, session])
    exact unasked

end Startup

end DevCluster
