import DevCluster.Proofs.Lookup
import DevCluster.Proofs.Session.Replies

/-!
Two sessions with one script up to a command, to which they give different answers: a routine does
the same in both up to that command, and goes on from the answer that it gets.
-/

namespace DevCluster

open Exchange Dialogue Routine

def Command.line (command : Command) : String :=
  " ".intercalate command.words

namespace Session

def repliesTo (session : Session) (commandLine : String) : List Reply :=
  (session.script.lookup commandLine).getD []

/-- The replies that are left after one has been used. The last one is used again and again. -/
def unused : List Reply → List Reply
  | [] => []
  | [last] => [last]
  | _ :: others => others

variable {session other after left : Session} {command : Command} {commandLine : String}

theorem repliesTo_setReplies (replies : List Reply) (other : String) :
    (session.setReplies other replies).repliesTo commandLine =
      if commandLine = other then replies else session.repliesTo commandLine := by
  have removed := lookup_filter_ne session.script commandLine other
  by_cases same : commandLine = other
  · subst same
    rw [if_pos rfl] at removed ⊢
    cases replies with
    | nil => rw [repliesTo, setReplies, List.isEmpty_nil, if_pos rfl, removed, Option.getD_none]
    | cons reply replies => simp [repliesTo, setReplies]
  · rw [if_neg same] at removed ⊢
    cases replies with
    | nil => rw [repliesTo, setReplies, List.isEmpty_nil, if_pos rfl, removed, repliesTo]
    | cons reply replies =>
        rw [repliesTo, setReplies, List.isEmpty_cons, if_neg (by simp), List.lookup_cons,
          beq_false_of_ne same, removed, repliesTo]

theorem nextReply_of_repliesTo (session : Session) (command : Command) :
    session.nextReply command =
      match session.repliesTo command.line with
      | [] => (.output { code := some 0 }, session)
      | [last] => (last, session)
      | first :: others => (first, session.setReplies command.line others) := by
  rw [nextReply, repliesTo, Command.line]
  cases session.script.lookup (" ".intercalate command.words) with
  | none => rfl
  | some replies =>
      rcases replies with _ | ⟨first, _ | ⟨next, others⟩⟩ <;> rfl

theorem nextReply_fst (session : Session) (command : Command) :
    (session.nextReply command).1 =
      (session.repliesTo command.line).headD (.output { code := some 0 }) := by
  rw [nextReply_of_repliesTo]
  rcases session.repliesTo command.line with _ | ⟨first, _ | ⟨next, others⟩⟩ <;> rfl

theorem repliesTo_nextReply (session : Session) (command : Command) (commandLine : String) :
    (session.nextReply command).2.repliesTo commandLine =
      if commandLine = command.line then unused (session.repliesTo commandLine)
      else session.repliesTo commandLine := by
  rw [nextReply_of_repliesTo]
  by_cases same : commandLine = command.line
  · subst same
    rw [if_pos rfl]
    rcases scripted : session.repliesTo command.line with _ | ⟨first, _ | ⟨next, others⟩⟩
    · exact scripted
    · exact scripted
    · exact (repliesTo_setReplies _ _).trans (if_pos rfl)
  · rw [if_neg same]
    rcases session.repliesTo command.line with _ | ⟨first, _ | ⟨next, others⟩⟩
    · rfl
    · rfl
    · exact (repliesTo_setReplies _ _).trans (if_neg same)

variable {mode : Mode} {earlier : List (Mode × Command)}

/-- The replies that commands use for one command line when they are run one after another. -/
def uses : Session → List (Mode × Command) → String → List Reply
  | _, [], _ => []
  | session, (mode, command) :: others, commandLine =>
    let later := (session.run mode command).2.uses others commandLine
    if command.line = commandLine then (session.nextReply command).1 :: later else later

/-- The session with the same script, except that a command to come after these is interrupted. -/
def interrupting (session : Session) (earlier : List (Mode × Command)) (command : Command) :
    Session :=
  session.setReplies command.line (session.uses earlier command.line ++ [.interrupt])

theorem run_fst (session : Session) (mode : Mode) (command : Command) :
    (session.run mode command).1 = (session.nextReply command).1.answer command.program := rfl

theorem repliesTo_run (session : Session) (mode : Mode) (command : Command)
    (commandLine : String) :
    (session.run mode command).2.repliesTo commandLine =
      if commandLine = command.line then unused (session.repliesTo commandLine)
      else session.repliesTo commandLine :=
  repliesTo_nextReply session command commandLine

/-- Sessions that differ in the replies to one command line only answer alike up to a command of
that line, to which one of them has the last reply. -/
theorem answersTo_of_uses
    (same : ∀ commandLine ≠ command.line,
      other.repliesTo commandLine = session.repliesTo commandLine)
    (scripted : other.repliesTo command.line = session.uses earlier command.line ++ [.interrupt]) :
    other.answersTo (earlier ++ [(mode, command)]) =
      session.answersTo earlier ++ [.interrupted] := by
  induction earlier generalizing session other with
  | nil =>
      have reply : (other.nextReply command).1 = .interrupt := by
        rw [nextReply_fst, scripted]
        rfl
      have answer : (other.run mode command).1 = .interrupted := by
        rw [run_fst, reply]
        rfl
      exact congrArg (· :: []) answer
  | cons first earlier ih =>
      obtain ⟨firstMode, firstCommand⟩ := first
      have answer (reply : (other.nextReply firstCommand).1 = (session.nextReply firstCommand).1) :
          (other.run firstMode firstCommand).1 = (session.run firstMode firstCommand).1 := by
        rw [run_fst, run_fst, reply]
      -- A command of the same line uses up one reply in both sessions; any other command uses a
      -- reply that both scripts have alike.
      by_cases one : firstCommand.line = command.line
      · have used : other.repliesTo command.line = (session.nextReply firstCommand).1 ::
            ((session.run firstMode firstCommand).2.uses earlier command.line ++ [.interrupt]) := by
          rw [scripted, uses, if_pos one, List.cons_append]
        have reply : (other.nextReply firstCommand).1 = (session.nextReply firstCommand).1 := by
          rw [nextReply_fst other, one, used]
          rfl
        have later := @ih (session.run firstMode firstCommand).2
          (other.run firstMode firstCommand).2
          (fun commandLine differs => by
            rw [repliesTo_run, repliesTo_run, one, if_neg differs, if_neg differs, same _ differs])
          (by rw [repliesTo_run, if_pos one.symm, used]; cases uses _ earlier command.line <;> rfl)
        exact congrArg₂ List.cons (answer reply) later
      · have reply : (other.nextReply firstCommand).1 = (session.nextReply firstCommand).1 := by
          rw [nextReply_fst, nextReply_fst, same _ one]
        have later := @ih (session.run firstMode firstCommand).2
          (other.run firstMode firstCommand).2
          (fun commandLine differs => by rw [repliesTo_run, repliesTo_run, same _ differs])
          (by rw [repliesTo_run, if_neg (Ne.symm one), scripted, uses, if_neg one])
        exact congrArg₂ List.cons (answer reply) later

theorem answersTo_interrupting (session : Session) (earlier : List (Mode × Command)) (mode : Mode)
    (command : Command) :
    (session.interrupting earlier command).answersTo (earlier ++ [(mode, command)]) =
      session.answersTo earlier ++ [.interrupted] := by
  refine answersTo_of_uses (fun commandLine differs => ?_) ?_
  · rw [interrupting, repliesTo_setReplies, if_neg differs]
  · rw [interrupting, repliesTo_setReplies, if_pos rfl]

theorem answersTo_concat (session : Session) (first : List (Mode × Command))
    (call : Mode × Command) :
    ∃ answer, session.answersTo (first ++ [call]) = session.answersTo first ++ [answer] := by
  induction first generalizing session with
  | nil => exact ⟨_, rfl⟩
  | cons earlier first ih =>
      obtain ⟨answer, same⟩ := ih (session.run earlier.1 earlier.2).2
      exact ⟨answer, congrArg (List.cons _) same⟩

theorem answersTo_prefix (session : Session) (first others : List (Mode × Command)) :
    session.answersTo first <+: session.answersTo (first ++ others) := by
  induction first generalizing session with
  | nil => exact List.nil_prefix
  | cons call first ih => exact (List.prefix_cons_inj _).mpr (ih _)

/-- Another session with the same tools has the same answers up to a command, which it interrupts.
Like the first one, it starts with no interrupt pending. -/
structure CutBy (session other : Session) (before : Journal) (mode : Mode) (command : Command) :
    Prop where
  tools : other.missing = session.missing
  idle : other.interruptPending = false
  answers : other.answersTo (before.commands ++ [(mode, command)]) =
    before.answers ++ [.interrupted]

variable {journal last before : Journal} {dialogue first rest : Dialogue}

theorem host_missing (request : Request) :
    (host.perform request (session, journal)).2.1.missing = session.missing := by
  cases request with
  | run mode command =>
      obtain ⟨script, ran⟩ := session.run_eq mode command
      change (session.run mode command).2.missing = _
      rw [ran]
  | _ => rfl

/-- A session gives all replies of another one if its tools and its pending interrupt are the same,
and its answers. -/
theorem replies_of_answers (replies : host.Replies (session, journal) dialogue (after, last))
    (tools : other.missing = session.missing)
    (pending : other.interruptPending = session.interruptPending)
    (answers : dialogue.journal.answers = other.answersTo dialogue.journal.commands) :
    ∃ left, host.Replies (other, journal) dialogue (left, last) := by
  induction dialogue generalizing session other journal with
  | nil => exact ⟨other, congrArg (Prod.mk other) (Prod.mk.inj replies).2⟩
  | cons exchange rest ih =>
      obtain ⟨genuine, others⟩ := replies
      rcases exchange with ⟨request, reply⟩
      dsimp only at genuine others
      have told : (host.perform request (other, journal)).1 = reply := by
        cases request with
        | run mode command =>
            have first := (List.cons.inj answers).1
            exact first.symm
        | locate tool =>
            rw [← genuine]
            simp only [host, tools]
        | takeInterrupt => exact pending.trans genuine
        | _ => exact genuine
      -- Only a command takes an answer, so behind other requests the same answers are to come.
      have later : Journal.answers (Dialogue.journal rest) =
          (host.perform request (other, journal)).2.1.answersTo
            (Journal.commands (Dialogue.journal rest)) := by
        cases request with
        | run mode command => exact (List.cons.inj answers).2
        | takeInterrupt => exact answers.trans (answersTo_pending _ _).symm
        | _ => exact answers
      have recorded : (host.perform request (other, journal)).2.2 =
          (host.perform request (session, journal)).2.2 := by
        rw [host_journal, host_journal, told, genuine]
      obtain ⟨left, same⟩ := @ih (host.perform request (session, journal)).2.1
        (host.perform request (other, journal)).2.1
        (host.perform request (session, journal)).2.2 others
        (by rw [host_missing, host_missing, tools])
        (by rw [host_pending, host_pending, told, genuine, pending]) later
      rw [← recorded] at same
      exact ⟨left, told, same⟩

end Session

/-- A run that follows the first replies of a dialogue asks for what is asked for after them. -/
theorem Routine.dialogue_of_replies {α σ : Type} {routine : Routine α} {host : Host σ}
    {state between : σ} {first rest : Dialogue} {exchange : Exchange} {result : Except Stop α}
    (ends : routine.Ends (first ++ exchange :: rest) result)
    (replies : host.Replies state first between) :
    ∃ last, routine.dialogue host state =
      first ++ ⟨exchange.request, (host.perform exchange.request between).1⟩ :: last := by
  induction routine generalizing state first with
  | done value => simp [Ends] at ends
  | stopped why => simp [Ends] at ends
  | ask request next ih =>
      obtain ⟨reply, others, asked, ended⟩ := ends
      cases first with
      | nil =>
          obtain rfl := (List.cons.inj asked).1
          cases replies
          exact ⟨_, rfl⟩
      | cons earlier first =>
          obtain ⟨rfl, rfl⟩ := List.cons.inj asked
          obtain ⟨genuine, later⟩ := replies
          obtain ⟨last, same⟩ := ih reply ended later
          refine ⟨last, ?_⟩
          rw [dialogue_ask, List.cons_append, ← same]
          dsimp only at genuine
          rw [genuine]

/-- An entry of a journal is an exchange of the dialogue, which parts the dialogue as it parts the
journal. -/
theorem Dialogue.exists_of_journal {dialogue : Dialogue} {earlier later : Journal}
    {entry : JournalEntry} (recorded : dialogue.journal = earlier ++ entry :: later) :
    ∃ (first : Dialogue) (exchange : Exchange) (last : Dialogue),
      dialogue = first ++ exchange :: last ∧ first.journal = earlier ∧
        exchange.record? = some entry := by
  obtain ⟨opening, others, rfl, same, ending⟩ := List.filterMap_eq_append_iff.mp recorded
  obtain ⟨silent, exchange, last, rfl, unrecorded, kept, _⟩ := List.filterMap_eq_cons_iff.mp ending
  refine ⟨opening ++ silent, exchange, last, by simp, ?_, kept⟩
  have nothing : Dialogue.journal silent = [] := List.filterMap_eq_nil_iff.mpr unrecorded
  rw [journal_append, nothing, List.append_nil]
  exact same

theorem Exchange.eq_ran {exchange : Exchange} {mode : Mode} {command : Command} {answer : Answer}
    (recorded : exchange.record? = some (.ran mode command answer)) :
    exchange = ran mode command answer := by
  rcases exchange with ⟨request, reply⟩
  cases request <;> cases recorded
  rfl

section

variable {α : Type} {session other : Session} {routine : Routine α} {before rest : Journal}
  {mode : Mode} {command : Command} {answer : Answer}

/-- What a run has done before a command, and the answers that the script has given so far. -/
theorem Session.exists_asked
    (asked : (routine.run host (session, [])).2.2 = before ++ .ran mode command answer :: rest) :
    ∃ (first : Dialogue) (between : Session) (told : Journal) (last : Dialogue),
      routine.dialogue host (session, []) = first ++ ran mode command answer :: last ∧
      first.journal = before ∧ host.Replies (session, []) first (between, told) ∧
      before.answers = session.answersTo before.commands := by
  have replies := replies_dialogue host routine (session, [])
  have recorded := (replies_journal replies).symm.trans asked
  obtain ⟨first, exchange, last, parted, rfl, kept⟩ := exists_of_journal recorded
  rw [Exchange.eq_ran kept] at parted
  rw [parted] at replies
  obtain ⟨⟨between, told⟩, opening, _⟩ := Host.replies_append.mp replies
  exact ⟨first, between, told, last, parted, rfl, opening, replies_answers opening⟩

/-- Every command of a run can be interrupted by another script. -/
theorem Session.cutBy_interrupting (idle : session.interruptPending = false)
    (asked : (routine.run host (session, [])).2.2 = before ++ .ran mode command answer :: rest) :
    session.CutBy (session.interrupting before.commands command) before mode command := by
  obtain ⟨_, _, _, _, _, _, _, given⟩ := exists_asked asked
  refine ⟨rfl, idle, ?_⟩
  rw [given]
  exact session.answersTo_interrupting before.commands mode command

/-- A routine does the same in both sessions up to the command that one of them interrupts. -/
theorem Session.CutBy.dialogue (cut : session.CutBy other before mode command)
    (idle : session.interruptPending = false)
    (asked : (routine.run host (session, [])).2.2 = before ++ .ran mode command answer :: rest) :
    ∃ first last : Dialogue, first.journal = before ∧
      routine.dialogue host (other, []) = first ++ ran mode command .interrupted :: last := by
  obtain ⟨first, between, told, others, parted, rfl, opening, _⟩ := exists_asked asked
  have ends := ends_dialogue host routine (session, [])
  rw [parted] at ends
  obtain ⟨found, answered⟩ := other.answersTo_concat first.journal.commands (mode, command)
  obtain ⟨given, _⟩ := List.append_inj' (answered.symm.trans cut.answers) rfl
  obtain ⟨left, followed⟩ :=
    replies_of_answers opening cut.tools (cut.idle.trans idle.symm) given.symm
  obtain ⟨reply, last, same⟩ : ∃ reply last, routine.dialogue host (other, []) =
      first ++ ran mode command reply :: last := ⟨_, dialogue_of_replies ends followed⟩
  -- The answer at the cut is the one that the other session's script has for it.
  have later := replies_answers (replies_dialogue host routine (other, []))
  rw [same, journal_append, Journal.answers_append, Journal.commands_append] at later
  have calls : first.journal.commands ++ (journal (ran mode command reply :: last)).commands =
      (first.journal.commands ++ [(mode, command)]) ++
        Journal.commands (Dialogue.journal last) := by
    rw [List.append_assoc]
    rfl
  have scripted := other.answersTo_prefix (first.journal.commands ++ [(mode, command)])
    (Journal.commands (Dialogue.journal last))
  rw [cut.answers, ← calls, ← later] at scripted
  obtain ⟨rfl, _⟩ := List.cons_prefix_cons.mp ((List.prefix_append_right_inj _).mp scripted)
  exact ⟨first, last, rfl, same⟩

end

end DevCluster
