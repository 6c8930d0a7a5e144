import DevCluster.Proofs.Journal

/-!
What a session makes of a dialogue: its journal, whether an interrupt is pending after it, and the
answers, which come from the script.
-/

namespace DevCluster

open Exchange Dialogue

namespace Session

def equipped (session : Session) : Bool :=
  Startup.requiredTools.all (!session.missing.contains ·)

def answersTo : Session → List (Mode × Command) → List Answer
  | _, [] => []
  | session, (mode, command) :: others =>
    let (answer, next) := session.run mode command
    answer :: next.answersTo others

variable {session after : Session} {journal last : Journal} {dialogue : Dialogue}

theorem nextReply_eq (command : Command) :
    ∃ script, (session.nextReply command).2 = { session with script } := by
  simp only [nextReply]
  split
  · exact ⟨_, rfl⟩
  · exact ⟨_, rfl⟩
  · exact ⟨_, rfl⟩
  · exact ⟨_, rfl⟩

theorem isInterrupted_answer (reply : Reply) (program : String) :
    (reply.answer program).isInterrupted = decide (reply = .interrupt) := by
  cases reply <;> simp [Reply.answer, Answer.isInterrupted]

/-- A command uses up its reply, and leaves the interrupt pending that ends it. -/
theorem run_eq (mode : Mode) (command : Command) :
    ∃ script, (session.run mode command).2 =
      { session with
        script
        interruptPending := session.interruptPending ||
          (mode ≠ .foreground && (session.run mode command).1.isInterrupted) } := by
  obtain ⟨script, unchanged⟩ := session.nextReply_eq command
  refine ⟨script, ?_⟩
  simp only [run, unchanged, isInterrupted_answer, Bool.decide_and, Bool.and_comm]

theorem host_journal (request : Request) :
    (host.perform request (session, journal)).2.2 =
      journal ++
        (record? ⟨request, (host.perform request (session, journal)).1⟩).toList := by
  cases request with
  | locate tool =>
      simp only [host, record?]
      cases session.missing.contains tool <;> rfl
  | _ => simp [host, record?]

theorem host_pending (request : Request) :
    (host.perform request (session, journal)).2.1.interruptPending =
      Exchange.pendingAfter session.interruptPending
        ⟨request, (host.perform request (session, journal)).1⟩ := by
  cases request with
  | run mode command =>
      obtain ⟨script, ran⟩ := session.run_eq mode command
      change (session.run mode command).2.interruptPending = _
      rw [ran]
      rfl
  | _ => simp [host, Exchange.pendingAfter, raises, taken?]

theorem host_locate (tool : String) :
    ((host.perform (.locate tool) (session, journal)).1 : Option String).isNone =
      session.missing.contains tool := by
  simp only [host]
  cases session.missing.contains tool <;> rfl

theorem replies_journal (replies : host.Replies (session, journal) dialogue (after, last)) :
    last = journal ++ dialogue.journal := by
  induction dialogue generalizing session journal with
  | nil =>
      obtain ⟨_, rfl⟩ := Prod.mk.inj replies
      simp
  | cons exchange rest ih =>
      obtain ⟨genuine, others⟩ := replies
      rw [ih others, host_journal, genuine, journal_cons, List.append_assoc]

theorem replies_pending (replies : host.Replies (session, journal) dialogue (after, last)) :
    after.interruptPending = dialogue.pendingAfter session.interruptPending := by
  induction dialogue generalizing session journal with
  | nil =>
      obtain ⟨rfl, _⟩ := Prod.mk.inj replies
      rfl
  | cons exchange rest ih =>
      obtain ⟨genuine, others⟩ := replies
      rw [ih others, host_pending, genuine, pendingAfter_cons]

theorem replies_truthful (replies : host.Replies (session, journal) dialogue (after, last)) :
    dialogue.Truthful session.interruptPending := by
  induction dialogue generalizing session journal with
  | nil => trivial
  | cons exchange rest ih =>
      obtain ⟨genuine, others⟩ := replies
      have truthful := ih others
      rw [host_pending, genuine] at truthful
      refine ⟨fun told taking => ?_, truthful⟩
      rcases exchange with ⟨request, reply⟩
      cases request with
      | takeInterrupt => exact (Option.some.inj taking).symm.trans genuine.symm
      | _ => simp [taken?] at taking

theorem nextReply_pending (pending : Bool) (command : Command) :
    ({ session with interruptPending := pending }).nextReply command =
      ((session.nextReply command).1,
        { (session.nextReply command).2 with interruptPending := pending }) := by
  simp only [nextReply]
  split
  · rfl
  · rfl
  · rfl
  · rfl

theorem answersTo_pending (pending : Bool) (commands : List (Mode × Command)) :
    ({ session with interruptPending := pending }).answersTo commands =
      session.answersTo commands := by
  induction commands generalizing session pending with
  | nil => rfl
  | cons first others ih =>
      obtain ⟨mode, command⟩ := first
      simp only [answersTo, run, nextReply_pending]
      rw [ih]
      exact congrArg _ (ih _).symm

theorem replies_answers (replies : host.Replies (session, journal) dialogue (after, last)) :
    dialogue.journal.answers = session.answersTo dialogue.journal.commands := by
  induction dialogue generalizing session journal with
  | nil => rfl
  | cons exchange rest ih =>
      obtain ⟨genuine, others⟩ := replies
      have later := ih others
      rcases exchange with ⟨request, reply⟩
      cases request with
      | run mode command =>
          have answered : (session.run mode command).1 = reply := genuine
          rw [journal_cons]
          exact congrArg₂ List.cons answered.symm later
      | takeInterrupt =>
          rw [journal_cons]
          exact later.trans (answersTo_pending _ _)
      | _ => exact later

end Session

end DevCluster
