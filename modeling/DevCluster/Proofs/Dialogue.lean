import Mathlib
import DevCluster.Session

/-!
Runs of routines as dialogues: lists of requests with the replies to them. What a routine does is
told by its dialogues alone, whatever host gives the replies.
-/

namespace DevCluster

theorem Answer.exists_iff {holds : Answer → Prop} :
    (∃ answer, holds answer) ↔
      (∃ output, holds (.ended output)) ∨ (∃ fault, holds (.failed fault)) ∨
        holds .interrupted := by
  constructor
  · rintro ⟨answer, held⟩
    cases answer with
    | ended output => exact .inl ⟨output, held⟩
    | failed fault => exact .inr (.inl ⟨fault, held⟩)
    | interrupted => exact .inr (.inr held)
  · rintro (⟨output, held⟩ | ⟨fault, held⟩ | held)
    · exact ⟨_, held⟩
    · exact ⟨_, held⟩
    · exact ⟨_, held⟩

structure Exchange where
  request : Request
  reply : request.Reply

abbrev Dialogue := List Exchange

namespace Exchange

abbrev said (line : Line) : Exchange := ⟨.say line, ()⟩

abbrev noted (event : Event) : Exchange := ⟨.note event, ()⟩

abbrev located (tool : String) (path : Option String) : Exchange := ⟨.locate tool, path⟩

abbrev ran (mode : Mode) (command : Command) (answer : Answer) : Exchange :=
  ⟨.run mode command, answer⟩

abbrev taken (pending : Bool) : Exchange := ⟨.takeInterrupt, pending⟩

abbrev entered (span : Span) : Exchange := ⟨.enter span, ()⟩

abbrev left : Exchange := ⟨.leave, ()⟩

def record? : Exchange → Option JournalEntry
  | ⟨.say line, _⟩ => some (.said line)
  | ⟨.locate tool, path⟩ => some (.located tool (Option.isSome path))
  | ⟨.run mode command, answer⟩ => some (.ran mode command answer)
  | _ => none

end Exchange

def Dialogue.journal (dialogue : Dialogue) : Journal :=
  dialogue.filterMap Exchange.record?

namespace Dialogue

@[simp] theorem journal_nil : journal [] = [] := rfl

@[simp] theorem journal_append (first second : Dialogue) :
    journal (first ++ second) = journal first ++ journal second :=
  List.filterMap_append

@[simp] theorem journal_cons (exchange : Exchange) (rest : Dialogue) :
    journal (exchange :: rest) = exchange.record?.toList ++ journal rest := by
  cases entry : exchange.record? <;> simp [journal, entry]

end Dialogue

namespace Routine

variable {α β σ : Type}

/-- With the replies of the dialogue, the routine makes exactly its requests and ends so. -/
def Ends : Routine α → Dialogue → Except Stop α → Prop
  | done value, dialogue, result => dialogue = [] ∧ result = .ok value
  | stopped why, dialogue, result => dialogue = [] ∧ result = .error why
  | ask request next, dialogue, result =>
    ∃ reply rest, dialogue = ⟨request, reply⟩ :: rest ∧ (next reply).Ends rest result

def dialogue (host : Host σ) : Routine α → σ → Dialogue
  | done _, _ => []
  | stopped _, _ => []
  | ask request next, state =>
    let (reply, state) := host.perform request state
    ⟨request, reply⟩ :: (next reply).dialogue host state

end Routine

/-- Asked the requests of the dialogue one after another, the host gives its replies, and is left
in the state `after`. -/
def Host.Replies {σ : Type} (host : Host σ) : σ → Dialogue → σ → Prop
  | state, [], after => after = state
  | state, exchange :: rest, after =>
    (host.perform exchange.request state).1 = exchange.reply ∧
      host.Replies (host.perform exchange.request state).2 rest after

theorem Host.replies_append {σ : Type} {host : Host σ} {state after : σ}
    {first second : Dialogue} :
    host.Replies state (first ++ second) after ↔
      ∃ between, host.Replies state first between ∧ host.Replies between second after := by
  induction first generalizing state with
  | nil => simp [Host.Replies]
  | cons exchange rest ih => simp [Host.Replies, ih, and_assoc]

namespace Routine

open Exchange

variable {α β σ : Type}

theorem dialogue_ask (host : Host σ) (request : Request) (next : request.Reply → Routine α)
    (state : σ) :
    (ask request next).dialogue host state =
      ⟨request, (host.perform request state).1⟩ ::
        (next (host.perform request state).1).dialogue host (host.perform request state).2 := rfl

theorem ends_dialogue (host : Host σ) (routine : Routine α) (state : σ) :
    routine.Ends (routine.dialogue host state) (routine.run host state).1 := by
  induction routine generalizing state with
  | done value => exact ⟨rfl, rfl⟩
  | stopped why => exact ⟨rfl, rfl⟩
  | ask request next ih => exact ⟨_, _, rfl, ih _ _⟩

theorem replies_dialogue (host : Host σ) (routine : Routine α) (state : σ) :
    host.Replies state (routine.dialogue host state) (routine.run host state).2 := by
  induction routine generalizing state with
  | done value => rfl
  | stopped why => rfl
  | ask request next ih => exact ⟨rfl, ih _ _⟩

/-- Only one end fits the replies of a host. -/
theorem run_of_ends {host : Host σ} {routine : Routine α} {state after : σ} {dialogue : Dialogue}
    {result : Except Stop α} (ends : routine.Ends dialogue result)
    (replies : host.Replies state dialogue after) : routine.run host state = (result, after) := by
  induction routine generalizing state dialogue with
  | done value =>
      obtain ⟨rfl, rfl⟩ := ends
      exact congrArg (Prod.mk _) replies.symm
  | stopped why =>
      obtain ⟨rfl, rfl⟩ := ends
      exact congrArg (Prod.mk _) replies.symm
  | ask request next ih =>
      obtain ⟨reply, rest, rfl, ended⟩ := ends
      -- The reply in the dialogue is the host's own, so both go on with the same routine.
      obtain ⟨genuine, others⟩ := replies
      dsimp only at genuine others
      subst genuine
      exact ih _ ended others

@[simp] theorem ends_done {value : α} {dialogue : Dialogue} {result : Except Stop α} :
    (done value).Ends dialogue result ↔ dialogue = [] ∧ result = .ok value := Iff.rfl

@[simp] theorem ends_pure {value : α} {dialogue : Dialogue} {result : Except Stop α} :
    (pure value : Routine α).Ends dialogue result ↔ dialogue = [] ∧ result = .ok value := Iff.rfl

@[simp] theorem ends_stopped {why : Stop} {dialogue : Dialogue} {result : Except Stop α} :
    (stopped why).Ends dialogue result ↔ dialogue = [] ∧ result = .error why := Iff.rfl

@[simp] theorem ends_fail {failure : Failure} {dialogue : Dialogue} {result : Except Stop α} :
    (fail failure).Ends dialogue result ↔
      dialogue = [] ∧ result = .error (.failed failure) := Iff.rfl

theorem ends_ask {request : Request} {next : request.Reply → Routine α} {dialogue : Dialogue}
    {result : Except Stop α} :
    (ask request next).Ends dialogue result ↔
      ∃ reply rest, dialogue = ⟨request, reply⟩ :: rest ∧ (next reply).Ends rest result := Iff.rfl

theorem ends_ofExcept {outcome : Except Failure α} {dialogue : Dialogue}
    {result : Except Stop α} :
    (ofExcept outcome).Ends dialogue result ↔
      dialogue = [] ∧ result = outcome.mapError .failed := by
  cases outcome <;> rfl

/-- A sequence ends with its first part, unless that comes to its end; then with its second. -/
theorem ends_bind {routine : Routine α} {next : α → Routine β} {dialogue : Dialogue}
    {result : Except Stop β} :
    (routine >>= next).Ends dialogue result ↔
      (∃ why, result = .error why ∧ routine.Ends dialogue (.error why)) ∨
      ∃ value first second, dialogue = first ++ second ∧ routine.Ends first (.ok value) ∧
        (next value).Ends second result := by
  induction routine generalizing dialogue with
  | done value =>
      constructor
      · intro ends
        exact .inr ⟨value, [], dialogue, rfl, ⟨rfl, rfl⟩, ends⟩
      · rintro (⟨why, _, _, impossible⟩ | ⟨_, _, _, rfl, ⟨rfl, same⟩, ends⟩)
        · cases impossible
        · cases same
          exact ends
  | stopped why =>
      constructor
      · rintro ⟨rfl, rfl⟩
        exact .inl ⟨why, rfl, rfl, rfl⟩
      · rintro (⟨_, rfl, rfl, same⟩ | ⟨_, _, _, _, ⟨_, impossible⟩, _⟩)
        · cases same
          exact ⟨rfl, rfl⟩
        · cases impossible
  | ask request rest ih =>
      constructor
      · rintro ⟨reply, others, rfl, ends⟩
        rcases (ih reply).mp ends with ⟨why, same, ends⟩ | ⟨value, first, second, rfl, ended, ends⟩
        · exact .inl ⟨why, same, reply, others, rfl, ends⟩
        · exact .inr ⟨value, _, second, rfl, ⟨reply, first, rfl, ended⟩, ends⟩
      · rintro (⟨why, same, reply, others, rfl, ends⟩ |
          ⟨value, _, second, rfl, ⟨reply, others, rfl, ended⟩, ends⟩)
        · exact ⟨reply, others, rfl, (ih reply).mpr (.inl ⟨why, same, ends⟩)⟩
        · exact ⟨reply, others ++ second, rfl,
            (ih reply).mpr (.inr ⟨value, others, second, rfl, ended, ends⟩)⟩

theorem ends_pure_bind {value : α} {next : α → Routine β} {dialogue : Dialogue}
    {result : Except Stop β} :
    (pure value >>= next).Ends dialogue result ↔ (next value).Ends dialogue result := Iff.rfl

theorem ends_map {routine : Routine α} {change : α → β} {dialogue : Dialogue}
    {result : Except Stop β} :
    (change <$> routine).Ends dialogue result ↔
      ∃ own, routine.Ends dialogue own ∧ result = own.map change := by
  change (routine >>= fun value => done (change value)).Ends dialogue result ↔ _
  rw [ends_bind]
  constructor
  · rintro (⟨why, rfl, ends⟩ | ⟨value, first, _, rfl, ends, rfl, rfl⟩)
    · exact ⟨_, ends, rfl⟩
    · exact ⟨.ok value, by simpa using ends, rfl⟩
  · rintro ⟨own, ends, rfl⟩
    cases own with
    | error why => exact .inl ⟨why, rfl, ends⟩
    | ok value => exact .inr ⟨value, dialogue, [], by simp, ends, rfl, rfl⟩

theorem ends_request_bind {request : Request} {next : request.Reply → Routine β}
    {dialogue : Dialogue} {result : Except Stop β} :
    (Routine.request request >>= next).Ends dialogue result ↔
      ∃ reply rest, dialogue = ⟨request, reply⟩ :: rest ∧ (next reply).Ends rest result := Iff.rfl

@[simp] theorem ends_say_bind {line : Line} {next : Unit → Routine β} {dialogue : Dialogue}
    {result : Except Stop β} :
    (say line >>= next).Ends dialogue result ↔
      ∃ rest, dialogue = said line :: rest ∧ (next ()).Ends rest result :=
  Unique.exists_iff (α := Unit)

@[simp] theorem ends_note_bind {event : Event} {next : Unit → Routine β} {dialogue : Dialogue}
    {result : Except Stop β} :
    (note event >>= next).Ends dialogue result ↔
      ∃ rest, dialogue = noted event :: rest ∧ (next ()).Ends rest result :=
  Unique.exists_iff (α := Unit)

theorem ends_enter_bind {span : Span} {next : Unit → Routine β} {dialogue : Dialogue}
    {result : Except Stop β} :
    ((request (.enter span) : Routine Unit) >>= next).Ends dialogue result ↔
      ∃ rest, dialogue = entered span :: rest ∧ (next ()).Ends rest result :=
  Unique.exists_iff (α := Unit)

theorem ends_leave_bind {next : Unit → Routine β} {dialogue : Dialogue}
    {result : Except Stop β} :
    ((request .leave : Routine Unit) >>= next).Ends dialogue result ↔
      ∃ rest, dialogue = left :: rest ∧ (next ()).Ends rest result :=
  Unique.exists_iff (α := Unit)

@[simp] theorem ends_say {line : Line} {dialogue : Dialogue} {result : Except Stop Unit} :
    (say line).Ends dialogue result ↔ dialogue = [said line] ∧ result = .ok () := by
  constructor
  · rintro ⟨⟨⟩, _, rfl, rfl, rfl⟩
    exact ⟨rfl, rfl⟩
  · rintro ⟨rfl, rfl⟩
    exact ⟨(), [], rfl, rfl, rfl⟩

@[simp] theorem ends_note {event : Event} {dialogue : Dialogue} {result : Except Stop Unit} :
    (note event).Ends dialogue result ↔ dialogue = [noted event] ∧ result = .ok () := by
  constructor
  · rintro ⟨⟨⟩, _, rfl, rfl, rfl⟩
    exact ⟨rfl, rfl⟩
  · rintro ⟨rfl, rfl⟩
    exact ⟨(), [], rfl, rfl, rfl⟩

theorem ends_say_all {lines : List Line} {dialogue : Dialogue} {result : Except Stop Unit} :
    (lines.forM say).Ends dialogue result ↔ dialogue = lines.map said ∧ result = .ok () := by
  induction lines generalizing dialogue with
  | nil => exact Iff.rfl
  | cons line lines ih =>
      refine ends_say_bind.trans ?_
      constructor
      · rintro ⟨rest, rfl, ends⟩
        obtain ⟨rfl, rfl⟩ := ih.mp ends
        exact ⟨rfl, rfl⟩
      · rintro ⟨rfl, rfl⟩
        exact ⟨_, rfl, ih.mpr ⟨rfl, rfl⟩⟩

theorem ends_stopping {exchange : Exchange} {why : Stop} {dialogue : Dialogue}
    {result : Except Stop β} :
    (∃ rest, dialogue = exchange :: rest ∧ (stopped why : Routine β).Ends rest result) ↔
      dialogue = [exchange] ∧ result = .error why := by
  constructor
  · rintro ⟨_, rfl, rfl, rfl⟩
    exact ⟨rfl, rfl⟩
  · rintro ⟨rfl, rfl⟩
    exact ⟨[], rfl, rfl, rfl⟩

@[simp] theorem ends_capture_bind {command : Command} {next : Except RunFault Output → Routine β}
    {dialogue : Dialogue} {result : Except Stop β} :
    (capture command >>= next).Ends dialogue result ↔
      (∃ output rest, dialogue = ran .capture command (.ended output) :: rest ∧
        (next (.ok output)).Ends rest result) ∨
      (∃ fault rest, dialogue = ran .capture command (.failed fault) :: rest ∧
        (next (.error fault)).Ends rest result) ∨
      dialogue = [ran .capture command .interrupted] ∧ result = .error .interrupted :=
  Answer.exists_iff.trans (or_congr Iff.rfl (or_congr Iff.rfl ends_stopping))

@[simp] theorem ends_runAttached_bind {command : Command}
    {next : Except RunFault ExitCode → Routine β} {dialogue : Dialogue} {result : Except Stop β} :
    (runAttached command >>= next).Ends dialogue result ↔
      (∃ output rest, dialogue = ran .attached command (.ended output) :: rest ∧
        (next (.ok output.code)).Ends rest result) ∨
      (∃ fault rest, dialogue = ran .attached command (.failed fault) :: rest ∧
        (next (.error fault)).Ends rest result) ∨
      dialogue = [ran .attached command .interrupted] ∧ result = .error .interrupted :=
  Answer.exists_iff.trans (or_congr Iff.rfl (or_congr Iff.rfl ends_stopping))

@[simp] theorem ends_runForeground_bind {command : Command}
    {next : Except RunFault StartOutcome → Routine β} {dialogue : Dialogue}
    {result : Except Stop β} :
    (runForeground command >>= next).Ends dialogue result ↔
      (∃ output rest, dialogue = ran .foreground command (.ended output) :: rest ∧
        (next (.ok (.exited output.code))).Ends rest result) ∨
      (∃ fault rest, dialogue = ran .foreground command (.failed fault) :: rest ∧
        (next (.error fault)).Ends rest result) ∨
      ∃ rest, dialogue = ran .foreground command .interrupted :: rest ∧
        (next (.ok .interrupted)).Ends rest result :=
  Answer.exists_iff

theorem ends_attempt {routine : Routine α} {dialogue : Dialogue}
    {result : Except Stop (Except Failure α)} :
    routine.attempt.Ends dialogue result ↔
      (∃ value, routine.Ends dialogue (.ok value) ∧ result = .ok (.ok value)) ∨
      (∃ failure, routine.Ends dialogue (.error (.failed failure)) ∧
        result = .ok (.error failure)) ∨
      routine.Ends dialogue (.error .interrupted) ∧ result = .error .interrupted := by
  induction routine generalizing dialogue with
  | done value => simp [attempt]
  | stopped why => cases why <;> simp [attempt]
  | ask request next ih =>
      simp only [attempt, ends_ask, ih]
      constructor
      · rintro ⟨reply, rest, rfl, ⟨value, ends, rfl⟩ | ⟨failure, ends, rfl⟩ | ⟨ends, rfl⟩⟩
        · exact .inl ⟨value, ⟨reply, rest, rfl, ends⟩, rfl⟩
        · exact .inr (.inl ⟨failure, ⟨reply, rest, rfl, ends⟩, rfl⟩)
        · exact .inr (.inr ⟨⟨reply, rest, rfl, ends⟩, rfl⟩)
      · rintro (⟨value, ⟨reply, rest, rfl, ends⟩, rfl⟩ |
          ⟨failure, ⟨reply, rest, rfl, ends⟩, rfl⟩ | ⟨⟨reply, rest, rfl, ends⟩, rfl⟩)
        · exact ⟨reply, rest, rfl, .inl ⟨value, ends, rfl⟩⟩
        · exact ⟨reply, rest, rfl, .inr (.inl ⟨failure, ends, rfl⟩)⟩
        · exact ⟨reply, rest, rfl, .inr (.inr ⟨ends, rfl⟩)⟩

/-- What follows an attempt is handed how the routine has ended, unless an interrupt stops it. -/
theorem ends_attempt_bind {routine : Routine α} {next : Except Failure α → Routine β}
    {dialogue : Dialogue} {result : Except Stop β} :
    (routine.attempt >>= next).Ends dialogue result ↔
      (routine.Ends dialogue (.error .interrupted) ∧ result = .error .interrupted) ∨
      ∃ outcome own rest, dialogue = own ++ rest ∧
        routine.Ends own (outcome.mapError .failed) ∧ (next outcome).Ends rest result := by
  rw [ends_bind]
  constructor
  · rintro (⟨why, rfl, attempted⟩ | ⟨outcome, own, rest, rfl, attempted, others⟩)
    · rcases ends_attempt.mp attempted with ⟨_, _, impossible⟩ | ⟨_, _, impossible⟩ | ⟨ended, same⟩
      · cases impossible
      · cases impossible
      · cases same
        exact .inl ⟨ended, rfl⟩
    · rcases ends_attempt.mp attempted with ⟨value, ended, same⟩ | ⟨failure, ended, same⟩ |
        ⟨_, impossible⟩
      · cases same
        exact .inr ⟨.ok value, own, rest, rfl, ended, others⟩
      · cases same
        exact .inr ⟨.error failure, own, rest, rfl, ended, others⟩
      · cases impossible
  · rintro (⟨ended, rfl⟩ | ⟨outcome, own, rest, rfl, ended, others⟩)
    · exact .inl ⟨.interrupted, rfl, ends_attempt.mpr (.inr (.inr ⟨ended, rfl⟩))⟩
    · refine .inr ⟨outcome, own, rest, rfl, ends_attempt.mpr ?_, others⟩
      cases outcome with
      | ok value => exact .inl ⟨value, ended, rfl⟩
      | error failure => exact .inr (.inl ⟨failure, ended, rfl⟩)

/-- What follows a routine in a span: the span is left, unless an interrupt stops the routine. -/
def leaving : Except Stop α → Dialogue
  | .error .interrupted => []
  | _ => [left]

theorem ends_within {span : Span} {routine : Routine α} {dialogue : Dialogue}
    {result : Except Stop α} :
    (within span routine).Ends dialogue result ↔
      ∃ own, routine.Ends own result ∧ dialogue = entered span :: (own ++ leaving result) := by
  refine ends_enter_bind.trans ?_
  constructor
  · rintro ⟨rest, rfl, ends⟩
    rcases ends_attempt_bind.mp ends with ⟨ended, rfl⟩ | ⟨outcome, own, _, rfl, ended, others⟩
    · exact ⟨rest, ended, by simp [leaving]⟩
    · obtain ⟨_, rfl, last⟩ := ends_leave_bind.mp others
      obtain ⟨rfl, rfl⟩ := ends_ofExcept.mp last
      refine ⟨own, ended, ?_⟩
      cases outcome <;> rfl
  · rintro ⟨own, ended, rfl⟩
    refine ⟨_, rfl, ends_attempt_bind.mpr ?_⟩
    have left_last {given : Except Failure α} :
        (request .leave >>= fun _ => ofExcept given).Ends [left] (given.mapError .failed) :=
      ends_leave_bind.mpr ⟨[], rfl, ends_ofExcept.mpr ⟨rfl, rfl⟩⟩
    cases result with
    | ok value => exact .inr ⟨.ok value, own, _, rfl, ended, left_last⟩
    | error why =>
        cases why with
        | interrupted => exact .inl ⟨by simpa [leaving] using ended, rfl⟩
        | failed failure => exact .inr ⟨.error failure, own, _, rfl, ended, left_last⟩

theorem ends_catchInterrupt {routine : Routine α} {dialogue : Dialogue}
    {result : Except Stop (Option α)} :
    routine.catchInterrupt.Ends dialogue result ↔
      (∃ value, routine.Ends dialogue (.ok value) ∧ result = .ok (some value)) ∨
      (∃ failure, routine.Ends dialogue (.error (.failed failure)) ∧
        result = .error (.failed failure)) ∨
      ∃ own pending, dialogue = own ++ [taken pending] ∧ routine.Ends own (.error .interrupted) ∧
        result = .ok none := by
  induction routine generalizing dialogue with
  | done value => simp [catchInterrupt]
  | stopped why =>
      cases why with
      | failed failure => simp [catchInterrupt]
      | interrupted =>
          constructor
          · rintro ⟨pending, _, rfl, rfl, rfl⟩
            exact .inr (.inr ⟨[], pending, rfl, ⟨rfl, rfl⟩, rfl⟩)
          · rintro (⟨_, ⟨_, impossible⟩, _⟩ | ⟨_, ⟨_, impossible⟩, _⟩ |
              ⟨_, pending, rfl, ⟨rfl, _⟩, rfl⟩)
            · cases impossible
            · cases impossible
            · exact ⟨pending, [], rfl, rfl, rfl⟩
  | ask request next ih =>
      simp only [catchInterrupt, ends_ask, ih]
      constructor
      · rintro ⟨reply, rest, rfl, ⟨value, ends, rfl⟩ | ⟨failure, ends, rfl⟩ |
          ⟨own, pending, rfl, ends, rfl⟩⟩
        · exact .inl ⟨value, ⟨reply, rest, rfl, ends⟩, rfl⟩
        · exact .inr (.inl ⟨failure, ⟨reply, rest, rfl, ends⟩, rfl⟩)
        · exact .inr (.inr ⟨_, pending, rfl, ⟨reply, own, rfl, ends⟩, rfl⟩)
      · rintro (⟨value, ⟨reply, rest, rfl, ends⟩, rfl⟩ |
          ⟨failure, ⟨reply, rest, rfl, ends⟩, rfl⟩ |
          ⟨_, pending, rfl, ⟨reply, own, rfl, ends⟩, rfl⟩)
        · exact ⟨reply, rest, rfl, .inl ⟨value, ends, rfl⟩⟩
        · exact ⟨reply, rest, rfl, .inr (.inl ⟨failure, ends, rfl⟩)⟩
        · exact ⟨reply, _, rfl, .inr (.inr ⟨own, pending, rfl, ends, rfl⟩)⟩

theorem ends_untilInterrupted {routine : Routine α} {dialogue : Dialogue}
    {result : Except Stop (Option α)} :
    routine.untilInterrupted.Ends dialogue result ↔
      dialogue = [taken true] ∧ result = .ok none ∨
      ∃ rest, dialogue = taken false :: rest ∧ routine.catchInterrupt.Ends rest result := by
  constructor
  · rintro ⟨pending, rest, rfl, ends⟩
    cases pending with
    | true =>
        obtain ⟨rfl, rfl⟩ := ends
        exact .inl ⟨rfl, rfl⟩
    | false => exact .inr ⟨rest, rfl, ends⟩
  · rintro (⟨rfl, rfl⟩ | ⟨rest, rfl, ends⟩)
    · exact ⟨true, [], rfl, rfl, rfl⟩
    · exact ⟨false, rest, rfl, ends⟩

end Routine

end DevCluster
