import DevCluster.Proofs.Runner.Basic

/-!
What routines observe of the answers they get, and coupled routines: as long as their replies are
observed alike they make the same requests and come to like ends. No runner is told by them from one
whose answers are observed alike.
-/

namespace DevCluster

/-- What can be seen of a command that was not interrupted. -/
inductive Sight
  | success (succeeded : Bool)
  | listing (text : String)
  | ending (code : Except RunFault ExitCode)

namespace Sight

def succeeded : Except RunFault Output → Bool
  | .ok output => output.code = some 0
  | .error _ => false

def text : Except RunFault Output → String
  | .ok output => output.stdout
  | .error _ => ""

/-- Of a command whose output is kept only its success is seen, of a listing of the clusters only
its text, and of all others how they ended. -/
def ofReply (mode : Mode) (command : Command) (reply : Except RunFault Output) : Sight :=
  if mode ≠ .capture then .ending (reply.map Output.code)
  else if command = Shutdown.clusterListing then .listing (text reply)
  else .success (succeeded reply)

end Sight

namespace Answer

def elim {α : Type} (replied : Except RunFault Output → α) (interrupted : α) : Answer → α
  | .ended output => replied (.ok output)
  | .failed fault => replied (.error fault)
  | .interrupted => interrupted

def observed (mode : Mode) (command : Command) (answer : Answer) : Option Sight :=
  answer.elim (fun reply => some (.ofReply mode command reply)) none

theorem interrupted_or_replied (mode : Mode) (command : Command) (answer : Answer) :
    answer = .interrupted ∨ ∃ reply,
      answer.observed mode command = some (.ofReply mode command reply) ∧
        ∀ {α : Type} (replied : Except RunFault Output → α) (interrupted : α),
          answer.elim replied interrupted = replied reply := by
  cases answer with
  | ended output => exact .inr ⟨_, rfl, fun _ _ => rfl⟩
  | failed fault => exact .inr ⟨_, rfl, fun _ _ => rfl⟩
  | interrupted => exact .inl rfl

theorem isInterrupted_of_observed {mode : Mode} {command : Command} {answer other : Answer}
    (alike : answer.observed mode command = other.observed mode command) :
    answer.isInterrupted = other.isInterrupted := by
  have interrupted (answer : Answer) :
      answer.isInterrupted = (answer.observed mode command).isNone := by
    cases answer <;> rfl
  rw [interrupted, interrupted, alike]

end Answer

/-- What the operator is told to be wrong, apart from what has caused it. -/
def Failure.kind? (failure : Failure) : Option FailureKind :=
  failure.firstKind?.map Prod.fst

/-- The same failure, or an unavailable daemon with another cause. -/
inductive Failure.Alike : Failure → Failure → Prop
  | same (failure : Failure) : Alike failure failure
  | daemon {first second : Failure} : first.kind? = some .daemonUnavailable →
      second.kind? = some .daemonUnavailable → first.text = second.text →
      first.chain.head? = second.chain.head? → first.code = second.code →
      first.hint = second.hint → Alike first second

inductive Stop.Alike : Stop → Stop → Prop
  | interrupted : Alike .interrupted .interrupted
  | failed {first second : Failure} : first.Alike second → Alike (.failed first) (.failed second)

def Request.Alike : (request : Request) → request.Reply → request.Reply → Prop
  | .locate _, path, other => Option.isSome path = Option.isSome other
  | .run mode command, answer, other =>
    Answer.observed mode command answer = Answer.observed mode command other
  | _, reply, other => reply = other

inductive EndsAlike {α : Type} (same : α → α → Prop) : Except Stop α → Except Stop α → Prop
  | ok {value other} : same value other → EndsAlike same (.ok value) (.ok other)
  | error {why other : Stop} : why.Alike other → EndsAlike same (.error why) (.error other)

inductive AttemptsAlike {α : Type} : Except Failure α → Except Failure α → Prop
  | ok (value : α) : AttemptsAlike (.ok value) (.ok value)
  | error {first second : Failure} : first.Alike second →
      AttemptsAlike (.error first) (.error second)

namespace Routine

/-- The routines make the same requests but for their notes, and come to like ends, as long as their
replies are alike. -/
inductive Coupled {α : Type} (same : α → α → Prop) : Routine α → Routine α → Prop
  | done {value other} : same value other → Coupled same (.done value) (.done other)
  | stopped {why other : Stop} : why.Alike other → Coupled same (.stopped why) (.stopped other)
  | noted {event next routine} : Coupled same (next ()) routine →
      Coupled same (.ask (.note event) next) routine
  | alsoNoted {event next routine} : Coupled same routine (next ()) →
      Coupled same routine (.ask (.note event) next)
  | asked {request next others} :
      (∀ reply other, request.Alike reply other → Coupled same (next reply) (others other)) →
      Coupled same (.ask request next) (.ask request others)

namespace Coupled

variable {α β : Type} {same : α → α → Prop} {like : β → β → Prop} {first second : Routine α}

theorem bind {next others : α → Routine β} (coupled : Coupled same first second)
    (rest : ∀ value other, same value other → Coupled like (next value) (others other)) :
    Coupled like (first >>= next) (second >>= others) := by
  induction coupled with
  | done alike => exact rest _ _ alike
  | stopped alike => exact .stopped alike
  | noted _ ih => exact .noted ih
  | alsoNoted _ ih => exact .alsoNoted ih
  | asked _ ih => exact .asked ih

theorem attempt (coupled : Coupled Eq first second) :
    Coupled AttemptsAlike first.attempt second.attempt := by
  induction coupled with
  | done alike =>
      subst alike
      exact .done (.ok _)
  | stopped alike =>
      cases alike with
      | interrupted => exact .stopped .interrupted
      | failed alike => exact .done (.error alike)
  | noted _ ih => exact .noted ih
  | alsoNoted _ ih => exact .alsoNoted ih
  | asked _ ih => exact .asked ih

theorem catchInterrupt (coupled : Coupled Eq first second) :
    Coupled Eq first.catchInterrupt second.catchInterrupt := by
  induction coupled with
  | done alike =>
      subst alike
      exact .done rfl
  | stopped alike =>
      cases alike with
      | interrupted => exact .asked fun _ _ _ => .done rfl
      | failed alike => exact .stopped (.failed alike)
  | noted _ ih => exact .noted ih
  | alsoNoted _ ih => exact .alsoNoted ih
  | asked _ ih => exact .asked ih

end Coupled

/-- A routine that does nothing with its replies but what can be observed of them. -/
def Blind {α : Type} (routine : Routine α) : Prop :=
  Coupled Eq routine routine

variable {α β : Type} {routine : Routine α}

theorem blind_pure (value : α) : Blind (pure value) := .done rfl

theorem blind_fail (failure : Failure) : Blind (fail failure : Routine α) :=
  .stopped (.failed (.same failure))

theorem blind_request {request : Request}
    (plain : ∀ reply other : request.Reply, request.Alike reply other → reply = other) :
    Blind (Routine.request request) :=
  .asked fun reply other alike => .done (plain reply other alike)

theorem blind_say (line : Line) : Blind (say line) := blind_request fun _ _ _ => rfl

theorem blind_note (event : Event) : Blind (note event) := blind_request fun _ _ _ => rfl

theorem Blind.bind {next : α → Routine β} (blind : routine.Blind)
    (rest : ∀ value, (next value).Blind) : (routine >>= next).Blind := by
  refine Coupled.bind blind fun value other alike => ?_
  subst alike
  exact rest value

theorem Blind.map {change : α → β} (blind : routine.Blind) : (change <$> routine).Blind :=
  blind.bind fun value => blind_pure (change value)

theorem coupled_run {same : α → α → Prop} {mode : Mode} {command : Command}
    {replied : Except RunFault Output → Routine α} {interrupted : Routine α}
    (stays : Coupled same interrupted interrupted)
    (goesOn : ∀ reply other, Sight.ofReply mode command reply = .ofReply mode command other →
      Coupled same (replied reply) (replied other)) :
    Coupled same (ask (.run mode command) (Answer.elim replied interrupted))
      (ask (.run mode command) (Answer.elim replied interrupted)) := by
  refine .asked fun answer other alike => ?_
  have observed : Answer.observed mode command answer = Answer.observed mode command other := alike
  rcases Answer.interrupted_or_replied mode command answer with rfl | ⟨reply, seen, continues⟩
  · rcases Answer.interrupted_or_replied mode command other with rfl | ⟨_, seen, _⟩
    · exact stays
    · cases observed.trans seen
  · rcases Answer.interrupted_or_replied mode command other with rfl | ⟨another, saw, others⟩
    · cases observed.symm.trans seen
    · rw [continues, others]
      exact goesOn _ _ (Option.some.inj (seen.symm.trans (observed.trans saw)))

theorem coupled_ofExcept {outcome other : Except Failure α} (alike : AttemptsAlike outcome other) :
    Coupled Eq (ofExcept outcome) (ofExcept other) := by
  cases alike with
  | ok value => exact .done rfl
  | error alike => exact .stopped (.failed alike)

theorem Blind.within {span : Span} (blind : routine.Blind) : (within span routine).Blind := by
  refine (blind_request fun _ _ _ => rfl).bind fun _ => ?_
  refine Coupled.bind blind.attempt fun outcome other alike => ?_
  have leaves : Blind (request .leave) := blind_request fun _ _ _ => rfl
  exact Coupled.bind leaves fun _ _ _ => coupled_ofExcept alike

theorem Blind.untilInterrupted (blind : routine.Blind) : routine.untilInterrupted.Blind := by
  refine .asked fun pending other alike => ?_
  obtain rfl : pending = other := alike
  cases pending with
  | true => exact .done rfl
  | false => exact Coupled.catchInterrupt blind

end Routine

def JournalEntry.request : JournalEntry → Request
  | said line => .say line
  | located tool _ => .locate tool
  | ran mode command _ => .run mode command

def Journal.requests (journal : Journal) : List Request :=
  journal.map JournalEntry.request

namespace Runner

/-- The runners find the same tools, and asked the same commands they give answers that are observed
alike. -/
structure Alike (first second : Runner) : Prop where
  tools : ∀ tool, (first.locate tool).isSome = (second.locate tool).isSome
  answers : ∀ earlier mode command, (first.answer earlier mode command).observed mode command =
    (second.answer earlier mode command).observed mode command

structure State.Alike (first second : State) : Prop where
  runner : first.runner.Alike second.runner
  pending : first.interruptPending = second.interruptPending
  requests : first.journal.requests = second.journal.requests

theorem Alike.after {first second : Runner} (alike : first.Alike second) (mode : Mode)
    (command : Command) : (first.after mode command).Alike (second.after mode command) :=
  ⟨alike.tools, fun earlier => alike.answers ((mode, command) :: earlier)⟩

variable {first second : State}

theorem State.Alike.append (alike : first.Alike second) {entry other : JournalEntry}
    (same : entry.request = other.request) :
    Journal.requests (first.journal ++ [entry]) = Journal.requests (second.journal ++ [other]) := by
  have requests := alike.requests
  simp only [Journal.requests] at requests
  simp [Journal.requests, requests, same]

theorem perform_alike (alike : first.Alike second) (request : Request) :
    request.Alike (host.perform request first).1 (host.perform request second).1 ∧
      (host.perform request first).2.Alike (host.perform request second).2 := by
  cases request with
  | locate tool =>
      exact ⟨alike.runner.tools tool, alike.runner, alike.pending, alike.append rfl⟩
  | run mode command =>
      have observed := alike.runner.answers [] mode command
      have interrupted := Answer.isInterrupted_of_observed observed
      refine ⟨observed, alike.runner.after mode command, ?_, alike.append rfl⟩
      simp only [host, alike.pending, interrupted]
  | say line => exact ⟨rfl, alike.runner, alike.pending, alike.append rfl⟩
  | takeInterrupt => exact ⟨alike.pending, alike.runner, rfl, alike.requests⟩
  | _ => exact ⟨rfl, alike⟩

/-- Coupled routines cannot tell runners apart that are alike. -/
theorem run_alike {α : Type} {same : α → α → Prop} {routine other : Routine α}
    (coupled : Routine.Coupled same routine other) (alike : first.Alike second) :
    EndsAlike same (routine.run host first).1 (other.run host second).1 ∧
      (routine.run host first).2.Alike (other.run host second).2 := by
  induction coupled generalizing first second with
  | done agree => exact ⟨.ok agree, alike⟩
  | stopped agree => exact ⟨.error agree, alike⟩
  -- A note changes neither the runner nor the journal.
  | noted _ ih => exact ih alike
  | alsoNoted _ ih => exact ih alike
  | @asked request next others _ ih =>
      obtain ⟨replies, states⟩ := perform_alike alike request
      exact ih _ _ replies states

end Runner

end DevCluster
