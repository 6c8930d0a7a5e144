import DevCluster.Diagnostics.Event

/-!
Routines ask the outside world for one thing after another and go on with its replies. A host gives
the replies, so the same routine runs on a real machine, on a described one, or on a script.
-/

namespace DevCluster

inductive FileContent
  | absent
  | unreadable (reason : String)
  | text (content : String)
deriving DecidableEq, Repr

structure SettingsFile where
  path : String
  content : FileContent
deriving DecidableEq, Repr

inductive Request
  | settingsFile
  | lookUp (variableName : String)
  | locate (tool : String)
  | run (mode : Mode) (command : Command)
  | say (line : Line)
  | note (event : Event)
  | enter (span : Span)
  | leave
  /-- Whether an interrupt is pending, which is over with this. -/
  | takeInterrupt
  | write (text : String)
deriving DecidableEq, Repr

def Request.Reply : Request → Type
  | settingsFile => SettingsFile
  | lookUp _ => Option String
  | locate _ => Option String
  | run _ _ => Answer
  | takeInterrupt => Bool
  | say _ | note _ | enter _ | leave | write _ => Unit

inductive Stop
  | interrupted
  | failed (failure : Failure)
deriving DecidableEq, Repr

inductive Routine (α : Type) : Type
  | done (value : α)
  | stopped (why : Stop)
  | ask (request : Request) (next : request.Reply → Routine α)

namespace Routine

def bind {α β : Type} : Routine α → (α → Routine β) → Routine β
  | done value, next => next value
  | stopped why, _ => stopped why
  | ask request rest, next => ask request fun reply => (rest reply).bind next

instance : Monad Routine where
  pure := done
  bind := bind

theorem pure_eq {α : Type} (value : α) : (pure value : Routine α) = done value := rfl

theorem bind_eq {α β : Type} (routine : Routine α) (next : α → Routine β) :
    (routine >>= next) = routine.bind next := rfl

theorem bind_done {α : Type} (routine : Routine α) : routine.bind done = routine := by
  induction routine with
  | done value => rfl
  | stopped why => rfl
  | ask request rest ih => exact congrArg (ask request) (funext ih)

theorem bind_assoc {α β γ : Type} (routine : Routine α) (next : α → Routine β)
    (last : β → Routine γ) :
    (routine.bind next).bind last = routine.bind fun value => (next value).bind last := by
  induction routine with
  | done value => rfl
  | stopped why => rfl
  | ask request rest ih => exact congrArg (ask request) (funext ih)

def request (request : Request) : Routine request.Reply := ask request done

def fail {α : Type} (failure : Failure) : Routine α := stopped (.failed failure)

def say (line : Line) : Routine Unit := request (.say line)

def note (event : Event) : Routine Unit := request (.note event)

/-- Runs a command and keeps its output. An interrupt stops the routine. -/
def capture (command : Command) : Routine (Except RunFault Output) :=
  ask (.run .capture command) fun
    | Answer.ended output => done (.ok output)
    | Answer.failed fault => done (.error fault)
    | Answer.interrupted => stopped .interrupted

/-- Runs a command and shows its output. An interrupt stops the routine. -/
def runAttached (command : Command) : Routine (Except RunFault ExitCode) :=
  ask (.run .attached command) fun
    | Answer.ended output => done (.ok output.code)
    | Answer.failed fault => done (.error fault)
    | Answer.interrupted => stopped .interrupted

/-- Runs a command until it ends or is interrupted, and shows its output. -/
def runForeground (command : Command) : Routine (Except RunFault StartOutcome) :=
  ask (.run .foreground command) fun
    | Answer.ended output => done (.ok (.exited output.code))
    | Answer.failed fault => done (.error fault)
    | Answer.interrupted => done (.ok .interrupted)

/-- Goes on with nothing where the routine is stopped by an interrupt, which is over with this. -/
def catchInterrupt {α : Type} : Routine α → Routine (Option α)
  | done value => done (some value)
  | stopped .interrupted => ask .takeInterrupt fun _ => done none
  | stopped (.failed failure) => stopped (.failed failure)
  | ask request rest => ask request fun reply => (rest reply).catchInterrupt

/-- The routine, unless an interrupt is pending already or stops it. -/
def untilInterrupted {α : Type} (routine : Routine α) : Routine (Option α) :=
  ask .takeInterrupt fun (pending : Bool) =>
    if pending then done none else routine.catchInterrupt

def attempt {α : Type} : Routine α → Routine (Except Failure α)
  | done value => done (.ok value)
  | stopped .interrupted => stopped .interrupted
  | stopped (.failed failure) => done (.error failure)
  | ask request rest => ask request fun reply => (rest reply).attempt

def ofExcept {α : Type} : Except Failure α → Routine α
  | .ok value => done value
  | .error failure => fail failure

/-- The routine in a span, which is left when the routine ends or fails. -/
def within {α : Type} (span : Span) (routine : Routine α) : Routine α := do
  request (.enter span)
  let result ← routine.attempt
  request .leave
  ofExcept result

end Routine

/-- Replies to requests from a state of its own. -/
structure Host (σ : Type) where
  perform : (request : Request) → σ → request.Reply × σ

/-- The end of a routine on a host, and the state the host is left in. -/
def Routine.run {σ α : Type} (host : Host σ) : Routine α → σ → Except Stop α × σ
  | done value, state => (.ok value, state)
  | stopped why, state => (.error why, state)
  | ask request next, state =>
    let (reply, state) := host.perform request state
    (next reply).run host state

theorem Routine.run_bind {σ α β : Type} (host : Host σ) (routine : Routine α) (next : α → Routine β)
    (state : σ) :
    (routine.bind next).run host state =
      match routine.run host state with
      | (.ok value, after) => (next value).run host after
      | (.error why, after) => (.error why, after) := by
  induction routine generalizing state with
  | done value => rfl
  | stopped why => rfl
  | ask request rest ih => exact ih _ _

end DevCluster
