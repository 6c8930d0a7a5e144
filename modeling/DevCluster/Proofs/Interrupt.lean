import DevCluster.Proofs.Dialogue

/-!
Interrupts in dialogues: where they are raised and taken, and whether one is pending. A routine
heeds interrupts if the one that ends its command is the last thing that it hears of.
-/

namespace DevCluster

def Answer.isInterrupted : Answer → Bool
  | .interrupted => true
  | _ => false

namespace Exchange

def isInterrupted : Exchange → Bool
  | ⟨.run _ _, answer⟩ => Answer.isInterrupted answer
  | _ => false

/-- A command that is not in the foreground leaves the interrupt that ends it pending. -/
def raises : Exchange → Bool
  | ⟨.run mode _, answer⟩ => mode ≠ .foreground && Answer.isInterrupted answer
  | _ => false

def taken? : Exchange → Option Bool
  | ⟨.takeInterrupt, pending⟩ => some pending
  | _ => none

def asksCommand : Exchange → Bool
  | ⟨.run _ _, _⟩ => true
  | _ => false

def launches : Exchange → Bool
  | ⟨.run .foreground _, _⟩ => true
  | _ => false

def pendingAfter (pending : Bool) (exchange : Exchange) : Bool :=
  exchange.taken?.isNone && (pending || exchange.raises)

theorem raises_of_not_isInterrupted {exchange : Exchange}
    (uninterrupted : exchange.isInterrupted = false) : exchange.raises = false := by
  rcases exchange with ⟨request, reply⟩
  cases request with
  | run mode command =>
      have quiet : Answer.isInterrupted reply = false := uninterrupted
      simp [raises, quiet]
  | _ => rfl

theorem isInterrupted_of_not_asksCommand {exchange : Exchange}
    (silent : exchange.asksCommand = false) : exchange.isInterrupted = false := by
  rcases exchange with ⟨request, reply⟩
  cases request with
  | run mode command => cases silent
  | _ => rfl

end Exchange

namespace Dialogue

open Exchange

/-- Whether an interrupt is pending after the dialogue, if that was so or not before it. -/
def pendingAfter (pending : Bool) (dialogue : Dialogue) : Bool :=
  dialogue.foldl Exchange.pendingAfter pending

def Calm (dialogue : Dialogue) : Prop :=
  ∀ exchange ∈ dialogue, exchange.isInterrupted = false ∧ exchange.taken? = none

def Quiet (dialogue : Dialogue) : Prop :=
  ∀ exchange ∈ dialogue, exchange.asksCommand = false ∧ exchange.taken? = none

/-- Whoever takes an interrupt is told the truth. -/
def Truthful : Bool → Dialogue → Prop
  | _, [] => True
  | pending, exchange :: rest =>
    (∀ told, exchange.taken? = some told → told = pending) ∧
      Truthful (exchange.pendingAfter pending) rest

/-- Commands are asked for only when no interrupt is pending. -/
def Orderly : Bool → Dialogue → Prop
  | _, [] => True
  | pending, exchange :: rest =>
    (exchange.asksCommand → pending = false) ∧ Orderly (exchange.pendingAfter pending) rest

def raised (dialogue : Dialogue) : Nat := dialogue.countP Exchange.raises

def consumed (dialogue : Dialogue) : Nat := dialogue.countP (·.taken? = some true)

variable {pending : Bool} {first second dialogue : Dialogue}

@[simp] theorem pendingAfter_nil : pendingAfter pending [] = pending := rfl

theorem pendingAfter_cons {exchange : Exchange} :
    pendingAfter pending (exchange :: dialogue) =
      pendingAfter (exchange.pendingAfter pending) dialogue := rfl

theorem pendingAfter_append :
    pendingAfter pending (first ++ second) = pendingAfter (pendingAfter pending first) second :=
  List.foldl_append

theorem truthful_append :
    Truthful pending (first ++ second) ↔
      Truthful pending first ∧ Truthful (pendingAfter pending first) second := by
  induction first generalizing pending with
  | nil => simp [Truthful]
  | cons exchange rest ih => simp [Truthful, ih, pendingAfter_cons, and_assoc]

theorem orderly_append :
    Orderly pending (first ++ second) ↔
      Orderly pending first ∧ Orderly (pendingAfter pending first) second := by
  induction first generalizing pending with
  | nil => simp [Orderly]
  | cons exchange rest ih => simp [Orderly, ih, pendingAfter_cons, and_assoc]

theorem conserved_once {exchange : Exchange} (orderly : exchange.asksCommand → pending = false)
    (truthful : ∀ told, exchange.taken? = some told → told = pending) :
    pending.toNat + exchange.raises.toNat =
      (decide (exchange.taken? = some true)).toNat + (exchange.pendingAfter pending).toNat := by
  rcases exchange with ⟨request, reply⟩
  cases request with
  | run mode command =>
      rw [orderly rfl]
      simp [Exchange.pendingAfter, taken?]
  | takeInterrupt =>
      change Bool at reply
      obtain rfl := truthful reply rfl
      cases reply <;> rfl
  | _ => simp [Exchange.pendingAfter, taken?, raises]

/-- Interrupts are neither lost nor made: each that was pending or is raised is taken or still
pending. -/
theorem conserved (orderly : Orderly pending dialogue) (truthful : Truthful pending dialogue) :
    pending.toNat + raised dialogue =
      consumed dialogue + (pendingAfter pending dialogue).toNat := by
  -- One exchange keeps the balance, with what is pending after it pending before the others.
  induction dialogue generalizing pending with
  | nil => simp [raised, consumed]
  | cons exchange rest ih =>
      have once := conserved_once orderly.1 truthful.1
      have others := ih orderly.2 truthful.2
      simp only [raised, consumed, List.countP_cons, pendingAfter_cons, Bool.toNat, cond_eq_ite]
        at once others ⊢
      omega

@[simp] theorem calm_nil : Calm [] := by
  simp [Calm]

@[simp] theorem calm_cons {exchange : Exchange} :
    Calm (exchange :: dialogue) ↔
      (exchange.isInterrupted = false ∧ exchange.taken? = none) ∧ Calm dialogue := by
  simp [Calm]

@[simp] theorem calm_append : Calm (first ++ second) ↔ Calm first ∧ Calm second :=
  List.forall_mem_append

theorem Calm.pendingAfter (calm : Calm dialogue) : pendingAfter pending dialogue = pending := by
  induction dialogue with
  | nil => rfl
  | cons exchange rest ih =>
      obtain ⟨⟨silent, untaken⟩, others⟩ := calm_cons.mp calm
      rw [pendingAfter_cons, Exchange.pendingAfter, raises_of_not_isInterrupted silent, untaken]
      simpa using ih others

theorem Calm.orderly (calm : Calm dialogue) : Orderly false dialogue := by
  induction dialogue with
  | nil => trivial
  | cons exchange rest ih =>
      obtain ⟨⟨silent, untaken⟩, others⟩ := calm_cons.mp calm
      refine ⟨fun _ => rfl, ?_⟩
      rw [Exchange.pendingAfter, raises_of_not_isInterrupted silent, untaken]
      exact ih others

theorem Calm.consumed (calm : Calm dialogue) : consumed dialogue = 0 :=
  List.countP_eq_zero.mpr fun exchange member => by simp [(calm exchange member).2]

@[simp] theorem quiet_nil : Quiet [] := by
  simp [Quiet]

@[simp] theorem quiet_cons {exchange : Exchange} :
    Quiet (exchange :: dialogue) ↔
      (exchange.asksCommand = false ∧ exchange.taken? = none) ∧ Quiet dialogue := by
  simp [Quiet]

@[simp] theorem quiet_append : Quiet (first ++ second) ↔ Quiet first ∧ Quiet second :=
  List.forall_mem_append

theorem Quiet.calm (quiet : Quiet dialogue) : Calm dialogue :=
  fun exchange member =>
    ⟨isInterrupted_of_not_asksCommand (quiet exchange member).1, (quiet exchange member).2⟩

theorem Quiet.orderly (quiet : Quiet dialogue) : Orderly pending dialogue := by
  induction dialogue generalizing pending with
  | nil => trivial
  | cons exchange rest ih =>
      obtain ⟨⟨silent, _⟩, others⟩ := quiet_cons.mp quiet
      exact ⟨fun asks => by simp [silent] at asks, ih others⟩

end Dialogue

open Dialogue Exchange

/-- Dialogues of routines that heed interrupts: only the last command may be ended by one, and then
the routine is stopped by it. -/
inductive Heeded {α : Type} : Dialogue → Except Stop α → Prop
  | calm {dialogue result} : Calm dialogue → result ≠ .error .interrupted → Heeded dialogue result
  | interrupted {before mode command} : Calm before → mode ≠ .foreground →
      Heeded (before ++ [ran mode command .interrupted]) (.error .interrupted)

namespace Heeded

variable {α β : Type} {first dialogue : Dialogue} {result : Except Stop α}

theorem append (calm : Calm first) (heeded : Heeded dialogue result) :
    Heeded (first ++ dialogue) result := by
  cases heeded with
  | calm others unstopped => exact .calm (calm_append.mpr ⟨calm, others⟩) unstopped
  | interrupted others foreground =>
      rw [← List.append_assoc]
      exact .interrupted (calm_append.mpr ⟨calm, others⟩) foreground

theorem interrupted_after {line : Line} {mode : Mode} {command : Command}
    (notForeground : mode ≠ .foreground) :
    Heeded [said line, ran mode command .interrupted] (.error .interrupted : Except Stop α) := by
  have quiet : Calm [said line] := by simp [isInterrupted, taken?]
  exact .append quiet (.interrupted calm_nil notForeground)

theorem calm_of_ne (heeded : Heeded dialogue result) (unstopped : result ≠ .error .interrupted) :
    Calm dialogue := by
  cases heeded with
  | calm calm _ => exact calm
  | interrupted => exact absurd rfl unstopped

theorem orderly (heeded : Heeded dialogue result) : Orderly false dialogue := by
  cases heeded with
  | calm calm _ => exact calm.orderly
  | interrupted calm _ =>
      refine orderly_append.mpr ⟨calm.orderly, fun _ => ?_, trivial⟩
      exact calm.pendingAfter

theorem error {why : Stop} (heeded : Heeded dialogue (.error why : Except Stop α)) :
    Heeded dialogue (.error why : Except Stop β) := by
  cases heeded with
  | calm calm unstopped => exact .calm calm (by simpa using unstopped)
  | interrupted calm foreground => exact .interrupted calm foreground

end Heeded

namespace Routine

variable {α β : Type}

def Heeds (routine : Routine α) : Prop :=
  ∀ dialogue result, routine.Ends dialogue result → Heeded dialogue result

theorem heeds_pure (value : α) : (pure value : Routine α).Heeds := by
  rintro dialogue result ⟨rfl, rfl⟩
  exact .calm calm_nil (by simp)

theorem heeds_fail (failure : Failure) : (fail failure : Routine α).Heeds := by
  rintro dialogue result ⟨rfl, rfl⟩
  exact .calm calm_nil (by simp)

theorem heeds_ofExcept (outcome : Except Failure α) : (ofExcept outcome).Heeds := by
  cases outcome with
  | ok value => exact heeds_pure value
  | error failure => exact heeds_fail failure

theorem heeds_request {request : Request} (calm : ∀ reply, Calm [⟨request, reply⟩]) :
    (Routine.request request).Heeds := by
  rintro dialogue result ⟨reply, rest, rfl, rfl, rfl⟩
  exact .calm (calm reply) (by simp)

theorem heeds_say (line : Line) : (say line).Heeds :=
  heeds_request (by simp [isInterrupted, taken?])

theorem heeds_note (event : Event) : (note event).Heeds :=
  heeds_request (by simp [isInterrupted, taken?])

theorem heeds_capture (command : Command) : (capture command).Heeds := by
  rintro dialogue result ⟨answer, rest, rfl, ends⟩
  cases answer with
  | ended output =>
      obtain ⟨rfl, rfl⟩ := ends
      exact .calm (by simp [isInterrupted, taken?, Answer.isInterrupted]) (by simp)
  | failed fault =>
      obtain ⟨rfl, rfl⟩ := ends
      exact .calm (by simp [isInterrupted, taken?, Answer.isInterrupted]) (by simp)
  | interrupted =>
      obtain ⟨rfl, rfl⟩ := ends
      exact .interrupted calm_nil (by simp)

theorem Heeds.bind {routine : Routine α} {next : α → Routine β} (heeds : routine.Heeds)
    (others : ∀ value, (next value).Heeds) : (routine >>= next).Heeds := by
  intro dialogue result ends
  rcases ends_bind.mp ends with ⟨why, rfl, stopped⟩ | ⟨value, first, second, rfl, ended, last⟩
  · exact (heeds _ _ stopped).error
  · exact .append ((heeds _ _ ended).calm_of_ne (by simp)) (others value _ _ last)

theorem Heeds.attempt {routine : Routine α} (heeds : routine.Heeds) : routine.attempt.Heeds := by
  intro dialogue result ends
  rcases ends_attempt.mp ends with ⟨value, ended, rfl⟩ | ⟨failure, ended, rfl⟩ | ⟨ended, rfl⟩
  · exact .calm ((heeds _ _ ended).calm_of_ne (by simp)) (by simp)
  · exact .calm ((heeds _ _ ended).calm_of_ne (by simp)) (by simp)
  · exact (heeds _ _ ended).error

theorem Heeds.within {routine : Routine α} {span : Span} (heeds : routine.Heeds) :
    (within span routine).Heeds := by
  intro dialogue result ends
  obtain ⟨own, ended, rfl⟩ := ends_within.mp ends
  have heeded := heeds _ _ ended
  have entering : Calm [entered span] := by simp [isInterrupted, taken?]
  by_cases stopped : result = .error .interrupted
  · subst stopped
    rw [leaving, List.append_nil]
    exact .append entering heeded
  · have leaves : Calm (leaving result) := by
      unfold leaving
      split <;> simp [isInterrupted, taken?]
    exact .append entering (.append (heeded.calm_of_ne stopped) (.calm leaves stopped))

end Routine

end DevCluster
