import DevCluster.Proofs.Application.Reporting

/-!
Failures by their layers. The outermost failure of the program's own decides how a failure is
classified and what is told of it, whatever is above it or caused it; where there is none, the root
decides.
-/

namespace DevCluster

open Exchange Routine

def Layer.kind? : Layer → Option FailureKind
  | kind own => some own
  | label _ | note _ => none

def RootCause.kind? : RootCause → Option FailureKind
  | kind own => some own
  | system _ | message _ | run _ | document _ => none

def RootCause.fromSystem : RootCause → Bool
  | system _ | run _ => true
  | kind _ | message _ | document _ => false

theorem RunFault.text_ends_in_reason (fault : RunFault) :
    ∃ lead, fault.text = lead ++ fault.reason := by
  obtain ⟨stage, program, reason⟩ := fault
  cases stage with
  | start => exact ⟨s!"failed to start {program}: ", rfl⟩
  | wait => exact ⟨s!"failed waiting for {program}: ", rfl⟩
  | interruptHandler => exact ⟨"failed to install interrupt handler: ", rfl⟩

namespace Failure

variable {above : List Layer} {failure : Failure} {kind : FailureKind} {source : Option Failure}
  {cause : RootCause}

/-- A failure under further layers, the outermost of them first. -/
def under (failure : Failure) (above : List Layer) : Failure :=
  above.foldr layered failure

/-- A failure of the program's own, with what caused it if anything did. -/
def own (kind : FailureKind) : Option Failure → Failure
  | none => root (.kind kind)
  | some cause => layered (.kind kind) cause

theorem chain_under (above : List Layer) (failure : Failure) :
    (failure.under above).chain = above.map Layer.text ++ failure.chain := by
  induction above with
  | nil => rfl
  | cons layer above ih => exact congrArg (List.cons layer.text) ih

theorem chain_own (kind : FailureKind) (source : Option Failure) :
    (own kind source).chain = kind.text :: source.elim [] chain := by
  cases source <;> rfl

theorem firstKind?_own (kind : FailureKind) (source : Option Failure) :
    (own kind source).firstKind? = some (kind, source) := by
  cases source <;> rfl

theorem firstKind?_root (plain : cause.kind? = none) : (root cause).firstKind? = none := by
  cases cause with
  | kind own => cases plain
  | _ => rfl

theorem code_root (plain : cause.kind? = none) :
    (root cause).code = if cause.fromSystem then 30 else 20 := by
  cases cause with
  | kind own => cases plain
  | _ => rfl

theorem read_under {α : Type} {read : Failure → α}
    (passes : ∀ layer below, Layer.kind? layer = none → read (layered layer below) = read below)
    (plain : ∀ layer ∈ above, layer.kind? = none) : read (failure.under above) = read failure := by
  induction above with
  | nil => rfl
  | cons layer above ih =>
      obtain ⟨outer, inner⟩ := List.forall_mem_cons.mp plain
      exact (passes layer _ outer).trans (ih inner)

/-- Layers that are not of a kind are passed by on the way to the first one that is. -/
theorem firstKind?_under (plain : ∀ layer ∈ above, layer.kind? = none) :
    (failure.under above).firstKind? = failure.firstKind? := by
  refine read_under (fun layer below outer => ?_) plain
  cases layer with
  | kind own => cases outer
  | _ => rfl

theorem code_under (plain : ∀ layer ∈ above, layer.kind? = none) :
    (failure.under above).code = failure.code := by
  refine read_under (fun layer below outer => ?_) plain
  cases layer with
  | kind own => cases outer
  | _ => rfl

theorem exists_under (failure : Failure) :
    (∃ above kind source, (∀ layer ∈ above, Layer.kind? layer = none) ∧
      failure = (own kind source).under above) ∨
    ∃ above cause, (∀ layer ∈ above, Layer.kind? layer = none) ∧ cause.kind? = none ∧
      failure = (root cause).under above := by
  -- A layer of a kind of its own hides all below it; any other one joins those above.
  induction failure with
  | root cause =>
      cases cause with
      | kind own => exact .inl ⟨[], own, none, List.forall_mem_nil _, rfl⟩
      | _ => exact .inr ⟨[], _, List.forall_mem_nil _, rfl, rfl⟩
  | layered layer below ih =>
      by_cases plain : layer.kind? = none
      · rcases ih with ⟨above, kind, source, others, rfl⟩ | ⟨above, cause, others, rootless, rfl⟩
        · exact .inl ⟨layer :: above, kind, source, List.forall_mem_cons.mpr ⟨plain, others⟩, rfl⟩
        · refine .inr ⟨layer :: above, cause, ?_, rootless, rfl⟩
          exact List.forall_mem_cons.mpr ⟨plain, others⟩
      · cases layer with
        | kind own => exact .inl ⟨[], own, some below, List.forall_mem_nil _, rfl⟩
        | _ => exact absurd rfl plain

end Failure

namespace Application

variable {failure : Failure}

theorem report_ends_of_none {dialogue : Dialogue} {result : Except Stop Int}
    (none : failure.firstKind? = none) (ends : (report failure).Ends dialogue result) :
    result = .ok failure.code ∧ dialogue = [said (.error failure.fullText)] := by
  simp only [report, none] at ends
  obtain ⟨_, rfl, rfl, rfl⟩ := ends_say_bind.mp ends
  exact ⟨rfl, rfl⟩

/-- Every failure is either one of the program's own under layers that are none, by which it is
classified and told of, or has none at all, and is then classified by its root and told of in full.
The texts of a failure are those of its layers, the outermost first, and then of its root. -/
theorem report_by_outermost {σ : Type} (host : Host σ) (state : σ) (failure : Failure) :
    let dialogue := (report failure).dialogue host state
    let result := ((report failure).run host state).1
    ((∃ above kind source, (∀ layer ∈ above, Layer.kind? layer = none) ∧
        failure = (Failure.own kind source).under above ∧
        failure.firstKind? = some (kind, source) ∧
        failure.code = kind.code ∧
        failure.hint = kind.hint ∧
        failure.chain = above.map Layer.text ++ kind.text :: source.elim [] Failure.chain ∧
        result = .ok kind.code ∧
        dialogue = said (.error kind.text) ::
          (kind.hint.toList.map (fun hint => said (.detail hint)) ++
            classification kind source)) ∨
      ∃ above cause, (∀ layer ∈ above, Layer.kind? layer = none) ∧ cause.kind? = none ∧
        failure = (Failure.root cause).under above ∧
        failure.firstKind? = none ∧
        failure.code = (if cause.fromSystem then 30 else 20) ∧
        failure.hint = none ∧
        failure.chain = above.map Layer.text ++ cause.chain ∧
        result = .ok failure.code ∧
        dialogue = [said (.error (": ".intercalate failure.chain))]) ∧
    (∀ above, (failure.under above).chain = above.map Layer.text ++ failure.chain) ∧
    ∀ above fault, ((Failure.root (.run fault)).under above).chain =
        above.map Layer.text ++ [fault.text, fault.reason] ∧
      ∃ lead, fault.text = lead ++ fault.reason := by
  intro dialogue result
  have ends : (report failure).Ends dialogue result := ends_dialogue host (report failure) state
  refine ⟨?_, fun above => failure.chain_under above, fun above fault => ?_⟩
  · rcases failure.exists_under with ⟨above, kind, source, plain, same⟩ |
      ⟨above, cause, plain, rootless, same⟩
    · have first : failure.firstKind? = some (kind, source) := by
        rw [same, Failure.firstKind?_under plain, Failure.firstKind?_own]
      obtain ⟨ended, told⟩ := report_ends first ends
      refine .inl ⟨above, kind, source, plain, same, first, Failure.code_of_firstKind first, ?_,
        ?_, ended, told⟩
      · rw [Failure.hint, first, Option.bind_some]
      · rw [same, Failure.chain_under, Failure.chain_own]
    · have none : failure.firstKind? = none := by
        rw [same, Failure.firstKind?_under plain, Failure.firstKind?_root rootless]
      obtain ⟨ended, told⟩ := report_ends_of_none none ends
      refine .inr ⟨above, cause, plain, rootless, same, none, ?_, ?_, ?_, ended, told⟩
      · rw [same, Failure.code_under plain, Failure.code_root rootless]
      · rw [Failure.hint, none, Option.bind_none]
      · rw [same, Failure.chain_under]
        rfl
  · exact ⟨Failure.chain_under above _, fault.text_ends_in_reason⟩

end Application

end DevCluster
