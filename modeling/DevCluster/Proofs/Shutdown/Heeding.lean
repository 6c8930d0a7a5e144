import DevCluster.Action
import DevCluster.Proofs.Interrupt

/-!
How a stop deals with interrupts: each of its steps heeds them.
-/

namespace DevCluster

open Routine

namespace Shutdown

theorem succeeds_heeds (command : Command) : (succeeds command).Heeds := by
  refine (heeds_capture command).bind ?_
  intro reply
  cases reply with
  | ok output => exact heeds_pure output.succeeded
  | error fault => exact (heeds_note _).bind fun _ => heeds_pure false

theorem stopOrchestrator_heeds : stopOrchestrator.Heeds := by
  refine (heeds_say _).bind fun _ => (succeeds_heeds _).bind ?_
  intro stopped
  cases stopped with
  | true => exact (heeds_say _).bind fun _ => heeds_pure _
  | false =>
      refine (succeeds_heeds _).bind ?_
      intro killed
      cases killed with
      | true => exact (heeds_say _).bind fun _ => heeds_pure _
      | false => exact (heeds_say _).bind fun _ => heeds_pure _

theorem clusterListed_heeds (cluster : String) : (clusterListed cluster).Heeds := by
  refine (heeds_capture _).bind ?_
  intro reply
  cases reply with
  | error fault => exact (heeds_note _).bind fun _ => heeds_pure false
  | ok output =>
      have listed := heeds_pure (Listing.lists output.stdout cluster)
      by_cases success : output.succeeded = true
      · simpa [success] using listed
      · simpa [success] using (heeds_note (.listingFailed output)).bind fun _ => listed

theorem deleteCluster_heeds (settings : Settings) : (deleteCluster settings).Heeds := by
  refine (heeds_say _).bind fun _ => (succeeds_heeds _).bind ?_
  intro deleted
  cases deleted with
  | true => exact (heeds_say _).bind fun _ => heeds_pure _
  | false =>
      refine (clusterListed_heeds _).bind ?_
      intro listed
      cases listed with
      | true => exact (heeds_say _).bind fun _ => heeds_pure _
      | false => exact (heeds_say _).bind fun _ => heeds_pure _

theorem run_heeds (settings : Settings) : (run settings).Heeds := by
  refine (heeds_say _).bind fun _ => stopOrchestrator_heeds.bind fun orchestrator => ?_
  refine (deleteCluster_heeds settings).bind fun cluster => (heeds_note _).bind fun _ => ?_
  exact (heeds_say _).bind fun _ => heeds_pure _

end Shutdown

theorem writeCompletions_heeds (shell : String) : (writeCompletions shell).Heeds := by
  unfold writeCompletions
  split
  · refine (heeds_request ?_).bind fun _ => heeds_note _
    simp [Exchange.isInterrupted, Exchange.taken?]
  · exact heeds_fail _

end DevCluster
