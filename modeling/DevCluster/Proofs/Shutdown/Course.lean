import DevCluster.Proofs.Dialogue
import DevCluster.Shutdown

/-!
The courses that a stop can take, step by step and as a whole, each with its dialogue and its end.
-/

namespace DevCluster.Shutdown

open Exchange Routine

inductive Attempted (command : Command) : Dialogue → Except Stop Bool → Prop
  | ended {output : Output} :
      Attempted command [ran .capture command (.ended output)] (.ok output.succeeded)
  | notRun {fault} :
      Attempted command [ran .capture command (.failed fault), noted (.commandUnavailable fault)]
        (.ok false)
  | interrupted : Attempted command [ran .capture command .interrupted] (.error .interrupted)

def stopping : Line := .info "Stopping Tilt..."

inductive OrchestratorStopping : Dialogue → Except Stop OrchestratorStop → Prop
  | stopAbandoned {stop why} : Attempted orchestratorStop stop (.error why) →
      OrchestratorStopping (said stopping :: stop) (.error why)
  | graceful {stop} : Attempted orchestratorStop stop (.ok true) →
      OrchestratorStopping (said stopping :: (stop ++ [said (.info "✅ Tilt stopped")]))
        (.ok .graceful)
  | killAbandoned {stop kill why} : Attempted orchestratorStop stop (.ok false) →
      Attempted orchestratorKill kill (.error why) →
      OrchestratorStopping (said stopping :: (stop ++ kill)) (.error why)
  | killed {stop kill} : Attempted orchestratorStop stop (.ok false) →
      Attempted orchestratorKill kill (.ok true) →
      OrchestratorStopping
        (said stopping :: (stop ++ (kill ++ [said (.info "✅ Tilt stopped (via pkill)")])))
        (.ok .killed)
  | notRunning {stop kill} : Attempted orchestratorStop stop (.ok false) →
      Attempted orchestratorKill kill (.ok false) →
      OrchestratorStopping (said stopping ::
        (stop ++ (kill ++ [said (.warn "No Tilt processes found (or already stopped)")])))
        (.ok .notRunning)

inductive ListingRead (cluster : String) : Dialogue → Except Stop Bool → Prop
  | listed {output : Output} : output.code = some 0 →
      ListingRead cluster [ran .capture clusterListing (.ended output)]
        (.ok (Listing.lists output.stdout cluster))
  | refused {output : Output} : output.code ≠ some 0 →
      ListingRead cluster
        [ran .capture clusterListing (.ended output), noted (.listingFailed output)]
        (.ok (Listing.lists output.stdout cluster))
  | notRun {fault} :
      ListingRead cluster
        [ran .capture clusterListing (.failed fault), noted (.listingUnavailable fault)] (.ok false)
  | interrupted :
      ListingRead cluster [ran .capture clusterListing .interrupted] (.error .interrupted)

def deleting : Line := .info "Stopping Kind cluster..."

inductive ClusterDeletion (cluster : String) : Dialogue → Except Stop ClusterCleanup → Prop
  | deletionAbandoned {deletion why} : Attempted (clusterDeletion cluster) deletion (.error why) →
      ClusterDeletion cluster (said deleting :: deletion) (.error why)
  | deleted {deletion} : Attempted (clusterDeletion cluster) deletion (.ok true) →
      ClusterDeletion cluster
        (said deleting :: (deletion ++ [said (.info "✅ Kind cluster deleted")])) (.ok .deleted)
  | listingAbandoned {deletion listing why} :
      Attempted (clusterDeletion cluster) deletion (.ok false) →
      ListingRead cluster listing (.error why) →
      ClusterDeletion cluster (said deleting :: (deletion ++ listing)) (.error why)
  | incomplete {deletion listing} : Attempted (clusterDeletion cluster) deletion (.ok false) →
      ListingRead cluster listing (.ok true) →
      ClusterDeletion cluster (said deleting :: (deletion ++ (listing ++
        [said (.warn "Cluster deletion had issues, but continuing with cleanup")])))
        (.ok .incomplete)
  | alreadyAbsent {deletion listing} : Attempted (clusterDeletion cluster) deletion (.ok false) →
      ListingRead cluster listing (.ok false) →
      ClusterDeletion cluster (said deleting :: (deletion ++ (listing ++
        [said (.info "Cluster already deleted or does not exist")]))) (.ok .alreadyAbsent)

def farewell : Line := .info "🛑 Stopping Lifeguard development environment..."

def summary : Line := .info "✅ Development environment stopped and cleaned up"

inductive Course (settings : Settings) : Dialogue → Except Stop StopReport → Prop
  | orchestratorAbandoned {first why} : OrchestratorStopping first (.error why) →
      Course settings (said farewell :: first) (.error why)
  | clusterAbandoned {first second stop why} : OrchestratorStopping first (.ok stop) →
      ClusterDeletion settings.clusterName second (.error why) →
      Course settings (said farewell :: (first ++ second)) (.error why)
  | complete {first second orchestrator cluster} : OrchestratorStopping first (.ok orchestrator) →
      ClusterDeletion settings.clusterName second (.ok cluster) →
      Course settings (said farewell :: (first ++ (second ++
        [noted (.stopFinished { orchestrator, cluster }), said summary])))
        (.ok { orchestrator, cluster })

variable {dialogue : Dialogue}

theorem attempted_of_ends {command : Command} {result : Except Stop Bool}
    (ends : (succeeds command).Ends dialogue result) : Attempted command dialogue result := by
  simp only [succeeds, ends_capture_bind, ends_pure, ends_note_bind] at ends
  obtain ⟨output, _, rfl, rfl, rfl⟩ | ⟨fault, _, rfl, _, rfl, rfl, rfl⟩ | ⟨rfl, rfl⟩ := ends
  · exact .ended
  · exact .notRun
  · exact .interrupted

theorem listingRead_of_ends {cluster : String} {result : Except Stop Bool}
    (ends : (clusterListed cluster).Ends dialogue result) :
    ListingRead cluster dialogue result := by
  simp only [clusterListed, ends_capture_bind, ends_pure, ends_note_bind] at ends
  obtain ⟨output, _, rfl, last⟩ | ⟨fault, _, rfl, _, rfl, rfl, rfl⟩ | ⟨rfl, rfl⟩ := ends
  · by_cases success : output.code = some 0
    · simp only [Output.succeeded, success, decide_true, Bool.not_true, Bool.false_eq_true,
        ↓reduceIte, ends_pure] at last
      obtain ⟨rfl, rfl⟩ := last
      exact .listed success
    · simp only [Output.succeeded, success, decide_false, Bool.not_false, ↓reduceIte,
        ends_note_bind, ends_pure] at last
      obtain ⟨_, rfl, rfl, rfl⟩ := last
      exact .refused success
  · exact .notRun
  · exact .interrupted

theorem told_ends {α : Type} {line : Line} {value : α} {result : Except Stop α}
    (ends : (say line >>= fun _ => pure value).Ends dialogue result) :
    dialogue = [said line] ∧ result = .ok value := by
  simp only [ends_say_bind, ends_pure] at ends
  obtain ⟨_, rfl, rfl, rfl⟩ := ends
  exact ⟨rfl, rfl⟩

theorem orchestratorStopping_of_ends {result : Except Stop OrchestratorStop}
    (ends : stopOrchestrator.Ends dialogue result) : OrchestratorStopping dialogue result := by
  obtain ⟨_, rfl, tried⟩ := ends_say_bind.mp ends
  rcases ends_bind.mp tried with ⟨why, rfl, stopped⟩ | ⟨success, stop, _, rfl, stopped, others⟩
  · exact .stopAbandoned (attempted_of_ends stopped)
  have first := attempted_of_ends stopped
  cases success with
  | true =>
      obtain ⟨rfl, rfl⟩ := told_ends others
      exact .graceful first
  | false =>
      rcases ends_bind.mp others with ⟨why, rfl, killed⟩ | ⟨success, kill, _, rfl, killed, last⟩
      · exact .killAbandoned first (attempted_of_ends killed)
      have second := attempted_of_ends killed
      cases success with
      | true =>
          obtain ⟨rfl, rfl⟩ := told_ends last
          exact .killed first second
      | false =>
          obtain ⟨rfl, rfl⟩ := told_ends last
          exact .notRunning first second

theorem clusterDeletion_of_ends {settings : Settings} {result : Except Stop ClusterCleanup}
    (ends : (deleteCluster settings).Ends dialogue result) :
    ClusterDeletion settings.clusterName dialogue result := by
  obtain ⟨_, rfl, tried⟩ := ends_say_bind.mp ends
  rcases ends_bind.mp tried with ⟨why, rfl, deleted⟩ | ⟨success, deletion, _, rfl, deleted, others⟩
  · exact .deletionAbandoned (attempted_of_ends deleted)
  have first := attempted_of_ends deleted
  cases success with
  | true =>
      obtain ⟨rfl, rfl⟩ := told_ends others
      exact .deleted first
  | false =>
      rcases ends_bind.mp others with ⟨why, rfl, listed⟩ | ⟨present, listing, _, rfl, listed, last⟩
      · exact .listingAbandoned first (listingRead_of_ends listed)
      have second := listingRead_of_ends listed
      cases present with
      | true =>
          obtain ⟨rfl, rfl⟩ := told_ends last
          exact .incomplete first second
      | false =>
          obtain ⟨rfl, rfl⟩ := told_ends last
          exact .alreadyAbsent first second

/-- Every run of a stop takes one of its courses. -/
theorem course_of_ends {settings : Settings} {result : Except Stop StopReport}
    (ends : (run settings).Ends dialogue result) : Course settings dialogue result := by
  obtain ⟨_, rfl, begun⟩ := ends_say_bind.mp ends
  rcases ends_bind.mp begun with ⟨why, rfl, stopped⟩ |
    ⟨orchestrator, first, _, rfl, stopped, others⟩
  · exact .orchestratorAbandoned (orchestratorStopping_of_ends stopped)
  have stopped := orchestratorStopping_of_ends stopped
  rcases ends_bind.mp others with ⟨why, rfl, deleted⟩ | ⟨cluster, second, _, rfl, deleted, last⟩
  · exact .clusterAbandoned stopped (clusterDeletion_of_ends deleted)
  obtain ⟨_, rfl, told⟩ := ends_note_bind.mp last
  obtain ⟨rfl, rfl⟩ := told_ends told
  exact .complete stopped (clusterDeletion_of_ends deleted)

variable {settings : Settings} {why : Stop}

theorem Attempted.unfailing {command : Command}
    (attempted : Attempted command dialogue (.error why)) : why = .interrupted := by
  cases attempted
  rfl

theorem ListingRead.unfailing {cluster : String}
    (read : ListingRead cluster dialogue (.error why)) :
    why = .interrupted := by
  cases read
  rfl

theorem OrchestratorStopping.unfailing (course : OrchestratorStopping dialogue (.error why)) :
    why = .interrupted := by
  cases course with
  | stopAbandoned stop => exact stop.unfailing
  | killAbandoned stop kill => exact kill.unfailing

theorem ClusterDeletion.unfailing {cluster : String}
    (course : ClusterDeletion cluster dialogue (.error why)) : why = .interrupted := by
  cases course with
  | deletionAbandoned deletion => exact deletion.unfailing
  | listingAbandoned deletion listing => exact listing.unfailing

/-- Nothing but an interrupt keeps a stop from its end. -/
theorem Course.unfailing (course : Course settings dialogue (.error why)) : why = .interrupted := by
  cases course with
  | orchestratorAbandoned first => exact first.unfailing
  | clusterAbandoned first second => exact second.unfailing

end DevCluster.Shutdown
