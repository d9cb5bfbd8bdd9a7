import GatedRollout.Canary.Set
import GatedRollout.Config.Discovery
import GatedRollout.Creation
import GatedRollout.Recreate.Basic
import GatedRollout.Rehearsal.ControlPlane
import GatedRollout.Rehearsal.StandIn
import GatedRollout.Rollout.Basic
import GatedRollout.RunOnce
import GatedRollout.Proofs.Canary.Schedule
import GatedRollout.Proofs.Recreate.Capacity
import GatedRollout.Proofs.Recreate.Confirmation
import GatedRollout.Proofs.Rollout.Cleanup
import GatedRollout.Proofs.Rollout.Completion
import GatedRollout.Proofs.Rollout.Diagnostics
import GatedRollout.Proofs.Rollout.Update
import GatedRollout.Proofs.Canary.Requests
import GatedRollout.Proofs.Rollout.Requests
import GatedRollout.Proofs.Rollout.History
import GatedRollout.Proofs.Process.Coupling
import GatedRollout.Proofs.Rollout.Outcome
import GatedRollout.Proofs.Process.Token
import GatedRollout.Proofs.Canary.Extent
import GatedRollout.Proofs.Rollout.Extent
import GatedRollout.Proofs.Process.Firing
import GatedRollout.Proofs.Process.Pauses
import GatedRollout.Proofs.Process.Heeding
import GatedRollout.Proofs.Canary.Heeding
import GatedRollout.Proofs.Recreate.Heeding
import GatedRollout.Proofs.Rollout.Heeding
import GatedRollout.Proofs.Cancellation
import GatedRollout.Proofs.Canary.Handling
import GatedRollout.Proofs.Rollout.Precondition
import GatedRollout.Proofs.Rollout.Attachments
import GatedRollout.Proofs.Process.Winding
import GatedRollout.Proofs.Process.Loops
import GatedRollout.Proofs.Canary.Winding
import GatedRollout.Proofs.Rollout.Winding
import GatedRollout.Proofs.Recreate.Winding
import GatedRollout.Proofs.Winding
import GatedRollout.Proofs.Canary.Coordination
import GatedRollout.Proofs.Canary.Panics
import GatedRollout.Proofs.Panics
import GatedRollout.Proofs.Canary.Pacing
import GatedRollout.Proofs.Rollout.Isolation
import GatedRollout.Proofs.Rollout.CleanupTime
import GatedRollout.Proofs.Canary.Tracking
import GatedRollout.Proofs.Process.Outcomes
import GatedRollout.Proofs.Canary.Decisions
import GatedRollout.Proofs.Wire.ReadingBack
import GatedRollout.Proofs.Wire.Documents
import GatedRollout.Proofs.Wire.RoundTrip
import GatedRollout.Proofs.Canary.Phases
import GatedRollout.Proofs.RunOnce
import GatedRollout.Proofs.Canary.Deregistration
import GatedRollout.Proofs.Failures
import GatedRollout.Proofs.Canary.Ports
import GatedRollout.Proofs.Config.Discovery
import GatedRollout.Proofs.Time.Clock
