import GatedRollout.Canary.Error

/-!
# Failures of rollouts
-/

namespace GatedRollout

inductive RolloutError
  | describeService (service : ServiceName) (e : ClientError)
  | serviceNotFound (service : ServiceName)
  | serviceInactive (service : ServiceName)
  | missingServiceDefinition
  | startCanary (e : TaskError)
  | verifyCanary (e : TaskError)
  | updateService (service : ServiceName) (e : ClientError)
  | serviceStable (service : ServiceName) (e : WaitError)
  deriving DecidableEq

namespace RolloutError

def message : RolloutError → String
  | describeService service e => s!"failed to describe service {service.text}: {e.message}"
  | serviceNotFound service =>
      s!"service {service.text} does not exist; create it before rolling out"
  | serviceInactive service =>
      s!"service {service.text} is inactive; create it before rolling out"
  | missingServiceDefinition =>
      "updating the service configuration requires a service definition"
  | startCanary e => s!"canary task failed to start: {e.message}"
  | verifyCanary e => s!"canary verification failed: {e.message}"
  | updateService service e => s!"failed to update service {service.text}: {e.message}"
  | serviceStable service e =>
      s!"service {service.text} did not become stable after update: {e.message}"

inductive Kind
  /-- Nothing was changed; the service or the input does not admit a rollout. -/
  | precondition
  /-- A call failed before there was any canary. -/
  | controlPlane
  | canaryLaunch
  | canaryVerification
  | serviceUpdate
  /-- The service was updated, and did not become stable. -/
  | serviceStability
  | cancelled
  deriving DecidableEq, Repr

def kind : RolloutError → Kind
  | describeService _ _ => .controlPlane
  | serviceNotFound _ => .precondition
  | serviceInactive _ => .precondition
  | missingServiceDefinition => .precondition
  | startCanary e => if e.kind = .cancelled then .cancelled else .canaryLaunch
  | verifyCanary e => if e.kind = .cancelled then .cancelled else .canaryVerification
  | updateService _ _ => .serviceUpdate
  | serviceStable _ e => if e.isCancelled then .cancelled else .serviceStability

def taskError : RolloutError → Option TaskError
  | startCanary e => some e
  | verifyCanary e => some e
  | _ => none

end RolloutError

end GatedRollout
