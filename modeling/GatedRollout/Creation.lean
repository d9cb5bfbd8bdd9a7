import GatedRollout.Wait.Basic

/-!
# Creating a service

A service that does not exist yet, or is inactive, is created from its definition and waited for.
One that exists is left alone.
-/

namespace GatedRollout

inductive CreationError
  | lookup (service : ServiceName) (e : ClientError)
  | alreadyExists (service : ServiceName)
  | create (service : ServiceName) (e : ClientError)
  | stabilize (service : ServiceName) (e : WaitError)
  deriving DecidableEq

namespace CreationError

def message : CreationError → String
  | lookup service e => s!"failed to describe service {service.text}: {e.message}"
  | alreadyExists service => s!"service {service.text} already exists; roll out to it instead"
  | create service e => s!"failed to create service {service.text}: {e.message}"
  | stabilize service e =>
      s!"service {service.text} did not become stable after creation: {e.message}"

inductive Kind
  | precondition
  | controlPlane
  | timeout
  | cancelled
  deriving DecidableEq, Repr

def kind : CreationError → Kind
  | alreadyExists _ => .precondition
  | lookup _ _ => .controlPlane
  | create _ _ => .controlPlane
  | stabilize _ e => if e.isCancelled then .cancelled else .timeout

end CreationError

structure Creation where
  engine : Engine
  taskDefinition : TaskDefinition
  definition : ServiceDefinition

namespace Creation

variable {σ : Type} (creation : Creation)

def request : ControlPlane.ServiceCreation :=
  ⟨creation.engine.cluster, creation.taskDefinition.arn, creation.definition⟩

def create : Activity σ CreationError Service := do
  let engine := creation.engine
  let name := creation.definition.serviceName
  let existing ← Attempt.ask (ι := controlPlane) (.describeService engine.cluster name)
    (CreationError.lookup name)
  if existing.any (!·.isInactive) then throw (.alreadyExists name)
  Attempt.ask (ι := controlPlane) (.createService creation.request) (CreationError.create name)
  (engine.serviceStable name (engine.limit .serviceStable)).within (CreationError.stabilize name)

end Creation

end GatedRollout
