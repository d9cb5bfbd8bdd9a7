import GatedRollout.Recreate.Error
import GatedRollout.Time.Instant
import GatedRollout.Wait.Basic

/-!
# Recreating a service

A live service is replaced by one made from a new definition, through a transit service that holds
its capacity meanwhile: capacity moves from the old service to the transit service and from there
to the final one, and each step is confirmed before the next. Nothing is undone after a failure;
the steps completed so far say where the services were left.
-/

namespace GatedRollout

/-- A completed step: the service that it changed, and the count that this was left at. -/
structure TransitionStep where
  step : RecreateStep
  service : ServiceName
  desiredCount : UInt32
  deriving DecidableEq, Repr

structure Recreation where
  engine : Engine
  taskDefinition : TaskDefinition
  definition : ServiceDefinition

namespace Recreation

abbrev Steps := List TransitionStep

abbrev Move (α : Type) := Activity Steps RecreateError α

structure Result where
  service : Service
  steps : Steps
  deriving DecidableEq

variable (recreation : Recreation)

def record (step : RecreateStep) (service : ServiceName) (desiredCount : UInt32) : Move Unit :=
  Attempt.modify (· ++ [⟨step, service, desiredCount⟩])

/-! ## The change of a step -/

def confirmStable (step : RecreateStep) (name : ServiceName) (desiredCount : UInt32) :
    Move Service := do
  let engine := recreation.engine
  let service ← (engine.serviceStable name (engine.limit .serviceStable)).within
    (RecreateError.settle step name)
  record step name desiredCount
  return service

def confirmInactive (step : RecreateStep) (name : ServiceName) : Move Unit := do
  let engine := recreation.engine
  (engine.serviceInactive name (engine.limit .serviceStable)).within
    (RecreateError.settle step name)
  record step name 0

/-- The service of that name as it is created: with a single task. -/
def creation (name : ServiceName) : ControlPlane.ServiceCreation where
  cluster := recreation.engine.cluster
  taskDefinition := recreation.taskDefinition.arn
  definition := { recreation.definition with serviceName := name, desiredCount := 1 }

def create (step : RecreateStep) (name : ServiceName) : Move Service := do
  Attempt.ask (ι := controlPlane) (.createService (recreation.creation name))
    (RecreateError.mutate step name)
  recreation.confirmStable step name 1

def scale (step : RecreateStep) (name : ServiceName) (desiredCount : UInt32) :
    Move Service := do
  let update := (ControlPlane.ServiceUpdate.unchanged recreation.engine.cluster
    name).withDesiredCount desiredCount
  Attempt.ask (ι := controlPlane) (.updateService update) (RecreateError.mutate step name)
  recreation.confirmStable step name desiredCount

def delete (step : RecreateStep) (name : ServiceName) : Move Unit := do
  Attempt.ask (ι := controlPlane) (.deleteService recreation.engine.cluster name)
    (RecreateError.mutate step name)
  recreation.confirmInactive step name

/-! ## The transition -/

/-- The service to be recreated, which has to exist and not to be inactive. -/
def judgeOld (name : ServiceName) : Option Service → Except RecreateError Service
  | none => .error (.notFound name)
  | some service => if service.isInactive then .error (.inactive name) else .ok service

/-- The eight steps, at the count that the old service was found at. -/
def transition (old transit : ServiceName) (desiredCount : UInt32) : Move Service := do
  let _ ← recreation.create .createTransit transit
  let _ ← recreation.scale .scaleTransit transit desiredCount
  let _ ← recreation.scale .drainOld old 0
  recreation.delete .deleteOld old
  let _ ← recreation.create .createFinal old
  let service ← recreation.scale .scaleFinal old desiredCount
  let _ ← recreation.scale .drainTransit transit 0
  recreation.delete .deleteTransit transit
  return service

/-- Recreate the service. The transit service is named by the time at which it is needed. -/
def recreate : Move Result := do
  Attempt.modify fun _ => []
  let engine := recreation.engine
  let name := engine.service
  let found ← Attempt.ask (ι := controlPlane) (.describeService engine.cluster name)
    (RecreateError.describe name)
  let old ← judgeOld name found
  let transit := name.transit (Calendar.stamp (← Attempt.now))
  let service ← recreation.transition name transit old.desiredCount
  return ⟨service, ← Attempt.state⟩

end Recreation

end GatedRollout
