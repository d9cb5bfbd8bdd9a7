import GatedRollout.Wait.Basic

/-!
# Steps and failures of a recreation
-/

namespace GatedRollout

/-- The steps by which a service is recreated, in their order. -/
inductive RecreateStep
  | createTransit | scaleTransit | drainOld | deleteOld | createFinal | scaleFinal | drainTransit
  | deleteTransit
  deriving DecidableEq, Repr

namespace RecreateStep

def all : List RecreateStep :=
  [createTransit, scaleTransit, drainOld, deleteOld, createFinal, scaleFinal, drainTransit,
    deleteTransit]

def title : RecreateStep → String
  | createTransit => "create transit service"
  | scaleTransit => "scale up transit service"
  | drainOld => "scale down old service"
  | deleteOld => "delete old service"
  | createFinal => "create final service"
  | scaleFinal => "scale up final service"
  | drainTransit => "scale down transit service"
  | deleteTransit => "delete transit service"

end RecreateStep

inductive RecreateError
  | describe (service : ServiceName) (e : ClientError)
  | notFound (service : ServiceName)
  | inactive (service : ServiceName)
  /-- The change of a step failed. -/
  | mutate (step : RecreateStep) (service : ServiceName) (e : ClientError)
  /-- The change of a step was accepted, and the service did not settle. -/
  | settle (step : RecreateStep) (service : ServiceName) (e : WaitError)
  deriving DecidableEq

namespace RecreateError

def message : RecreateError → String
  | describe service e => s!"failed to describe service {service.text}: {e.message}"
  | notFound service => s!"service {service.text} does not exist; create it instead of recreating"
  | inactive service => s!"service {service.text} is inactive; create it instead of recreating"
  | mutate step service e => s!"{step.title} failed for {service.text}: {e.message}"
  | settle step service e => s!"{step.title}: {service.text} did not settle: {e.message}"

inductive Kind
  /-- The service does not admit being recreated. -/
  | precondition
  | controlPlane
  | timeout
  | cancelled
  deriving DecidableEq, Repr

def kind : RecreateError → Kind
  | notFound _ => .precondition
  | inactive _ => .precondition
  | describe _ _ => .controlPlane
  | mutate _ _ _ => .controlPlane
  | settle _ _ .cancelled => .cancelled
  | settle _ _ (.client _) => .controlPlane
  | settle _ _ _ => .timeout

def step : RecreateError → Option RecreateStep
  | mutate step _ _ => some step
  | settle step _ _ => some step
  | _ => none

end RecreateError

end GatedRollout
