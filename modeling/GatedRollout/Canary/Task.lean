import GatedRollout.Canary.LoadBalanced
import GatedRollout.Canary.Registry

/-!
# Canary tasks

A canary task can be started, waited for and stopped. Starting comes first, and waiting follows a
start that succeeded; stopping is always allowed, and does nothing for a task that was never
launched. The canaries of a service come in three kinds, by what verifies them.
-/

namespace GatedRollout

/-- A task that has to prove a task definition, in a conversation `ι` and with a state `σ`. -/
structure CanaryTask (ι : Interface) (σ : Type) where
  start : Attempt ι σ TaskError Unit
  wait : Attempt ι σ TaskError Unit
  stop : Attempt ι σ TaskError Unit
  handle : σ → Canary.Handle
  /-- The failures of a stop that did not make it fail. -/
  warnings : σ → List Warning

namespace Canary

inductive Strategy
  /-- It runs on for a while. -/
  | standalone
  | loadBalanced (balancer : LoadBalancer)
  | registry (registry : ServiceRegistry)
  deriving DecidableEq, Repr

variable (engine : Engine) (spec : LaunchSpec)

/-- Let the running task run on, and require it to run still. -/
def verifyIdle : Move Unit := do
  let _ ← waitRunning engine
  waitContainerHealth engine spec
  setPhase .verifying
  let _ ← taskArn
  match ← ExceptT.lift (idle (engine.limit .canaryIdle) healthPollInterval engine.patience) with
  | .cancelled => throw (.wait .cancelled)
  | .elapsed =>
      let _ ← ensureRunning engine

def verify : Strategy → Move Unit
  | .standalone => verifyIdle engine spec
  | .loadBalanced balancer => verifyTarget engine spec balancer
  | .registry registry => verifyInstance engine spec registry

def deregister : Strategy → Process controlPlane State Unit
  | .standalone => return
  | .loadBalanced _ => deregisterTarget engine
  | .registry _ => deregisterInstance

def task (strategy : Strategy) : CanaryTask controlPlane State where
  start := start engine spec
  wait := settle (verify engine spec strategy) .verified
  stop := do
    ExceptT.lift (deregister engine strategy)
    stopTask engine
  handle := (·.handle)
  warnings := (·.warnings)

end Canary

end GatedRollout
