import GatedRollout.Model.Target
import GatedRollout.Model.Task

/-!
# What a canary knows about itself

The handle of a canary task, the endpoint under which it is registered for its verification, and
the warnings of its cleanup. A canary without a task identifier was never launched, and there is
nothing to stop.

What goes wrong in a cleanup does not fail a rollout, but its caller should still see it: it is kept
as warnings, in the order in which they arose.
-/

namespace GatedRollout

/-! ## Warnings -/

inductive WarningKind
  /-- A target could not be deregistered, or was not confirmed gone. -/
  | targetDeregistration
  | instanceDeregistration
  /-- A canary task could not be stopped, and may still be running. -/
  | taskStop
  | cleanupTimeout
  deriving DecidableEq, Repr

structure Warning where
  kind : WarningKind
  message : String
  deriving DecidableEq, Repr

structure Diagnostics where
  warnings : List Warning := []
  deriving DecidableEq, Repr

namespace Diagnostics

def warn (d : Diagnostics) (w : Warning) : Diagnostics := ⟨d.warnings ++ [w]⟩

def absorb (d : Diagnostics) (ws : List Warning) : Diagnostics := ⟨d.warnings ++ ws⟩

def hasWarnings (d : Diagnostics) : Bool := !d.warnings.isEmpty

end Diagnostics

namespace Canary

/-! ## Handles -/

inductive Placement
  /-- On capacity of the scheduler, by an interface of its own. -/
  | onDemand
  /-- On the container instance given, by the address of its host. -/
  | pinned (host : ContainerInstanceArn)
  deriving DecidableEq, Repr

inductive Phase
  | created | starting | running | verifying | verified | failed | stopping | stopped
  deriving DecidableEq, Repr

def Phase.name : Phase → String
  | created => "created"
  | starting => "starting"
  | running => "running"
  | verifying => "verifying"
  | verified => "verified"
  | failed => "failed"
  | stopping => "stopping"
  | stopped => "stopped"

structure Handle where
  taskArn : Option TaskArn := none
  placement : Placement
  phase : Phase := .created
  deriving DecidableEq, Repr

def Handle.isStarted (h : Handle) : Bool := h.taskArn.isSome

/-! ## Registrations -/

structure Target where
  group : TargetGroupArn
  id : String
  port : UInt16
  availabilityZone : String
  deriving DecidableEq, Repr

namespace Target

def description (t : Target) : TargetDescription := ⟨t.id, t.port, some t.availabilityZone⟩

def text (t : Target) : String :=
  s!"{t.id}:{t.port} ({t.availabilityZone}) in {t.group.text}"

end Target

structure RegisteredInstance where
  serviceId : String
  instanceId : String
  deriving DecidableEq, Repr

inductive Registration
  | target (t : Target)
  | discovery (i : RegisteredInstance)
  deriving DecidableEq, Repr

/-! ## States -/

structure State where
  handle : Handle
  registration : Option Registration := none
  warnings : List Warning := []
  deriving DecidableEq, Repr

namespace State

def fresh (placement : Placement) : State := { handle := { placement } }

def setPhase (s : State) (phase : Phase) : State :=
  { s with handle := { s.handle with phase } }

def setTaskArn (s : State) (arn : TaskArn) : State :=
  { s with handle := { s.handle with taskArn := some arn } }

def setRegistration (s : State) (registration : Option Registration) : State :=
  { s with registration }

def warn (s : State) (w : Warning) : State := { s with warnings := s.warnings ++ [w] }

end State

end Canary

end GatedRollout
