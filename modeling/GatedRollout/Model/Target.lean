/-!
# Where canaries are registered

The endpoint registered in a target group, the health reported for it, and the subnet and host
instance from which its address and availability zone are read; and the registries in which a canary
is made discoverable, with the instances found there.
-/

namespace GatedRollout

/-! ## Targets and hosts -/

inductive TargetHealthState
  | initial | healthy | unhealthy | unhealthyDraining | unused | draining | unavailable
  deriving DecidableEq, Repr

namespace TargetHealthState

def all : List TargetHealthState :=
  [initial, healthy, unhealthy, unhealthyDraining, unused, draining, unavailable]

def name : TargetHealthState → String
  | initial => "initial"
  | healthy => "healthy"
  | unhealthy => "unhealthy"
  | unhealthyDraining => "unhealthy.draining"
  | unused => "unused"
  | draining => "draining"
  | unavailable => "unavailable"

end TargetHealthState

structure TargetHealth where
  state : TargetHealthState
  reason : Option String := none
  description : Option String := none
  deriving DecidableEq, Repr

structure TargetDescription where
  id : String
  port : UInt16
  availabilityZone : Option String := none
  deriving DecidableEq, Repr

structure Subnet where
  subnetId : String
  availabilityZone : String
  deriving DecidableEq, Repr

structure Ec2Instance where
  instanceId : String
  privateIpAddress : String
  subnetId : String
  deriving DecidableEq, Repr

/-! ## Registries -/

structure DiscoveryService where
  id : String
  name : String
  namespaceId : String
  deriving DecidableEq, Repr

structure Namespace where
  id : String
  name : String
  deriving DecidableEq, Repr

/-- Which instances a look-up returns. -/
inductive HealthFilter
  | healthy | unhealthy | all
  deriving DecidableEq, Repr

namespace HealthFilter

def choices : List HealthFilter := [healthy, unhealthy, all]

def name : HealthFilter → String
  | healthy => "HEALTHY"
  | unhealthy => "UNHEALTHY"
  | all => "ALL"

end HealthFilter

inductive CustomHealthStatus
  | healthy | unhealthy
  deriving DecidableEq, Repr

namespace CustomHealthStatus

def all : List CustomHealthStatus := [healthy, unhealthy]

def name : CustomHealthStatus → String
  | healthy => "HEALTHY"
  | unhealthy => "UNHEALTHY"

end CustomHealthStatus

structure DiscoveredInstance where
  instanceId : String
  /-- What was said of the instance when it was registered, by name. -/
  attributes : List (String × String) := []
  deriving DecidableEq, Repr

end GatedRollout
