/-!
# Tasks

Task definitions, which the engine takes from its caller and only reads, and what the scheduler
reports of a task: its status, the health and exit code of its containers, the ports bound for them
and the network interface attached to it.

Identifiers are typed by the kind of resource that they name, so that the identifier of a task never
stands where that of a service is meant.
-/

namespace GatedRollout

/-! ## Identifiers -/

inductive ResourceKind
  | task | taskDefinition | service | containerInstance | targetGroup | registry
  deriving DecidableEq, Repr

structure Arn (kind : ResourceKind) where
  text : String
  deriving DecidableEq, Repr

abbrev TaskArn := Arn .task
abbrev TaskDefinitionArn := Arn .taskDefinition
abbrev ServiceArn := Arn .service
abbrev ContainerInstanceArn := Arn .containerInstance
abbrev TargetGroupArn := Arn .targetGroup
abbrev RegistryArn := Arn .registry

namespace Arn

variable {kind : ResourceKind}

instance : Inhabited (Arn kind) := ⟨⟨""⟩⟩

/-- What follows the last slash, or the whole identifier where there is none. -/
def resourceId (arn : Arn kind) : String :=
  String.ofList (arn.text.toList.reverse.takeWhile (· ≠ '/')).reverse

end Arn

/-! ## Definitions -/

structure PortMapping where
  containerPort : UInt16
  hostPort : Option UInt16 := none
  deriving DecidableEq, Repr

structure ContainerHealthCheck where
  command : List String
  deriving DecidableEq, Repr

structure ContainerDefinition where
  name : String
  image : String
  essential : Bool := true
  portMappings : List PortMapping := []
  healthCheck : Option ContainerHealthCheck := none
  deriving DecidableEq, Repr

namespace ContainerDefinition

/-- A health check without a command is none. -/
def hasHealthCheck (c : ContainerDefinition) : Bool := c.healthCheck.any (!·.command.isEmpty)

/-- The host port that the first mapping of the container port names. Zero stands for a port that
is chosen at launch. -/
def hostPortFor (c : ContainerDefinition) (port : UInt16) : Option UInt16 :=
  ((c.portMappings.find? (·.containerPort == port)).bind (·.hostPort)).filter (· != 0)

end ContainerDefinition

structure TaskDefinition where
  arn : TaskDefinitionArn
  family : String
  containers : List ContainerDefinition := []
  deriving DecidableEq, Repr

namespace TaskDefinition

def container (d : TaskDefinition) (name : String) : Option ContainerDefinition :=
  d.containers.find? (·.name == name)

def healthCheckedContainers (d : TaskDefinition) : List ContainerDefinition :=
  d.containers.filter (·.hasHealthCheck)

end TaskDefinition

/-! ## Observed tasks -/

/-- Where a task stands in its life. A status that is not listed reads as `unknown`. -/
inductive TaskStatus
  | provisioning | pending | activating | running | deactivating | stopping | deprovisioning
  | stopped | unknown
  deriving DecidableEq, Repr

namespace TaskStatus

def all : List TaskStatus :=
  [provisioning, pending, activating, running, deactivating, stopping, deprovisioning, stopped,
    unknown]

def name : TaskStatus → String
  | provisioning => "PROVISIONING"
  | pending => "PENDING"
  | activating => "ACTIVATING"
  | running => "RUNNING"
  | deactivating => "DEACTIVATING"
  | stopping => "STOPPING"
  | deprovisioning => "DEPROVISIONING"
  | stopped => "STOPPED"
  | unknown => "UNKNOWN"

end TaskStatus

inductive HealthStatus
  | healthy | unhealthy | unknown
  deriving DecidableEq, Repr

namespace HealthStatus

def all : List HealthStatus := [healthy, unhealthy, unknown]

def name : HealthStatus → String
  | healthy => "HEALTHY"
  | unhealthy => "UNHEALTHY"
  | unknown => "UNKNOWN"

end HealthStatus

structure NetworkBinding where
  containerPort : UInt16
  hostPort : UInt16
  deriving DecidableEq, Repr

structure ContainerState where
  name : String
  healthStatus : HealthStatus := .unknown
  exitCode : Option Int32 := none
  reason : Option String := none
  networkBindings : List NetworkBinding := []
  deriving DecidableEq

structure NetworkAttachment where
  privateIpv4Address : Option String := none
  subnetId : Option String := none
  deriving DecidableEq, Repr

structure Task where
  arn : TaskArn
  taskDefinitionArn : TaskDefinitionArn
  lastStatus : TaskStatus
  desiredStatus : TaskStatus
  stoppedReason : Option String := none
  containers : List ContainerState := []
  attachment : Option NetworkAttachment := none
  containerInstanceArn : Option ContainerInstanceArn := none
  deriving DecidableEq

namespace Task

def container (t : Task) (name : String) : Option ContainerState :=
  t.containers.find? (·.name == name)

def stoppedReasonOrDefault (t : Task) : String := t.stoppedReason.getD "no reason reported"

end Task

structure ContainerInstance where
  arn : ContainerInstanceArn
  ec2InstanceId : String
  deriving DecidableEq, Repr

/-- A command that replaces a container's own when a task is launched. -/
structure ContainerOverride where
  name : String
  command : List String
  deriving DecidableEq, Repr

end GatedRollout
