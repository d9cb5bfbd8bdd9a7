import GatedRollout.Model.ServiceName
import GatedRollout.Model.Task

/-!
# Services

The definition that a caller supplies for a service, the observed state of a live one, and the
attachments that a canary borrows from either: where it is verified and how it is launched.
-/

namespace GatedRollout

inductive ServiceStatus
  | active | draining | inactive
  deriving DecidableEq, Repr

namespace ServiceStatus

def all : List ServiceStatus := [active, draining, inactive]

def name : ServiceStatus → String
  | active => "ACTIVE"
  | draining => "DRAINING"
  | inactive => "INACTIVE"

def word : ServiceStatus → String
  | active => "Active"
  | draining => "Draining"
  | inactive => "Inactive"

end ServiceStatus

inductive LaunchType
  | fargate | ec2 | external
  deriving DecidableEq, Repr

namespace LaunchType

def all : List LaunchType := [fargate, ec2, external]

def name : LaunchType → String
  | fargate => "FARGATE"
  | ec2 => "EC2"
  | external => "EXTERNAL"

end LaunchType

structure LoadBalancer where
  targetGroupArn : TargetGroupArn
  containerName : String
  containerPort : UInt16
  deriving DecidableEq, Repr

structure ServiceRegistry where
  registryArn : RegistryArn
  containerName : Option String := none
  containerPort : Option UInt16 := none
  port : Option UInt16 := none
  deriving DecidableEq, Repr

structure NetworkConfiguration where
  subnets : List String := []
  securityGroups : List String := []
  assignPublicIp : Bool := false
  deriving DecidableEq, Repr

structure ServiceConnectConfiguration where
  enabled : Bool
  domain : Option String := none
  deriving DecidableEq, Repr

structure VolumeConfiguration where
  name : String
  sizeInGib : Option UInt32 := none
  deriving DecidableEq, Repr

/-- What a canary task borrows from a service. -/
structure Attachments where
  loadBalancers : List LoadBalancer := []
  serviceRegistries : List ServiceRegistry := []
  networkConfiguration : Option NetworkConfiguration := none
  platformVersion : Option String := none
  deriving DecidableEq, Repr

/-- A service as its owner wants it: to create one, or to replace the configuration of one. -/
structure ServiceDefinition where
  serviceName : ServiceName
  desiredCount : UInt32 := 0
  loadBalancers : List LoadBalancer := []
  serviceRegistries : List ServiceRegistry := []
  networkConfiguration : Option NetworkConfiguration := none
  platformVersion : Option String := none
  launchType : Option LaunchType := none
  serviceConnectConfiguration : Option ServiceConnectConfiguration := none
  volumeConfigurations : List VolumeConfiguration := []
  deriving DecidableEq, Repr

def ServiceDefinition.attachments (d : ServiceDefinition) : Attachments :=
  ⟨d.loadBalancers, d.serviceRegistries, d.networkConfiguration, d.platformVersion⟩

structure ServiceDeployment where
  id : String
  status : String
  desiredCount : UInt32
  runningCount : UInt32
  deriving DecidableEq, Repr

structure Service where
  serviceName : ServiceName
  serviceArn : ServiceArn
  status : ServiceStatus
  desiredCount : UInt32
  runningCount : UInt32
  taskDefinition : TaskDefinitionArn
  deployments : List ServiceDeployment := []
  loadBalancers : List LoadBalancer := []
  serviceRegistries : List ServiceRegistry := []
  networkConfiguration : Option NetworkConfiguration := none
  platformVersion : Option String := none
  launchType : Option LaunchType := none
  deriving DecidableEq, Repr

namespace Service

/-- A single deployment whose running count is the desired one. -/
def isStable (s : Service) : Bool :=
  s.status == .active && s.deployments.length == 1 && s.runningCount == s.desiredCount

def isInactive (s : Service) : Bool := s.status == .inactive

def attachments (s : Service) : Attachments :=
  ⟨s.loadBalancers, s.serviceRegistries, s.networkConfiguration, s.platformVersion⟩

end Service

end GatedRollout
