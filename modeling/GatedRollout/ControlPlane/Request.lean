import GatedRollout.Model.Service
import GatedRollout.Model.Target
import GatedRollout.Model.Task
import GatedRollout.Process.Basic

/-!
# Requests to the control plane

Everything that the engine asks of the cluster scheduler, the load balancer, the discovery
registries and the host inventory is one `Request`; `Reply` is what an accepted request returns.
The services that creating and updating return are never looked at, so their replies are bare
acceptances.
-/

namespace GatedRollout

namespace ControlPlane

/-! ## Requests with many parts -/

structure ServiceCreation where
  cluster : String
  taskDefinition : TaskDefinitionArn
  definition : ServiceDefinition
  deriving DecidableEq, Repr

/-- A change to a live service. What is `none` is left as it is. -/
structure ServiceUpdate where
  cluster : String
  service : ServiceName
  taskDefinition : Option TaskDefinitionArn := none
  desiredCount : Option UInt32 := none
  loadBalancers : Option (List LoadBalancer) := none
  networkConfiguration : Option NetworkConfiguration := none
  serviceRegistries : Option (List ServiceRegistry) := none
  platformVersion : Option String := none
  serviceConnectConfiguration : Option ServiceConnectConfiguration := none
  volumeConfigurations : Option (List VolumeConfiguration) := none
  deriving DecidableEq, Repr

namespace ServiceUpdate

def unchanged (cluster : String) (service : ServiceName) : ServiceUpdate := { cluster, service }

def withTaskDefinition (u : ServiceUpdate) (arn : TaskDefinitionArn) : ServiceUpdate :=
  { u with taskDefinition := some arn }

def withDesiredCount (u : ServiceUpdate) (count : UInt32) : ServiceUpdate :=
  { u with desiredCount := some count }

/-- Carry every attribute of the definition that can be changed on a live service. -/
def withConfiguration (u : ServiceUpdate) (d : ServiceDefinition) : ServiceUpdate :=
  { u with
    loadBalancers := some d.loadBalancers
    networkConfiguration := d.networkConfiguration
    serviceRegistries := some d.serviceRegistries
    platformVersion := d.platformVersion
    serviceConnectConfiguration := d.serviceConnectConfiguration
    volumeConfigurations := some d.volumeConfigurations }

end ServiceUpdate

/-- A launch on capacity that the scheduler manages. -/
structure TaskRun where
  cluster : String
  taskDefinition : TaskDefinitionArn
  group : String
  launchType : Option LaunchType
  networkConfiguration : Option NetworkConfiguration
  platformVersion : Option String
  overrides : List ContainerOverride
  deriving DecidableEq, Repr

/-- A launch on a container instance of the caller's choice. -/
structure TaskStart where
  cluster : String
  taskDefinition : TaskDefinitionArn
  group : String
  containerInstance : ContainerInstanceArn
  networkConfiguration : Option NetworkConfiguration
  overrides : List ContainerOverride
  deriving DecidableEq, Repr

/-! ## Requests and replies -/

inductive Request
  | describeService (cluster : String) (service : ServiceName)
  | createService (creation : ServiceCreation)
  | updateService (update : ServiceUpdate)
  | deleteService (cluster : String) (service : ServiceName)
  | runTask (launch : TaskRun)
  | startTask (launch : TaskStart)
  | stopTask (cluster : String) (task : TaskArn) (reason : String)
  | describeTasks (cluster : String) (tasks : List TaskArn)
  | describeContainerInstance (cluster : String) (host : ContainerInstanceArn)
  | deregistrationDelay (group : TargetGroupArn)
  | describeTargetHealth (group : TargetGroupArn) (target : TargetDescription)
  | registerTarget (group : TargetGroupArn) (target : TargetDescription)
  | deregisterTarget (group : TargetGroupArn) (target : TargetDescription)
  | describeSubnet (subnet : String)
  | describeInstance (host : String)
  | getService (service : String)
  | getNamespace (domain : String)
  | registerInstance (service member : String) (attributes : List (String × String))
  | deregisterInstance (service member : String)
  | updateInstanceHealth (service member : String) (status : CustomHealthStatus)
  | discoverInstances (domain service : String) (filter : HealthFilter)
      (query : List (String × String))
  deriving DecidableEq

abbrev Request.Reply : Request → Type
  | describeService _ _ => Option Service
  | createService _ => Unit
  | updateService _ => Unit
  | deleteService _ _ => Unit
  | runTask _ => Task
  | startTask _ => Task
  | stopTask _ _ _ => Unit
  | describeTasks _ _ => List Task
  | describeContainerInstance _ _ => ContainerInstance
  | deregistrationDelay _ => Option Duration
  | describeTargetHealth _ _ => Option TargetHealth
  | registerTarget _ _ => Unit
  | deregisterTarget _ _ => Unit
  | describeSubnet _ => Subnet
  | describeInstance _ => Ec2Instance
  | getService _ => DiscoveryService
  | getNamespace _ => Namespace
  | registerInstance _ _ _ => Unit
  | deregisterInstance _ _ => Unit
  | updateInstanceHealth _ _ _ => Unit
  | discoverInstances _ _ _ _ => List DiscoveredInstance

end ControlPlane

abbrev controlPlane : Interface := ⟨ControlPlane.Request, ControlPlane.Request.Reply⟩

end GatedRollout
