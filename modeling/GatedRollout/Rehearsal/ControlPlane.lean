import GatedRollout.ControlPlane.Request
import GatedRollout.Rehearsal.Script
import GatedRollout.Wire.Documents

/-!
# Rehearsing with a control plane

The names by which a script knows the requests to the control plane, the documents from which
their replies are read, and the record that is kept of a request.
-/

namespace GatedRollout.ControlPlane.Request

open Wire (encode encodeTable decode)

def operation : Request → String
  | describeService _ _ => "describe_service"
  | createService _ => "create_service"
  | updateService _ => "update_service"
  | deleteService _ _ => "delete_service"
  | runTask _ => "run_task"
  | startTask _ => "start_task"
  | stopTask _ _ _ => "stop_task"
  | describeTasks _ _ => "describe_tasks"
  | describeContainerInstance _ _ => "describe_container_instance"
  | deregistrationDelay _ => "deregistration_delay"
  | describeTargetHealth _ _ => "describe_target_health"
  | registerTarget _ _ => "register_target"
  | deregisterTarget _ _ => "deregister_target"
  | describeSubnet _ => "describe_subnet"
  | describeInstance _ => "describe_instance"
  | getService _ => "get_service"
  | getNamespace _ => "get_namespace"
  | registerInstance _ _ _ => "register_instance"
  | deregisterInstance _ _ => "deregister_instance"
  | updateInstanceHealth _ _ _ => "update_instance_health"
  | discoverInstances _ _ _ _ => "discover_instances"

/-- What a request is about, by which a script may tell apart two requests of one operation. -/
def subject : Request → String
  | describeService _ service => service.text
  | createService creation => creation.definition.serviceName.text
  | updateService update => update.service.text
  | deleteService _ service => service.text
  | runTask launch => launch.group
  | startTask launch => launch.group
  | stopTask _ task _ => task.text
  | describeTasks _ tasks => (tasks.head?.map (·.text)).getD ""
  | describeContainerInstance _ host => host.text
  | deregistrationDelay group => group.text
  | describeTargetHealth group _ => group.text
  | registerTarget group _ => group.text
  | deregisterTarget group _ => group.text
  | describeSubnet subnet => subnet
  | describeInstance host => host
  | getService service => service
  | getNamespace domain => domain
  | registerInstance _ member _ => member
  | deregisterInstance _ member => member
  | updateInstanceHealth _ member _ => member
  | discoverInstances _ service _ _ => service

/-- A number of milliseconds; anything else leaves the delay unset. -/
def delayOf : Json → Option Duration
  | .int n => if 0 ≤ n then some (.ofMillis n.toNat) else none
  | _ => none

/-- Read the reply to a request. The reply that only says that a request was accepted may be
anything. -/
def reply? : (r : Request) → Json → Option r.Reply
  | describeService _ _, j => (decode j : Option (Option Service))
  | createService _, _ => some ()
  | updateService _, _ => some ()
  | deleteService _ _, _ => some ()
  | runTask _, j => (decode j : Option Task)
  | startTask _, j => (decode j : Option Task)
  | stopTask _ _ _, _ => some ()
  | describeTasks _ _, j => (decode j : Option (List Task))
  | describeContainerInstance _ _, j => (decode j : Option ContainerInstance)
  | deregistrationDelay _, j => some (delayOf j)
  | describeTargetHealth _ _, j => (decode j : Option (Option TargetHealth))
  | registerTarget _ _, _ => some ()
  | deregisterTarget _ _, _ => some ()
  | describeSubnet _, j => (decode j : Option Subnet)
  | describeInstance _, j => (decode j : Option Ec2Instance)
  | getService _, j => (decode j : Option DiscoveryService)
  | getNamespace _, j => (decode j : Option Namespace)
  | registerInstance _ _ _, _ => some ()
  | deregisterInstance _ _, _ => some ()
  | updateInstanceHealth _ _ _, _ => some ()
  | discoverInstances _ _ _ _, j => (decode j : Option (List DiscoveredInstance))

def recordUpdate (u : ServiceUpdate) : List (String × Json) :=
  [("cluster", .str u.cluster), ("service", encode u.service),
    ("task_definition", encode u.taskDefinition), ("desired_count", encode u.desiredCount),
    ("load_balancers", encode u.loadBalancers),
    ("network_configuration", encode u.networkConfiguration),
    ("service_registries", encode u.serviceRegistries),
    ("platform_version", encode u.platformVersion),
    ("service_connect_configuration", encode u.serviceConnectConfiguration),
    ("volume_configurations", encode u.volumeConfigurations)]

def record : Request → List (String × Json)
  | describeService cluster service => [("cluster", .str cluster), ("service", encode service)]
  | createService creation =>
      [("cluster", .str creation.cluster), ("task_definition", encode creation.taskDefinition),
        ("definition", encode creation.definition)]
  | updateService update => recordUpdate update
  | deleteService cluster service => [("cluster", .str cluster), ("service", encode service)]
  | runTask launch =>
      [("cluster", .str launch.cluster), ("task_definition", encode launch.taskDefinition),
        ("group", .str launch.group), ("launch_type", encode launch.launchType),
        ("network_configuration", encode launch.networkConfiguration),
        ("platform_version", encode launch.platformVersion),
        ("overrides", encode launch.overrides)]
  | startTask launch =>
      [("cluster", .str launch.cluster), ("task_definition", encode launch.taskDefinition),
        ("group", .str launch.group), ("container_instance", encode launch.containerInstance),
        ("network_configuration", encode launch.networkConfiguration),
        ("overrides", encode launch.overrides)]
  | stopTask cluster task reason =>
      [("cluster", .str cluster), ("task", encode task), ("reason", .str reason)]
  | describeTasks cluster tasks => [("cluster", .str cluster), ("tasks", encode tasks)]
  | describeContainerInstance cluster host =>
      [("cluster", .str cluster), ("instance", encode host)]
  | deregistrationDelay group => [("target_group", encode group)]
  | describeTargetHealth group target =>
      [("target_group", encode group), ("target", encode target)]
  | registerTarget group target => [("target_group", encode group), ("target", encode target)]
  | deregisterTarget group target => [("target_group", encode group), ("target", encode target)]
  | describeSubnet subnet => [("subnet", .str subnet)]
  | describeInstance host => [("instance", .str host)]
  | getService service => [("service_id", .str service)]
  | getNamespace domain => [("namespace_id", .str domain)]
  | registerInstance service member attributes =>
      [("service_id", .str service), ("instance_id", .str member),
        ("attributes", encodeTable attributes)]
  | deregisterInstance service member =>
      [("service_id", .str service), ("instance_id", .str member)]
  | updateInstanceHealth service member status =>
      [("service_id", .str service), ("instance_id", .str member), ("status", encode status)]
  | discoverInstances domain service filter query =>
      [("namespace", .str domain), ("service", .str service), ("filter", encode filter),
        ("query", encodeTable query)]

end GatedRollout.ControlPlane.Request

namespace GatedRollout.Rehearsal

def controlPlaneRepertoire : Repertoire controlPlane where
  operation := ControlPlane.Request.operation
  subject := ControlPlane.Request.subject
  reply? := ControlPlane.Request.reply?

end GatedRollout.Rehearsal
