import GatedRollout.Model.Service
import GatedRollout.Model.Target
import GatedRollout.Wire.Codec

/-!
# Documents of the model

How tasks, services, targets and registries are written. A service name is read only from a text
that is a valid name.
-/

namespace GatedRollout.Wire

instance {kind : ResourceKind} : Wire (Arn kind) where
  codec := .plain (fun arn => .str arn.text) fun j => j.text?.map Arn.mk

/-! ## Task definitions -/

instance : Wire PortMapping where
  codec := .record PortMapping.mk <|
    .need "containerPort" (·.containerPort) <|
    .may "hostPort" (·.hostPort) .done

instance : Wire ContainerHealthCheck where
  codec := .record ContainerHealthCheck.mk <| .need "command" (·.command) .done

instance : Wire ContainerDefinition where
  codec := .record ContainerDefinition.mk <|
    .need "name" (·.name) <|
    .need "image" (·.image) <|
    .getOr "essential" (·.essential) true <|
    .list "portMappings" (·.portMappings) <|
    .may "healthCheck" (·.healthCheck) .done

instance : Wire TaskDefinition where
  codec := .record TaskDefinition.mk <|
    .need "taskDefinitionArn" (·.arn) <|
    .need "family" (·.family) <|
    .list "containerDefinitions" (·.containers) .done

/-! ## Tasks -/

instance : Wire TaskStatus := ⟨.choiceOr .unknown TaskStatus.all TaskStatus.name⟩

instance : Wire HealthStatus := ⟨.choiceOr .unknown HealthStatus.all HealthStatus.name⟩

instance : Wire NetworkBinding where
  codec := .record NetworkBinding.mk <|
    .need "containerPort" (·.containerPort) <|
    .need "hostPort" (·.hostPort) .done

instance : Wire ContainerState where
  codec := .record ContainerState.mk <|
    .need "name" (·.name) <|
    .getOr "healthStatus" (·.healthStatus) .unknown <|
    .may "exitCode" (·.exitCode) <|
    .may "reason" (·.reason) <|
    .list "networkBindings" (·.networkBindings) .done

instance : Wire NetworkAttachment where
  codec := .record NetworkAttachment.mk <|
    .may "privateIpv4Address" (·.privateIpv4Address) <|
    .may "subnetId" (·.subnetId) .done

instance : Wire Task where
  codec := .record Task.mk <|
    .need "taskArn" (·.arn) <|
    .need "taskDefinitionArn" (·.taskDefinitionArn) <|
    .need "lastStatus" (·.lastStatus) <|
    .need "desiredStatus" (·.desiredStatus) <|
    .may "stoppedReason" (·.stoppedReason) <|
    .list "containers" (·.containers) <|
    .may "attachment" (·.attachment) <|
    .may "containerInstanceArn" (·.containerInstanceArn) .done

instance : Wire ContainerInstance where
  codec := .record ContainerInstance.mk <|
    .need "containerInstanceArn" (·.arn) <|
    .need "ec2InstanceId" (·.ec2InstanceId) .done

instance : Wire ContainerOverride where
  codec := .record ContainerOverride.mk <|
    .need "name" (·.name) <|
    .need "command" (·.command) .done

/-! ## Services -/

instance : Wire ServiceName where
  codec := .plain (fun name => .str name.text) fun j =>
    j.text?.bind fun text => (ServiceName.parse text).toOption

instance : Wire ServiceStatus := ⟨.choice ServiceStatus.all ServiceStatus.name⟩

instance : Wire LaunchType := ⟨.choice LaunchType.all LaunchType.name⟩

/-! ## Attachments -/

instance : Wire LoadBalancer where
  codec := .record LoadBalancer.mk <|
    .need "targetGroupArn" (·.targetGroupArn) <|
    .need "containerName" (·.containerName) <|
    .need "containerPort" (·.containerPort) .done

instance : Wire ServiceRegistry where
  codec := .record ServiceRegistry.mk <|
    .need "registryArn" (·.registryArn) <|
    .may "containerName" (·.containerName) <|
    .may "containerPort" (·.containerPort) <|
    .may "port" (·.port) .done

instance : Wire NetworkConfiguration where
  codec := .record NetworkConfiguration.mk <|
    .list "subnets" (·.subnets) <|
    .list "securityGroups" (·.securityGroups) <|
    .getOr "assignPublicIp" (·.assignPublicIp) false .done

/-! ## Services -/

instance : Wire ServiceConnectConfiguration where
  codec := .record ServiceConnectConfiguration.mk <|
    .need "enabled" (·.enabled) <|
    .may "namespace" (·.domain) .done

instance : Wire VolumeConfiguration where
  codec := .record VolumeConfiguration.mk <|
    .need "name" (·.name) <|
    .may "sizeInGib" (·.sizeInGib) .done

instance : Wire ServiceDefinition where
  codec := .record ServiceDefinition.mk <|
    .need "serviceName" (·.serviceName) <|
    .getOr "desiredCount" (·.desiredCount) 0 <|
    .list "loadBalancers" (·.loadBalancers) <|
    .list "serviceRegistries" (·.serviceRegistries) <|
    .may "networkConfiguration" (·.networkConfiguration) <|
    .may "platformVersion" (·.platformVersion) <|
    .may "launchType" (·.launchType) <|
    .may "serviceConnectConfiguration" (·.serviceConnectConfiguration) <|
    .list "volumeConfigurations" (·.volumeConfigurations) .done

instance : Wire ServiceDeployment where
  codec := .record ServiceDeployment.mk <|
    .need "id" (·.id) <|
    .need "status" (·.status) <|
    .need "desiredCount" (·.desiredCount) <|
    .need "runningCount" (·.runningCount) .done

instance : Wire Service where
  codec := .record Service.mk <|
    .need "serviceName" (·.serviceName) <|
    .need "serviceArn" (·.serviceArn) <|
    .need "status" (·.status) <|
    .need "desiredCount" (·.desiredCount) <|
    .need "runningCount" (·.runningCount) <|
    .need "taskDefinition" (·.taskDefinition) <|
    .list "deployments" (·.deployments) <|
    .list "loadBalancers" (·.loadBalancers) <|
    .list "serviceRegistries" (·.serviceRegistries) <|
    .may "networkConfiguration" (·.networkConfiguration) <|
    .may "platformVersion" (·.platformVersion) <|
    .may "launchType" (·.launchType) .done

/-! ## Targets and hosts -/

instance : Wire TargetHealthState := ⟨.choice TargetHealthState.all TargetHealthState.name⟩

instance : Wire TargetHealth where
  codec := .record TargetHealth.mk <|
    .need "state" (·.state) <|
    .may "reason" (·.reason) <|
    .may "description" (·.description) .done

instance : Wire TargetDescription where
  codec := .record TargetDescription.mk <|
    .need "id" (·.id) <|
    .need "port" (·.port) <|
    .may "availabilityZone" (·.availabilityZone) .done

instance : Wire Subnet where
  codec := .record Subnet.mk <|
    .need "subnetId" (·.subnetId) <|
    .need "availabilityZone" (·.availabilityZone) .done

instance : Wire Ec2Instance where
  codec := .record Ec2Instance.mk <|
    .need "instanceId" (·.instanceId) <|
    .need "privateIpAddress" (·.privateIpAddress) <|
    .need "subnetId" (·.subnetId) .done

/-! ## Discovery -/

instance : Wire DiscoveryService where
  codec := .record DiscoveryService.mk <|
    .need "id" (·.id) <|
    .need "name" (·.name) <|
    .need "namespaceId" (·.namespaceId) .done

instance : Wire Namespace where
  codec := .record Namespace.mk <|
    .need "id" (·.id) <|
    .need "name" (·.name) .done

instance : Wire HealthFilter := ⟨.choice HealthFilter.choices HealthFilter.name⟩

instance : Wire CustomHealthStatus := ⟨.choice CustomHealthStatus.all CustomHealthStatus.name⟩

instance : Wire DiscoveredInstance where
  codec := .record DiscoveredInstance.mk <|
    .need "instanceId" (·.instanceId) <|
    .member .table "attributes" (·.attributes) (some []) .done

end GatedRollout.Wire
