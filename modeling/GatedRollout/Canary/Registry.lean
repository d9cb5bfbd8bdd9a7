import GatedRollout.Canary.Launch

/-!
# Verification in a discovery registry

The running task is registered as an instance of the registry's service, declared healthy, and
has to be found there among the healthy ones. Before the task is stopped, the instance is
deregistered; a failure of that is recorded and stops nothing.
-/

namespace GatedRollout.Canary

variable (engine : Engine) (spec : LaunchSpec)

/-- The port that an instance is registered with: the one published for the registry's container
port where it names one, else the port that the registry names itself. -/
def registryPort (registry : ServiceRegistry) (task : Task) : Except TaskError (Option UInt16) :=
  match registry.containerName, registry.containerPort with
  | some container, some port =>
      (publishedPort spec.taskDefinition task container port).map some
  | _, _ => .ok registry.port

def instanceQuery : List (String × String) :=
  [("ECS_CLUSTER_NAME", engine.cluster), ("ECS_SERVICE_NAME", engine.service.text)]

/-- What an instance is registered with. It starts unhealthy. -/
def instanceAttributes (identity : NetworkIdentity) (port : Option UInt16) :
    List (String × String) :=
  [("AWS_INSTANCE_IPV4", identity.privateIp),
    ("AVAILABILITY_ZONE", identity.availabilityZone),
    ("AWS_INIT_HEALTH_STATUS", CustomHealthStatus.unhealthy.name)] ++
  instanceQuery engine ++
  [("ECS_TASK_DEFINITION_FAMILY", spec.taskDefinition.family)] ++
  match port with
  | none => []
  | some port => [("AWS_INSTANCE_PORT", toString port.toNat)]

def recordInstance (member : RegisteredInstance) : Move Unit :=
  Attempt.modify (·.setRegistration (some (.discovery member)))

/-- The instance settles the matter once it is among those found. -/
def judgeDiscovered (instanceId : String) (found : List DiscoveredInstance) : Judgement Unit Unit :=
  if found.any (·.instanceId == instanceId) then .settled () else .pending ()

def discoveryWatch (domain service instanceId : String) : Watch controlPlane Unit Unit where
  request := .discoverInstances domain service .healthy (instanceQuery engine)
  interval := healthPollInterval
  limit := engine.limit .targetHealthCheck
  unseen := ()
  judge := fun _ => judgeDiscovered instanceId

def waitDiscoverable (domain service instanceId : String) : Move Unit := do
  let watch := discoveryWatch engine domain service instanceId
  match ← ExceptT.lift (watch.run engine.patience) with
  | .settled _ => return
  | .overdue _ => throw (.instanceNotDiscoverable service instanceId watch.limit)
  | .cancelled => throw (.wait .cancelled)
  | .failed e => throw (.client e)

def verifyInstance (registry : ServiceRegistry) : Move Unit := do
  let task ← waitRunning engine
  waitContainerHealth engine spec
  setPhase .verifying
  let serviceId := registry.registryArn.resourceId
  let service ← Attempt.ask (ι := controlPlane) (.getService serviceId) TaskError.client
  let domain ← Attempt.ask (ι := controlPlane) (.getNamespace service.namespaceId)
    TaskError.client
  let port ← registryPort spec registry task
  let identity ← networkIdentity engine task
  let instanceId := task.arn.resourceId
  Attempt.ask (ι := controlPlane)
    (.registerInstance serviceId instanceId (instanceAttributes engine spec identity port))
    TaskError.client
  recordInstance ⟨serviceId, instanceId⟩
  Attempt.ask (ι := controlPlane) (.updateInstanceHealth serviceId instanceId .healthy)
    TaskError.client
  waitDiscoverable engine domain.name service.name instanceId

def leaveRegistry (member : RegisteredInstance) : Process controlPlane State Unit := do
  match ← Process.ask (ι := controlPlane)
      (.deregisterInstance member.serviceId member.instanceId) with
  | .ok _ => return
  | .error e =>
      let failure := s!"failed to deregister discovery instance {member.instanceId} "
      Process.modify (·.warn ⟨.instanceDeregistration,
        failure ++ s!"from {member.serviceId}: {e.message}"⟩)

def deregisterInstance : Process controlPlane State Unit := do
  match (← Process.state).registration with
  | some (.discovery member) => do
      Process.modify (·.setRegistration none)
      leaveRegistry member
  | _ => return

end GatedRollout.Canary
