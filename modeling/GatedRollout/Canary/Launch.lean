import GatedRollout.Canary.Error
import GatedRollout.Canary.State
import GatedRollout.Wait.Basic

/-!
# The life of a canary task

What every canary does whichever way it is verified: it is launched, seen running, held at the
container health gate, looked up for its address and port, and stopped. The phase changes at once
with each of these, so that an abandoned canary says how far it got.
-/

namespace GatedRollout

def Engine.placement (engine : Engine) : Canary.Placement :=
  match engine.config.canary.instanceArn with
  | some host => .pinned host
  | none => .onDemand

namespace Canary

structure LaunchSpec where
  taskDefinition : TaskDefinition
  networkConfiguration : Option NetworkConfiguration
  platformVersion : Option String
  group : String
  deriving DecidableEq

def LaunchSpec.canary (engine : Engine) (taskDefinition : TaskDefinition)
    (attachments : Attachments) : LaunchSpec where
  taskDefinition := taskDefinition
  networkConfiguration := attachments.networkConfiguration
  platformVersion := attachments.platformVersion
  group := engine.config.canary.taskGroup

def launchGrace : Duration := .ofSeconds 5

def stopReason : String := "canary task cleanup"

abbrev Move (α : Type) := Activity State TaskError α

variable (engine : Engine) (spec : LaunchSpec)

def setPhase (phase : Phase) : Move Unit := Attempt.modify (·.setPhase phase)

def taskArn : Move TaskArn := do
  match (← Attempt.state).handle.taskArn with
  | some arn => return arn
  | none => throw .notStarted

/-- The same move, after which the phase is the one given, or `failed` where it gave up. -/
def settle {α : Type} (move : Move α) (phase : Phase) : Move α :=
  ExceptT.mk do
    let result ← move.run
    Process.modify (·.setPhase (if result.isOk then phase else .failed))
    return result

/-! ## Launching -/

def launchOn (overrides : List ContainerOverride) : Placement → Move Task
  | .pinned host =>
      Attempt.ask (ι := controlPlane)
        (.startTask
          { cluster := engine.cluster
            taskDefinition := spec.taskDefinition.arn
            group := spec.group
            containerInstance := host
            networkConfiguration := spec.networkConfiguration
            overrides })
        TaskError.launch
  | .onDemand =>
      Attempt.ask (ι := controlPlane)
        (.runTask
          { cluster := engine.cluster
            taskDefinition := spec.taskDefinition.arn
            group := spec.group
            launchType := engine.config.canary.launchType
            networkConfiguration := spec.networkConfiguration
            platformVersion := spec.platformVersion
            overrides })
        TaskError.launch

/-- Launch the task. One that was launched is left alone. -/
def launch (overrides : List ContainerOverride) : Move TaskArn := do
  let handle := (← Attempt.state).handle
  match handle.taskArn with
  | some arn => return arn
  | none => do
      setPhase .starting
      let task ← launchOn engine spec overrides handle.placement
      Attempt.modify (·.setTaskArn task.arn)
      return task.arn

/-- Launch the task as it is defined, unless the token has fired. -/
def start : Move Unit :=
  settle
    (do
      if ← Attempt.cancelled then throw (.wait .cancelled)
      let _ ← launch engine spec [])
    .starting

/-! ## Running -/

def waitRunning : Move Task := do
  let arn ← taskArn
  Attempt.rest launchGrace (.wait .cancelled)
  let task ← (engine.taskRunning arn (engine.limit .taskRunning)).within TaskError.wait
  setPhase .running
  return task

/-- The task itself where it runs; otherwise why it does not count as running. -/
def judgeRunning (arn : TaskArn) : Option Task → Except TaskError Task
  | none => .error (.taskNotFound arn)
  | some task =>
      if task.lastStatus = .running then .ok task
      else .error (.notRunning arn task.lastStatus task.stoppedReasonOrDefault)

def ensureRunning : Move Task := do
  let arn ← taskArn
  let seen ← engine.describeTask arn TaskError.client
  judgeRunning arn seen

/-! ## The container health gate -/

/-- The containers that the gate waits for, in the order of the task definition. -/
def checkedContainers (d : TaskDefinition) : List String :=
  d.healthCheckedContainers.map (·.name)

def unhealthyContainers (task : Task) (checked : List String) : List String :=
  checked.filter fun name => (task.container name).map (·.healthStatus) != some .healthy

/-- A task that does not run settles the matter, and so does one of which every container that is
waited for is healthy. -/
def judgeHealth (arn : TaskArn) (checked : List String) (tasks : List Task) :
    Judgement (Except TaskError Unit) (List String) :=
  match judgeRunning arn (Engine.reported arn tasks) with
  | .error e => .settled (.error e)
  | .ok task =>
      match unhealthyContainers task checked with
      | [] => .settled (.ok ())
      | pending => .pending pending

def healthWatch (arn : TaskArn) (checked : List String) :
    Watch controlPlane (Except TaskError Unit) (List String) where
  request := engine.taskRead arn
  interval := healthPollInterval
  limit := engine.limit .taskHealthCheck
  unseen := []
  judge := fun _ => judgeHealth arn checked

def waitContainerHealth : Move Unit := do
  let arn ← taskArn
  let checked := checkedContainers spec.taskDefinition
  if checked.isEmpty then return
  let watch := healthWatch engine arn checked
  match ← ExceptT.lift (watch.run engine.patience) with
  | .settled result => result
  | .overdue pending =>
      throw (.containerHealthTimeout arn (", ".intercalate pending) watch.limit)
  | .cancelled => throw (.wait .cancelled)
  | .failed e => throw (.client e)

/-! ## Addresses and ports -/

structure NetworkIdentity where
  privateIp : String
  availabilityZone : String
  deriving DecidableEq, Repr

def attachedAddress (task : Task) : Except TaskError (String × String) :=
  match task.attachment with
  | none => .error (.addressUnavailable task.arn "no network interface attached")
  | some attachment =>
      match attachment.privateIpv4Address, attachment.subnetId with
      | none, _ =>
          .error (.addressUnavailable task.arn "network interface has no private address")
      | some _, none => .error (.addressUnavailable task.arn "network interface has no subnet")
      | some ip, some subnet => .ok (ip, subnet)

/-- The address and availability zone of a task: those of its own interface where it runs on
demand, those of its host where it is pinned. -/
def networkIdentity (task : Task) : Move NetworkIdentity := do
  match (← Attempt.state).handle.placement with
  | .onDemand => do
      let (ip, subnetId) ← attachedAddress task
      let subnet ← Attempt.ask (ι := controlPlane) (.describeSubnet subnetId) TaskError.client
      return ⟨ip, subnet.availabilityZone⟩
  | .pinned host => do
      let place := task.containerInstanceArn.getD host
      let container ← Attempt.ask (ι := controlPlane)
        (.describeContainerInstance engine.cluster place) TaskError.client
      let machine ← Attempt.ask (ι := controlPlane)
        (.describeInstance container.ec2InstanceId) TaskError.client
      let subnet ← Attempt.ask (ι := controlPlane)
        (.describeSubnet machine.subnetId) TaskError.client
      return ⟨machine.privateIpAddress, subnet.availabilityZone⟩

def boundPort (task : Task) (container : String) (port : UInt16) : Option UInt16 :=
  (task.container container).bind fun state =>
    (state.networkBindings.find? fun b => b.containerPort == port && b.hostPort != 0).map
      (·.hostPort)

/-- The port that a task publishes for the port of a container: what is bound for it, else the
host port of its mapping, else the port itself. -/
def publishedPort (d : TaskDefinition) (task : Task) (container : String) (port : UInt16) :
    Except TaskError UInt16 :=
  match d.container container with
  | none => .error (.containerNotFound container d.arn.text)
  | some definition =>
      .ok (((boundPort task container port).or (definition.hostPortFor port)).getD port)

/-! ## Stopping -/

/-- Stop the task and wait until it has stopped. A task that was never launched or has been
stopped needs no call. -/
def stopTask : Move Unit := do
  let handle := (← Attempt.state).handle
  if handle.phase = .stopped then return
  match handle.taskArn with
  | none => setPhase .stopped
  | some arn => do
      setPhase .stopping
      Attempt.ask (ι := controlPlane) (.stopTask engine.cluster arn stopReason) TaskError.client
      let _ ← (engine.taskStopped arn (engine.limit .taskStopped)).within TaskError.wait
      setPhase .stopped

end Canary

end GatedRollout
