import GatedRollout.Model.Target
import GatedRollout.Model.Task
import GatedRollout.Wait.Basic

/-!
# Failures of canary tasks
-/

namespace GatedRollout

inductive TaskError
  | launch (e : ClientError)
  | notStarted
  | notRunning (task : TaskArn) (status : TaskStatus) (reason : String)
  | taskNotFound (task : TaskArn)
  | containerHealthTimeout (task : TaskArn) (containers : String) (after : Duration)
  | containerNotFound (container taskDefinition : String)
  | addressUnavailable (task : TaskArn) (detail : String)
  | targetUnhealthy (group id : String) (port : UInt16) (state : TargetHealthState)
      (reason : Option String)
  | targetNotRegistered (group id : String) (port : UInt16)
  | targetHealthTimeout (group id : String) (port : UInt16) (last : String) (after : Duration)
  | instanceNotDiscoverable (service id : String) (after : Duration)
  | wait (e : WaitError)
  | client (e : ClientError)
  deriving DecidableEq

namespace TaskError

def reasonNote : Option String → String
  | none => ""
  | some reason => s!" ({reason})"

def message : TaskError → String
  | launch e => s!"failed to launch canary task: {e.message}"
  | notStarted => "canary task has not been started"
  | notRunning task status reason => s!"task {task.text} is {status.name}: {reason}"
  | taskNotFound task => s!"task {task.text} is not reported by the scheduler"
  | containerHealthTimeout task containers after =>
      s!"container(s) {containers} of task {task.text} not healthy after {after.seconds}s"
  | containerNotFound container taskDefinition =>
      s!"container {container} not found in task definition {taskDefinition}"
  | addressUnavailable task detail => s!"no private address for task {task.text}: {detail}"
  | targetUnhealthy group id port state reason =>
      s!"canary target {id}:{port} in {group} is {state.name}" ++ reasonNote reason
  | targetNotRegistered group id port =>
      s!"canary target {id}:{port} is not registered in {group}"
  | targetHealthTimeout group id port last after =>
      s!"canary target {id}:{port} in {group} not healthy after {after.seconds}s " ++
        s!"(last state: {last})"
  | instanceNotDiscoverable service id after =>
      s!"instance {id} not discoverable as healthy in {service} after {after.seconds}s"
  | wait e => e.message
  | client e => e.message

inductive Kind
  | launch
  /-- The task stopped, or left the running state. -/
  | taskStopped
  | timeout
  | unhealthy
  /-- The control plane's reports do not agree with what was done. -/
  | inconsistent
  /-- The task definition is not what the service expects. -/
  | precondition
  | cancelled
  | controlPlane
  deriving DecidableEq, Repr

def kind : TaskError → Kind
  | launch _ => .launch
  | notRunning _ _ _ => .taskStopped
  | containerHealthTimeout _ _ _ => .timeout
  | targetHealthTimeout _ _ _ _ _ => .timeout
  | instanceNotDiscoverable _ _ _ => .timeout
  | targetUnhealthy _ _ _ _ _ => .unhealthy
  | notStarted => .inconsistent
  | taskNotFound _ => .inconsistent
  | addressUnavailable _ _ => .inconsistent
  | targetNotRegistered _ _ _ => .inconsistent
  | containerNotFound _ _ => .precondition
  | wait .cancelled => .cancelled
  | wait (.timeout _ _ _) => .timeout
  | wait (.taskStopped _ _) => .taskStopped
  | wait (.serviceNotFound _) => .inconsistent
  | wait (.serviceInactive _) => .inconsistent
  | wait (.client _) => .controlPlane
  | client _ => .controlPlane

end TaskError

end GatedRollout
