import GatedRollout.Canary.Launch

/-!
# Running one task to its end

A single task is launched as a canary is, with a command of the caller's choice, and its exit code
is reported when it has stopped.
-/

namespace GatedRollout

inductive RunOnceError
  | containerNotFound (container taskDefinition : String)
  | launch (e : TaskError)
  | waitStopped (task : TaskArn) (e : WaitError)
  | noExitCode (task : TaskArn) (container : String)
  deriving DecidableEq

namespace RunOnceError

def message : RunOnceError → String
  | containerNotFound container taskDefinition =>
      s!"container {container} not found in task definition {taskDefinition}"
  | launch e => s!"task did not start: {e.message}"
  | waitStopped task e => s!"task {task.text} did not stop: {e.message}"
  | noExitCode task container =>
      s!"container {container} of task {task.text} reported no exit code"

inductive Kind
  | precondition
  | launch
  | timeout
  | cancelled
  | inconsistent
  deriving DecidableEq, Repr

def kind : RunOnceError → Kind
  | containerNotFound _ _ => .precondition
  | launch e => if e.kind = .cancelled then .cancelled else .launch
  | waitStopped _ e => if e.isCancelled then .cancelled else .timeout
  | noExitCode _ _ => .inconsistent

end RunOnceError

structure RunOnce where
  engine : Engine
  taskDefinition : TaskDefinition
  attachments : Attachments

structure RunOnce.Input where
  /-- The container whose exit code is reported. -/
  container : String
  command : Option (List String) := none
  deriving DecidableEq, Repr

namespace RunOnce

open Canary (LaunchSpec State)

def taskGroup : String := "run-once"

variable (once : RunOnce)

def spec : LaunchSpec where
  taskDefinition := once.taskDefinition
  networkConfiguration := once.attachments.networkConfiguration
  platformVersion := once.attachments.platformVersion
  group := taskGroup

def overrides (input : Input) : List ContainerOverride :=
  match input.command with
  | none => []
  | some command => [⟨input.container, command⟩]

def exitCode (input : Input) (stopped : Option Task) : Option Int32 :=
  (stopped.bind (·.container input.container)).bind (·.exitCode)

def run (input : Input) : Activity State RunOnceError Int32 := do
  let engine := once.engine
  if (once.taskDefinition.container input.container).isNone then
    throw (.containerNotFound input.container once.taskDefinition.arn.text)
  let arn ← (Canary.launch engine once.spec (overrides input)).within RunOnceError.launch
  let _ ← (Canary.waitRunning engine).within RunOnceError.launch
  let stopped ← (engine.taskStopped arn (engine.limit .taskStopped)).within
    (RunOnceError.waitStopped arn)
  match exitCode input stopped with
  | some code => return code
  | none => throw (.noExitCode arn input.container)

end RunOnce

end GatedRollout
