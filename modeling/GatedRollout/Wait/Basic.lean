import GatedRollout.Config.Basic
import GatedRollout.ControlPlane.Request
import GatedRollout.Process.Watch

/-!
# Waiting for tasks and services

What the engine waits for at the cluster scheduler: a task that runs, a task that has stopped, a
service that is stable, a service that is inactive. Each is a watch, and each has its own rule
for what settles it.
-/

namespace GatedRollout

/-! ## Failures -/

inductive WaitError
  | cancelled
  /-- The limit was used up. `last` is what was last observed. -/
  | timeout (what : String) (after : Duration) (last : String)
  | taskStopped (task : TaskArn) (reason : String)
  | serviceNotFound (service : ServiceName)
  | serviceInactive (service : ServiceName)
  | client (e : ClientError)
  deriving DecidableEq

namespace WaitError

def message : WaitError → String
  | cancelled => "cancelled"
  | timeout what after last =>
      s!"timed out after {after.seconds}s waiting for {what} (last observed: {last})"
  | taskStopped task reason => s!"task {task.text} stopped: {reason}"
  | serviceNotFound service => s!"service {service.text} not found"
  | serviceInactive service => s!"service {service.text} is inactive"
  | client e => e.message

def isCancelled : WaitError → Bool
  | cancelled => true
  | _ => false

end WaitError

/-! ## The engine -/

structure Engine where
  config : Config
  /-- How many more requests a watch makes on a clock that no longer moves. -/
  patience : Nat := 100000

abbrev Activity (σ ε α : Type) := Attempt controlPlane σ ε α

def taskPollInterval : Duration := .ofSeconds 6

def servicePollInterval : Duration := .ofSeconds 15

def healthPollInterval : Duration := .ofSeconds 15

theorem taskPollInterval_pos : 0 < taskPollInterval.nanos := by decide

theorem healthPollInterval_pos : 0 < healthPollInterval.nanos := by decide

theorem taskPollInterval_le : taskPollInterval.nanos ≤ healthPollInterval.nanos := by decide

namespace Engine

variable {σ ε β : Type} (engine : Engine)

def cluster : String := engine.config.cluster

def service : ServiceName := engine.config.service

def limit (phase : Phase) : Duration := engine.config.timeouts.resolve phase

/-! ## Reading a task -/

def taskRead (arn : TaskArn) : ControlPlane.Request := .describeTasks engine.cluster [arn]

def reported (arn : TaskArn) (tasks : List Task) : Option Task := tasks.find? (·.arn == arn)

/-- The present state of a task, if the scheduler reports it. -/
def describeTask (arn : TaskArn) (fault : ClientError → ε) : Activity σ ε (Option Task) := do
  let tasks ← Attempt.ask (engine.taskRead arn) fault
  return reported arn tasks

/-! ## Waiting -/

/-- Watch until the matter is settled; `what` says in a timeout what was waited for. -/
def await (what : String) (watch : Watch controlPlane (Except WaitError β) String) :
    Activity σ WaitError β :=
  ExceptT.mk ((watch.run engine.patience).bind fun
    | .settled result => .done result
    | .overdue last => .done (.error (.timeout what watch.limit last))
    | .cancelled => .done (.error .cancelled)
    | .failed e => .done (.error (.client e)))

/-- A running task settles the matter, and so does a stopped one. A task that is not reported is
still to come. -/
def judgeRunning (arn : TaskArn) (seen : String) (tasks : List Task) :
    Judgement (Except WaitError Task) String :=
  match reported arn tasks with
  | none => .pending seen
  | some task =>
      match task.lastStatus with
      | .running => .settled (.ok task)
      | .stopped => .settled (.error (.taskStopped arn task.stoppedReasonOrDefault))
      | status => .pending status.name

def taskRunning (arn : TaskArn) (limit : Duration) : Activity σ WaitError Task :=
  engine.await s!"task {arn.text} to be running"
    { request := engine.taskRead arn
      interval := taskPollInterval
      limit
      unseen := "not yet visible"
      judge := judgeRunning arn }

/-- A stopped task settles the matter, and one that is no longer reported counts as stopped. -/
def judgeStopped (arn : TaskArn) (tasks : List Task) :
    Judgement (Except WaitError (Option Task)) String :=
  match reported arn tasks with
  | none => .settled (.ok none)
  | some task =>
      if task.lastStatus = .stopped then .settled (.ok (some task))
      else .pending task.lastStatus.name

def taskStopped (arn : TaskArn) (limit : Duration) : Activity σ WaitError (Option Task) :=
  engine.await s!"task {arn.text} to stop"
    { request := engine.taskRead arn
      interval := taskPollInterval
      limit
      unseen := ""
      judge := fun _ => judgeStopped arn }

/-- A stable service settles the matter, and so does one that is gone or inactive. -/
def judgeStable (name : ServiceName) :
    Option Service → Judgement (Except WaitError Service) String
  | none => .settled (.error (.serviceNotFound name))
  | some service =>
      if service.isInactive then .settled (.error (.serviceInactive name))
      else if service.isStable then .settled (.ok service)
      else
        .pending s!"{service.runningCount}/{service.desiredCount} running, {service.deployments.length} deployment(s)"

def serviceStable (name : ServiceName) (limit : Duration) : Activity σ WaitError Service :=
  engine.await s!"service {name.text} to become stable"
    { request := .describeService engine.cluster name
      interval := servicePollInterval
      limit
      unseen := ""
      judge := fun _ => judgeStable name }

/-- A service that is inactive or gone settles the matter. -/
def judgeInactive : Option Service → Judgement (Except WaitError Unit) String
  | none => .settled (.ok ())
  | some service =>
      if service.isInactive then .settled (.ok ()) else .pending service.status.word

def serviceInactive (name : ServiceName) (limit : Duration) : Activity σ WaitError Unit :=
  engine.await s!"service {name.text} to become inactive"
    { request := .describeService engine.cluster name
      interval := servicePollInterval
      limit
      unseen := ""
      judge := fun _ => judgeInactive }

end Engine

end GatedRollout
