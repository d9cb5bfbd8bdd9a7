import GatedRollout.Proofs.Process.Rules
import GatedRollout.Proofs.Wait.Await

/-!
# The schedules of the waits for tasks and services

The rules of the four waits at the cluster scheduler, told by what a reply reports of the task or
the service, and that each wait is governed by its rules.
-/

namespace GatedRollout

variable {σ β : Type}

namespace Engine

/-! ## Rules -/

/-- The status of the task, where it is reported. -/
def shownStatus (arn : TaskArn) (tasks : List Task) : Option String :=
  (reported arn tasks).map (·.lastStatus.name)

/-- A task that runs or has stopped is decisive. -/
def runningRules (arn : TaskArn) (limit : Duration) :
    Rules (List Task) (Except WaitError Task) where
  interval := taskPollInterval
  limit
  decides _ tasks :=
    match reported arn tasks with
    | none => none
    | some task =>
        if task.lastStatus = .running then some (.ok task)
        else if task.lastStatus = .stopped then
          some (.error (.taskStopped arn task.stoppedReasonOrDefault))
        else none
  failure e := .error (.client e)
  timeout earlier :=
    .error (.timeout s!"task {arn.text} to be running" limit
      (Rules.latest (shownStatus arn) "not yet visible" earlier))

/-- A task that has stopped or is not reported is decisive. -/
def stoppedRules (arn : TaskArn) (limit : Duration) :
    Rules (List Task) (Except WaitError (Option Task)) where
  interval := taskPollInterval
  limit
  decides _ tasks :=
    match reported arn tasks with
    | none => some (.ok none)
    | some task => if task.lastStatus = .stopped then some (.ok (some task)) else none
  failure e := .error (.client e)
  timeout earlier :=
    .error (.timeout s!"task {arn.text} to stop" limit
      (Rules.latest (shownStatus arn) "" earlier))

/-- The counts of a service, as a text. -/
def countsText (service : Service) : String :=
  s!"{service.runningCount}/{service.desiredCount} running, {service.deployments.length} deployment(s)"

/-- A service that is gone or inactive is decisive, and so is an active one with a single
deployment and as many tasks as are desired. -/
def stableRules (name : ServiceName) (limit : Duration) :
    Rules (Option Service) (Except WaitError Service) where
  interval := servicePollInterval
  limit
  decides _ reply :=
    match reply with
    | none => some (.error (.serviceNotFound name))
    | some service =>
        if service.status = .inactive then some (.error (.serviceInactive name))
        else if service.status = .active ∧ service.deployments.length = 1 ∧
            service.runningCount = service.desiredCount then some (.ok service)
        else none
  failure e := .error (.client e)
  timeout earlier :=
    .error (.timeout s!"service {name.text} to become stable" limit
      (Rules.latest (Option.map countsText) "" earlier))

/-- The status of a service, as a text. -/
def statusText (service : Service) : String := service.status.word

/-- A service that is gone or inactive is decisive. -/
def inactiveRules (name : ServiceName) (limit : Duration) :
    Rules (Option Service) (Except WaitError Unit) where
  interval := servicePollInterval
  limit
  decides _ reply :=
    match reply with
    | none => some (.ok ())
    | some service => if service.status = .inactive then some (.ok ()) else none
  failure e := .error (.client e)
  timeout earlier :=
    .error (.timeout s!"service {name.text} to become inactive" limit
      (Rules.latest (Option.map statusText) "" earlier))

/-! ## The waits -/

variable (engine : Engine) (arn : TaskArn) (name : ServiceName) (limit : Duration)

theorem await_run (what : String) (watch : Watch controlPlane (Except WaitError β) String) :
    (engine.await what watch : Activity σ WaitError β).run =
      (watch.run engine.patience).bind fun watched =>
        .done (conclusion what watch.limit watched) := by
  refine congrArg (Process.bind _) (funext fun watched => ?_)
  cases watched with
  | settled result => rfl
  | overdue last => rfl
  | cancelled => rfl
  | failed e => rfl

theorem judgeRunning_means (earlier : List (List Task)) (tasks : List Task) :
    Rules.Means id (Rules.latest (shownStatus arn) "not yet visible" (earlier ++ [tasks]))
      (judgeRunning arn (Rules.latest (shownStatus arn) "not yet visible" earlier) tasks)
      ((runningRules arn limit).decides earlier tasks) := by
  cases hreported : reported arn tasks with
  | none =>
      rw [Rules.latest_append_none (shownStatus arn) _ _ (by simp [shownStatus, hreported])]
      simp [judgeRunning, runningRules, Rules.Means, hreported]
  | some task =>
      have hshown : shownStatus arn tasks = some task.lastStatus.name := by
        simp [shownStatus, hreported]
      rw [Rules.latest_append_some _ _ _ hshown]
      cases hstatus : task.lastStatus <;>
        simp [judgeRunning, runningRules, Rules.Means, hreported, hstatus]

/-- The watch for the task to run. -/
def runningWatch : Watch controlPlane (Except WaitError Task) String where
  request := engine.taskRead arn
  interval := taskPollInterval
  limit
  unseen := "not yet visible"
  judge := judgeRunning arn

theorem running_describe :
    (runningRules arn limit).Describe (engine.runningWatch arn limit)
      (Rules.latest (shownStatus arn) "not yet visible")
      (conclusion s!"task {arn.text} to be running" limit) :=
  ⟨rfl, rfl, rfl, judgeRunning_means arn limit, fun _ => rfl, fun _ => rfl⟩

theorem taskRunning_run :
    (engine.taskRunning arn limit : Activity σ WaitError Task).run =
      ((engine.runningWatch arn limit).run engine.patience).bind fun watched =>
        .done (conclusion s!"task {arn.text} to be running" limit watched) :=
  engine.await_run _ _

theorem judgeStopped_means (earlier : List (List Task)) (tasks : List Task) :
    Rules.Means id (Rules.latest (shownStatus arn) "" (earlier ++ [tasks])) (judgeStopped arn tasks)
      ((stoppedRules arn limit).decides earlier tasks) := by
  cases hreported : reported arn tasks with
  | none => simp [judgeStopped, stoppedRules, Rules.Means, hreported]
  | some task =>
      have hshown : shownStatus arn tasks = some task.lastStatus.name := by
        simp [shownStatus, hreported]
      rw [Rules.latest_append_some _ _ _ hshown]
      by_cases hstopped : task.lastStatus = .stopped
      · simp [judgeStopped, stoppedRules, Rules.Means, hreported, hstopped]
      · simp [judgeStopped, stoppedRules, Rules.Means, hreported, hstopped]

/-- The watch for the task to stop. -/
def stoppedWatch : Watch controlPlane (Except WaitError (Option Task)) String where
  request := engine.taskRead arn
  interval := taskPollInterval
  limit
  unseen := ""
  judge := fun _ => judgeStopped arn

theorem stopped_describe :
    (stoppedRules arn limit).Describe (engine.stoppedWatch arn limit)
      (Rules.latest (shownStatus arn) "") (conclusion s!"task {arn.text} to stop" limit) :=
  ⟨rfl, rfl, rfl, judgeStopped_means arn limit, fun _ => rfl, fun _ => rfl⟩

theorem taskStopped_run :
    (engine.taskStopped arn limit : Activity σ WaitError (Option Task)).run =
      ((engine.stoppedWatch arn limit).run engine.patience).bind fun watched =>
        .done (conclusion s!"task {arn.text} to stop" limit watched) :=
  engine.await_run _ _

theorem judgeStable_means (earlier : List (Option Service)) (reply : Option Service) :
    Rules.Means id (Rules.latest (Option.map countsText) "" (earlier ++ [reply]))
      (judgeStable name reply) ((stableRules name limit).decides earlier reply) := by
  cases reply with
  | none => simp [judgeStable, stableRules, Rules.Means]
  | some service =>
      rw [Rules.latest_append_some (Option.map countsText) _ _ rfl]
      by_cases hinactive : service.status = .inactive
      · simp [judgeStable, stableRules, Rules.Means, Service.isInactive, hinactive]
      · by_cases hstable : service.isStable = true
        · have hcounts := service.isStable_iff.mp hstable
          simp [judgeStable, stableRules, Rules.Means, Service.isInactive, hstable, hcounts]
        · have hcounts := service.isStable_iff.not.mp hstable
          simp only [judgeStable, stableRules, Rules.Means, if_neg hcounts, if_neg hinactive]
          simp [Service.isInactive, hinactive, hstable, countsText]

/-- The request that reads one service. -/
def serviceRead : ControlPlane.Request := .describeService engine.cluster name

/-- The watch for the service to become stable. -/
def stableWatch : Watch controlPlane (Except WaitError Service) String where
  request := engine.serviceRead name
  interval := servicePollInterval
  limit
  unseen := ""
  judge := fun _ => judgeStable name

theorem stable_describe :
    (stableRules name limit).Describe (engine.stableWatch name limit)
      (Rules.latest (Option.map countsText) "")
      (conclusion s!"service {name.text} to become stable" limit) :=
  ⟨rfl, rfl, rfl, judgeStable_means name limit, fun _ => rfl, fun _ => rfl⟩

theorem serviceStable_run :
    (engine.serviceStable name limit : Activity σ WaitError Service).run =
      ((engine.stableWatch name limit).run engine.patience).bind fun watched =>
        .done (conclusion s!"service {name.text} to become stable" limit watched) :=
  engine.await_run _ _

theorem judgeInactive_means (earlier : List (Option Service)) (reply : Option Service) :
    Rules.Means id (Rules.latest (Option.map statusText) "" (earlier ++ [reply]))
      (judgeInactive reply) ((inactiveRules name limit).decides earlier reply) := by
  cases reply with
  | none => simp [judgeInactive, inactiveRules, Rules.Means]
  | some service =>
      rw [Rules.latest_append_some (Option.map statusText) _ _ rfl]
      by_cases hinactive : service.status = .inactive
      · simp [judgeInactive, inactiveRules, Rules.Means, Service.isInactive, hinactive]
      · simp [judgeInactive, inactiveRules, Rules.Means, Service.isInactive, hinactive, statusText]

/-- The watch for the service to become inactive. -/
def inactiveWatch : Watch controlPlane (Except WaitError Unit) String where
  request := engine.serviceRead name
  interval := servicePollInterval
  limit
  unseen := ""
  judge := fun _ => judgeInactive

theorem inactive_describe :
    (inactiveRules name limit).Describe (engine.inactiveWatch name limit)
      (Rules.latest (Option.map statusText) "")
      (conclusion s!"service {name.text} to become inactive" limit) :=
  ⟨rfl, rfl, rfl, judgeInactive_means name limit, fun _ => rfl, fun _ => rfl⟩

theorem serviceInactive_run :
    (engine.serviceInactive name limit : Activity σ WaitError Unit).run =
      ((engine.inactiveWatch name limit).run engine.patience).bind fun watched =>
        .done (conclusion s!"service {name.text} to become inactive" limit watched) :=
  engine.await_run _ _

end Engine

end GatedRollout
