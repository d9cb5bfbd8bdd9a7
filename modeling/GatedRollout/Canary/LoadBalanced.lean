import GatedRollout.Canary.Launch

/-!
# Verification behind a load balancer

The running task is registered as a target of the load balancer's group, and has to become
healthy there. Before the task is stopped, the target is deregistered and watched until it has
left the group; what goes wrong with that is recorded and stops nothing.

A fresh target may read `unused` for a moment, so such reads are tolerated up to a number. The count
of them starts again at a read of `initial`. It has 32 bits and goes around, so it is the number of
such reads only as long as there are fewer than `2 ^ 32` of them.
-/

namespace GatedRollout.Canary

/-! ## Successive reads -/

/-- The number of `unused` reads at which a target has failed. -/
def maxUnusedReads : Nat := 5

inductive HealthVerdict
  | healthy
  | pending
  | failed (state : TargetHealthState) (reason : Option String)
  /-- The target group has no record of the target. -/
  | notRegistered
  deriving DecidableEq, Repr

structure HealthTracker where
  count : UInt32 := 0
  /-- The state of the latest read, if the target had a record. -/
  last : Option TargetHealthState := none
  deriving DecidableEq, Repr

namespace HealthTracker

def unusedReads (t : HealthTracker) : Nat := t.count.toNat

def counted (t : HealthTracker) : HealthTracker := { count := t.count + 1, last := some .unused }

def observe (t : HealthTracker) (read : Option TargetHealth) : HealthTracker × HealthVerdict :=
  match read with
  | none => ({ t with last := none }, .notRegistered)
  | some health =>
      match health.state with
      | .healthy => ({ t with last := some .healthy }, .healthy)
      | .initial => ({ count := 0, last := some .initial }, .pending)
      | .unused =>
          (t.counted, if maxUnusedReads ≤ t.counted.unusedReads then
            .failed .unused health.reason else .pending)
      | state => ({ t with last := some state }, .failed state health.reason)

theorem ext_unusedReads {t t' : HealthTracker} (hreads : t.unusedReads = t'.unusedReads)
    (hlast : t.last = t'.last) : t = t' := by
  cases t
  cases t'
  simp only [mk.injEq]
  exact ⟨UInt32.toNat_inj.mp hreads, hlast⟩

theorem unusedReads_counted (t : HealthTracker) :
    t.counted.unusedReads = (t.unusedReads + 1) % UInt32.size := rfl

def observeAll (t : HealthTracker) (reads : List (Option TargetHealth)) : HealthTracker :=
  reads.foldl (fun t read => (t.observe read).1) t

def lastText (t : HealthTracker) : String := (t.last.map (·.name)).getD "none"

end HealthTracker

/-! ## Delays -/

/-- The delay of a target group that names none. -/
def defaultDeregistrationDelay : Duration := .ofSeconds 300

def deregistrationMargin : Duration := .ofSeconds 60

variable (engine : Engine) (spec : LaunchSpec)

def recordTarget (target : Target) : Move Unit :=
  Attempt.modify (·.setRegistration (some (.target target)))

/-! ## Becoming healthy -/

/-- A healthy read settles the matter, and so does a failing one. -/
def judgeTarget (target : Target) (tracker : HealthTracker) (read : Option TargetHealth) :
    Judgement (Except TaskError Unit) HealthTracker :=
  match tracker.observe read with
  | (_, .healthy) => .settled (.ok ())
  | (_, .failed state reason) =>
      .settled (.error (.targetUnhealthy target.group.text target.id target.port state reason))
  | (_, .notRegistered) =>
      .settled (.error (.targetNotRegistered target.group.text target.id target.port))
  | (tracker, .pending) => .pending tracker

def targetHealthWatch (target : Target) :
    Watch controlPlane (Except TaskError Unit) HealthTracker where
  request := .describeTargetHealth target.group target.description
  interval := healthPollInterval
  limit := engine.limit .targetHealthCheck
  unseen := {}
  judge := judgeTarget target

def waitTargetHealthy (target : Target) : Move Unit := do
  let watch := targetHealthWatch engine target
  match ← ExceptT.lift (watch.run engine.patience) with
  | .settled result => result
  | .overdue tracker =>
      throw (.targetHealthTimeout target.group.text target.id target.port tracker.lastText
        watch.limit)
  | .cancelled => throw (.wait .cancelled)
  | .failed e => throw (.client e)

def verifyTarget (balancer : LoadBalancer) : Move Unit := do
  let task ← waitRunning engine
  waitContainerHealth engine spec
  setPhase .verifying
  let port ← publishedPort spec.taskDefinition task balancer.containerName balancer.containerPort
  let identity ← networkIdentity engine task
  let target : Target :=
    ⟨balancer.targetGroupArn, identity.privateIp, port, identity.availabilityZone⟩
  Attempt.ask (ι := controlPlane) (.registerTarget target.group target.description)
    TaskError.client
  recordTarget target
  waitTargetHealthy engine target

/-! ## Leaving -/

/-- A target is gone once its group has no record of it or does not use it. -/
def judgeGone (read : Option TargetHealth) : Judgement Unit String :=
  match read with
  | none => .settled ()
  | some health => if health.state = .unused then .settled () else .pending health.state.name

def targetGoneWatch (target : Target) (limit : Duration) : Watch controlPlane Unit String where
  request := .describeTargetHealth target.group target.description
  interval := healthPollInterval
  limit := limit
  unseen := ""
  judge := fun _ => judgeGone

def waitTargetGone (target : Target) (limit : Duration) : Move Unit := do
  match ← ExceptT.lift ((targetGoneWatch target limit).run engine.patience) with
  | .settled _ => return
  | .overdue last => throw (.wait (.timeout s!"target {target.text} to deregister" limit last))
  | .cancelled => throw (.wait .cancelled)
  | .failed e => throw (.client e)

def warnTarget (message : String) : Process controlPlane State Unit :=
  Process.modify (·.warn ⟨.targetDeregistration, message⟩)

/-- The delay of a target group. One that cannot be read is taken to be the default. -/
def groupDelay (group : TargetGroupArn) : Process controlPlane State Duration := do
  match ← Process.ask (ι := controlPlane) (.deregistrationDelay group) with
  | .ok delay => return delay.getD defaultDeregistrationDelay
  | .error _ => return defaultDeregistrationDelay

def leaveGroup (target : Target) : Process controlPlane State Unit := do
  let delay ← groupDelay target.group
  match ← Process.ask (ι := controlPlane) (.deregisterTarget target.group target.description) with
  | .error e => warnTarget s!"failed to deregister canary target {target.text}: {e.message}"
  | .ok _ =>
      match delay.checkedAdd deregistrationMargin with
      | none => .panic "overflow when adding durations"
      | some limit => do
          match ← (waitTargetGone engine target limit).run with
          | .ok _ => return
          | .error e =>
              warnTarget s!"canary target {target.text} not confirmed deregistered: {e.message}"

def deregisterTarget : Process controlPlane State Unit := do
  match (← Process.state).registration with
  | some (.target target) => do
      Process.modify (·.setRegistration none)
      leaveGroup engine target
  | _ => return

end GatedRollout.Canary
