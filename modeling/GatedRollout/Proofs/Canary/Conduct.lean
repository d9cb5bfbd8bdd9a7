import GatedRollout.Proofs.Canary.Ledger
import GatedRollout.Proofs.Wait.Await

/-!
# How canaries conduct themselves

Each request has one role in a rollout, and each operation of a canary asks for its own: a start
launches, a wait reads and registers, a stop releases and reads. Of the state of the canary, a start
writes the task, a wait the registration, a stop takes the registration back and warns, and all of
them write the phase. Nothing but the stop panics, where it has read a deregistration delay that is
too long for the margin to be added to it. A conduct that admits these steps admits the operation,
whichever way the canary is verified and however the operation ends. In particular a canary warns of
nothing until it is stopped.
-/

namespace GatedRollout

namespace ControlPlane

/-- What a request is made for. -/
inductive Role
  | reads
  | launches
  | registers
  /-- It lets go of what a canary holds, or is the look-up of how long that may take. -/
  | releases
  /-- It changes a service. -/
  | changes
  deriving DecidableEq

def Request.role : Request → Role
  | .createService .. | .updateService .. | .deleteService .. => .changes
  | .runTask .. | .startTask .. => .launches
  | .registerTarget .. | .registerInstance .. | .updateInstanceHealth .. => .registers
  | .deregistrationDelay .. | .deregisterTarget .. => .releases
  | .deregisterInstance .. | .stopTask .. => .releases
  | _ => .reads

end ControlPlane

namespace Canary

open Process

variable (engine : Engine) (spec : LaunchSpec) {c : Conduct controlPlane State}

theorem conforms_taskArn : taskArn.run.Conforms c := by
  refine .attempt .attempt_state fun s => ?_
  cases s.handle.taskArn <;> exact .known _

/-! ## Starting -/

/-- What a start asks for. -/
def Launches (r : ControlPlane.Request) : Prop := r.role = .launches

theorem conforms_launchOn (launches : ∀ r, Launches r → c.asks r)
    (overrides : List ContainerOverride) (placement : Placement) :
    (launchOn engine spec overrides placement).run.Conforms c := by
  cases placement <;> exact .attempt_ask (launches _ (by rfl)) _

section Phases

variable (phases : ∀ s phase, c.finds s → c.writes (s.setPhase phase))
include phases

theorem conforms_setPhase (phase : Phase) : (setPhase phase).run.Conforms c :=
  .attempt_modify fun s => phases s phase

theorem conforms_settle {α : Type} {move : Move α} (h : move.run.Conforms c) (phase : Phase) :
    (settle move phase).run.Conforms c :=
  .bind h fun result => .bind (.modify fun s => phases s _) fun _ => .pure result

theorem conforms_launch {overrides : List ContainerOverride}
    (launched : ∀ placement, (launchOn engine spec overrides placement).run.Conforms c)
    (tasks : ∀ s arn, c.finds s → c.writes (s.setTaskArn arn)) :
    (launch engine spec overrides).run.Conforms c := by
  refine .attempt .attempt_state fun s => ?_
  dsimp only
  split
  · exact .known (.ok _)
  · refine .attempt (conforms_setPhase phases .starting) fun _ => ?_
    refine .attempt (launched _) fun task => ?_
    exact .attempt (.attempt_modify fun s => tasks s task.arn) fun _ => .known (.ok _)

theorem conforms_start
    (launched : ∀ placement, (launchOn engine spec [] placement).run.Conforms c)
    (tasks : ∀ s arn, c.finds s → c.writes (s.setTaskArn arn)) :
    (start engine spec).run.Conforms c := by
  refine conforms_settle phases (.attempt .attempt_cancelled fun cancelled => ?_) .starting
  cases cancelled with
  | true => exact .known (.error _)
  | false =>
      exact .attempt (conforms_launch engine spec phases launched tasks) fun _ => .known (.ok _)

end Phases

/-! ## Waiting -/

/-- What a wait asks for. -/
def Waits (r : ControlPlane.Request) : Prop := r.role = .reads ∨ r.role = .registers

theorem ne_launches_of_waits (r : ControlPlane.Request) (h : Waits r) : r.role ≠ .launches := by
  rcases h with h | h <;> simp [h]

section Waits

variable (waits : ∀ r, Waits r → c.asks r)
include waits

theorem conforms_ensureRunning : (ensureRunning engine).run.Conforms c := by
  refine .attempt conforms_taskArn fun arn => ?_
  refine .attempt (.attempt (.attempt_ask (waits _ (.inl rfl)) _) fun _ => .known (.ok _)) ?_
  exact fun seen => .known _

theorem conforms_waitContainerHealth : (waitContainerHealth engine spec).run.Conforms c := by
  refine .attempt conforms_taskArn fun arn => ?_
  dsimp only
  split
  · exact .known (.ok _)
  · refine .attempt (.run_attempt (.watch (waits _ (.inl rfl)) _)) fun watched => ?_
    cases watched <;> exact .known _

theorem conforms_networkIdentity (task : Task) : (networkIdentity engine task).run.Conforms c := by
  refine .attempt .attempt_state fun s => ?_
  cases s.handle.placement with
  | onDemand =>
      refine .attempt (.known _) fun address => ?_
      exact .attempt (.attempt_ask (waits _ (.inl rfl)) _) fun subnet => .known (.ok _)
  | pinned host =>
      refine .attempt (.attempt_ask (waits _ (.inl rfl)) _) fun container => ?_
      refine .attempt (.attempt_ask (waits _ (.inl rfl)) _) fun machine => ?_
      exact .attempt (.attempt_ask (waits _ (.inl rfl)) _) fun subnet => .known (.ok _)

theorem conforms_waitTargetHealthy (target : Target) :
    (waitTargetHealthy engine target).run.Conforms c := by
  refine .attempt (.run_attempt (.watch (waits _ (.inl rfl)) _)) fun watched => ?_
  cases watched <;> exact .known _

theorem conforms_waitDiscoverable (domain service instanceId : String) :
    (waitDiscoverable engine domain service instanceId).run.Conforms c := by
  refine .attempt (.run_attempt (.watch (waits _ (.inl rfl)) _)) fun watched => ?_
  cases watched <;> exact .known _

variable (phases : ∀ s phase, c.finds s → c.writes (s.setPhase phase))
include phases

theorem conforms_waitRunning : (waitRunning engine).run.Conforms c := by
  refine .attempt conforms_taskArn fun arn => ?_
  refine .attempt (.attempt_rest _ _) fun _ => ?_
  refine .attempt (.within (engine.conforms_await _ (waits _ (.inl rfl))) _) fun task => ?_
  exact .attempt (conforms_setPhase phases .running) fun _ => .known (.ok _)

theorem conforms_verifyIdle : (verifyIdle engine spec).run.Conforms c := by
  refine .attempt (conforms_waitRunning engine waits phases) fun _ => ?_
  refine .attempt (conforms_waitContainerHealth engine spec waits) fun _ => ?_
  refine .attempt (conforms_setPhase phases .verifying) fun _ => ?_
  refine .attempt conforms_taskArn fun _ => ?_
  refine .attempt (.run_attempt (.idle _ _ _)) fun rest => ?_
  cases rest with
  | cancelled => exact .known (.error _)
  | elapsed => exact .attempt (conforms_ensureRunning engine waits) fun _ => .known (.ok _)

theorem conforms_verifyTarget (balancer : LoadBalancer)
    (targets : ∀ s target, c.finds s → c.writes (s.setRegistration (some (.target target)))) :
    (verifyTarget engine spec balancer).run.Conforms c := by
  refine .attempt (conforms_waitRunning engine waits phases) fun task => ?_
  refine .attempt (conforms_waitContainerHealth engine spec waits) fun _ => ?_
  refine .attempt (conforms_setPhase phases .verifying) fun _ => ?_
  refine .attempt (.known _) fun port => ?_
  refine .attempt (conforms_networkIdentity engine waits task) fun identity => ?_
  refine .attempt (.attempt_ask (waits _ (.inr rfl)) _) fun _ => ?_
  refine .attempt (.attempt_modify fun s => targets s _) fun _ => ?_
  exact conforms_waitTargetHealthy engine waits _

theorem conforms_verifyInstance (registry : ServiceRegistry)
    (members : ∀ s member, c.finds s → c.writes (s.setRegistration (some (.discovery member)))) :
    (verifyInstance engine spec registry).run.Conforms c := by
  refine .attempt (conforms_waitRunning engine waits phases) fun task => ?_
  refine .attempt (conforms_waitContainerHealth engine spec waits) fun _ => ?_
  refine .attempt (conforms_setPhase phases .verifying) fun _ => ?_
  refine .attempt (.attempt_ask (waits _ (.inl rfl)) _) fun service => ?_
  refine .attempt (.attempt_ask (waits _ (.inl rfl)) _) fun domain => ?_
  refine .attempt (.known _) fun port => ?_
  refine .attempt (conforms_networkIdentity engine waits task) fun identity => ?_
  refine .attempt (.attempt_ask (waits _ (.inr rfl)) _) fun _ => ?_
  refine .attempt (.attempt_modify fun s => members s _) fun _ => ?_
  refine .attempt (.attempt_ask (waits _ (.inr rfl)) _) fun _ => ?_
  exact conforms_waitDiscoverable engine waits _ _ _

/-- A wait registers the canary as its strategy admits. -/
theorem conforms_wait (strategy : Strategy)
    (registers : ∀ s r, strategy.admits r = true → c.finds s →
      c.writes (s.setRegistration (some r))) :
    (task engine spec strategy).wait.run.Conforms c := by
  refine conforms_settle phases ?_ .verified
  cases strategy with
  | standalone => exact conforms_verifyIdle engine spec waits phases
  | loadBalanced balancer =>
      exact conforms_verifyTarget engine spec waits phases balancer fun s target =>
        registers s _ rfl
  | registry registry =>
      exact conforms_verifyInstance engine spec waits phases registry fun s member =>
        registers s _ rfl

end Waits

/-! ## Stopping -/

/-- What a stop asks for. -/
def Stops (r : ControlPlane.Request) : Prop := r.role = .releases ∨ r.role = .reads

/-- The delay and the margin have no sum. -/
def Overlong (delay : Duration) : Prop := delay.checkedAdd deregistrationMargin = none

theorem overlong_iff (delay : Duration) : Overlong delay ↔
    UInt64.size * nanosPerSecond ≤ delay.nanos + deregistrationMargin.nanos := by
  unfold Overlong Duration.checkedAdd Duration.ofNanos?
  split <;> simp_all

theorem not_overlong_default : ¬Overlong defaultDeregistrationDelay := by
  rw [overlong_iff]
  decide

/-- Where a delay without a sum may be read, so may the message of the sum be. -/
def Admits (replies : (r : ControlPlane.Request) → Except ClientError (controlPlane.Reply r) → Prop)
    (allowed : String → Prop) : Prop :=
  ∀ group delay, replies (.deregistrationDelay group) (.ok (some delay)) → Overlong delay →
    allowed "overflow when adding durations"

section Stops

variable (stops : ∀ r, Stops r → c.asks r)
include stops

/-- What follows is told whether the delay may have a sum with the margin. -/
theorem conforms_groupDelay_bind {β : Type} (admits : Admits c.hears c.panics)
    (group : TargetGroupArn) {f : Duration → Process controlPlane State β}
    (next : ∀ delay, (Overlong delay → c.panics "overflow when adding durations") →
      (f delay).Conforms c) : (groupDelay group >>= f).Conforms c := by
  refine ⟨stops _ (.inl rfl), fun answer hheard => ?_⟩
  have hdefault := next defaultDeregistrationDelay fun h => absurd h not_overlong_default
  cases answer with
  | error e => exact hdefault
  | ok delay =>
      cases delay with
      | none => exact hdefault
      | some delay => exact next delay (admits group delay hheard)

theorem conforms_waitTargetGone (target : Target) (limit : Duration) :
    (waitTargetGone engine target limit).run.Conforms c := by
  refine .attempt (.run_attempt (.watch (stops _ (.inr rfl)) _)) fun watched => ?_
  cases watched <;> exact .known _

theorem conforms_stopTask (phases : ∀ s phase, c.finds s → c.writes (s.setPhase phase)) :
    (stopTask engine).run.Conforms c := by
  refine .attempt .attempt_state fun s => ?_
  dsimp only
  split
  · exact .known (.ok _)
  · split
    · exact conforms_setPhase phases .stopped
    · refine .attempt (conforms_setPhase phases .stopping) fun _ => ?_
      refine .attempt (.attempt_ask (stops _ (.inl rfl)) _) fun _ => ?_
      refine .attempt (.within (engine.conforms_await _ (stops _ (.inr rfl))) _) fun _ => ?_
      exact conforms_setPhase phases .stopped

section Leaves

variable (warns : ∀ s warning, c.finds s → c.writes (s.warn warning))
include warns

theorem conforms_leaveGroup (admits : Admits c.hears c.panics) (target : Target) :
    (leaveGroup engine target).Conforms c := by
  refine conforms_groupDelay_bind stops admits target.group fun delay hdelay => ?_
  refine .bind (.ask (stops _ (.inl rfl))) fun answer => ?_
  cases answer with
  | error e => exact .modify fun s => warns s _
  | ok accepted =>
      unfold Overlong at hdelay
      -- The sum is left as it is: to compare it with itself, the kernel would count it up.
      generalize delay.checkedAdd deregistrationMargin = sum at hdelay
      cases sum with
      | none => exact hdelay rfl
      | some limit =>
          refine .bind (conforms_waitTargetGone engine stops target limit) fun result => ?_
          cases result with
          | ok u => exact .pure _
          | error e => exact .modify fun s => warns s _

theorem conforms_leaveRegistry (member : RegisteredInstance) :
    (leaveRegistry member).Conforms c := by
  refine .bind (.ask (stops _ (.inl rfl))) fun answer => ?_
  cases answer with
  | ok accepted => exact .pure _
  | error e => exact .modify fun s => warns s _

theorem conforms_deregister (vacates : ∀ s, c.finds s → c.writes (s.setRegistration none))
    (admits : Admits c.hears c.panics) (strategy : Strategy) :
    (deregister engine strategy).Conforms c := by
  cases strategy with
  | standalone => exact .pure _
  | loadBalanced balancer =>
      refine .bind .state fun s => ?_
      split
      · exact .bind (.modify vacates) fun _ => conforms_leaveGroup engine stops warns admits _
      · exact .pure _
  | registry registry =>
      refine .bind .state fun s => ?_
      split
      · exact .bind (.modify vacates) fun _ => conforms_leaveRegistry stops warns _
      · exact .pure _

theorem conforms_stop (vacates : ∀ s, c.finds s → c.writes (s.setRegistration none))
    (phases : ∀ s phase, c.finds s → c.writes (s.setPhase phase))
    (admits : Admits c.hears c.panics) (strategy : Strategy) :
    (task engine spec strategy).stop.run.Conforms c :=
  .attempt (.run_attempt (conforms_deregister engine stops warns vacates admits strategy))
    fun _ => conforms_stopTask engine stops phases

end Leaves

end Stops

/-! ## Silent until the stop -/

theorem spares_start : (start engine spec).run.Spares State.warnings := by
  refine .of_maintains fun warnings => conforms_start engine spec (fun _ _ h => h) ?_ fun _ _ h => h
  exact conforms_launchOn engine spec (fun _ _ => trivial) []

theorem spares_wait (strategy : Strategy) :
    (task engine spec strategy).wait.run.Spares State.warnings :=
  .of_maintains fun _ => conforms_wait engine spec (fun _ _ => trivial) (fun _ _ h => h) strategy
    fun _ _ _ h => h

end Canary

end GatedRollout
