import GatedRollout.Proofs.Rollout.Diagnostics
import GatedRollout.Proofs.Rollout.Isolation

/-!
# The time of a cleanup

On the clock that its waits are measured on, a cleanup takes as long as they do: for each canary the
limit on the stop of its task, and each deregistration delay that was read, with its margin. The
budget of the cleanup is measured in real time, and a cleanup that it does not cut off is what it
would be without one.
-/

namespace GatedRollout.Rollout

open Canary

variable {S : Type}

/-- How long the stops of the canaries may wait, all of them together, where this is what happened
in their cleanup. -/
def stopTime (rollout : Rollout) (attachments : Attachments) (trace : List (Entry controlPlane)) :
    Nat :=
  (Canary.strategies attachments).length * (rollout.engine.limit .taskStopped).nanos +
    (trace.map fun e => e.event.granted drainTime).sum

/-- A cleanup that was cut off is in the diagnostics of its rollout. -/
theorem finish_overdue (rollout : Rollout) {env : Environment controlPlane S} {body : Body S}
    (h : (rollout.cleanUp env body).ending = .hung) :
    overdueCleanup rollout.engine.config.canary.cleanupTimeout ∈
      (rollout.finish env body).state.diagnostics.warnings := by
  unfold finish
  dsimp only
  rw [h]
  simp [Diagnostics.absorb, cleanupWarnings, overdueCleanup]

/-- Where answers take no time, the clock moves in a cleanup by no more than the time of its stops,
so by no more than the budget wherever this time fits into it. A cleanup that was cut off is in the
diagnostics. But one that was not is the cleanup without any budget, however far it has moved the
clock. -/
theorem cleanUp_within_stopTime (rollout : Rollout) (scope : RolloutScope)
    (env : Environment controlPlane S) (progress : Progress) (w : World controlPlane S)
    {attachments : Attachments} {body : Body S}
    (reached : rollout.Reaches scope env progress w attachments body)
    (hbody : body.ending ≠ .hung) (hpunctual : env.Punctual)
    (hpanic : ∀ message, (rollout.cleanUp env body).ending ≠ .panicked message) :
    let out := rollout.rollOut env scope progress w
    let given := rollout.engine.config.canary.cleanupTimeout
    out.world.clock.nanos ≤
        body.world.clock.nanos + rollout.stopTime attachments (out.world.since body.world) ∧
      ((rollout.cleanUp env body).ending = .hung →
        overdueCleanup given ∈ out.state.diagnostics.warnings) ∧
      ((rollout.cleanUp env body).ending ≠ .hung →
        rollout.cleanUp env body = body.canaries.cleanup env .shielded body.world) := by
  rw [reached.rollOut_eq hbody]
  dsimp only
  rw [world_finish]
  refine ⟨?_, rollout.finish_overdue, CanarySet.cleanupWithin_eq_cleanup env .shielded⟩
  have hclock := reached.ran.accounts.clock_cleanup_le env .shielded reached.staffs
    rollout.engine.config.canary.cleanupTimeout hpunctual hpanic
  rw [stopTime, Int.natCast_add, ← Int.add_assoc]
  exact hclock

/-! ## Targets that stay -/

namespace Bench

/-- A control plane whose targets have no delay to leave in, and stay there when they have been
deregistered. -/
def lingering (env : Environment controlPlane Bench) : Environment controlPlane Bench where
  react bench now
    | .deregistrationDelay _ => (⟨.zero, false, 0, .answer (.ok (some .zero))⟩, bench)
    | .deregisterTarget group target =>
        let (reaction, bench) := env.react bench now (.deregisterTarget group target)
        (reaction, { bench with health := some { state := .draining } })
    | r => env.react bench now r
  wake := env.wake
  expires := env.expires

theorem environment_punctual : environment.Punctual := fun _ _ _ => rfl

theorem twin_punctual (effect : Effect Unit) : (twin effect).Punctual := by
  intro bench now r
  cases r with
  | deregisterTarget group target =>
      unfold twin
      dsimp only
      split
      · rfl
      · exact environment_punctual bench now _
  | runTask launch => rfl
  | describeTasks cluster tasks => rfl
  | _ => exact environment_punctual bench now _

theorem lingering_punctual {env : Environment controlPlane Bench} (h : env.Punctual) :
    (lingering env).Punctual := by
  intro bench now r
  cases r with
  | deregistrationDelay group => rfl
  | deregisterTarget group target => exact h bench now (.deregisterTarget group target)
  | _ => exact h bench now _

end Bench

/-- The deregistration of the first canary's target never returns, and the second canary's target
stays until its limit of a minute. The diagnostics say that the cleanup was cut off. -/
theorem cleanUp_within_stopTime_twin :
    let env := Bench.lingering (Bench.twin .hang)
    let body := Bench.pairedBody env
    let out := sample.rollOut env .taskDefinition {} Bench.pairedWorld
    env.Punctual ∧ (sample.cleanUp env body).ending = .hung ∧
      sample.stopTime Bench.paired.service.attachments (out.world.since body.world) =
        2 * 1000000000 + 2 * 60000000000 ∧
      out.world.clock.nanos = body.world.clock.nanos + 60000000000 ∧
      out.world.clock.nanos ≤ body.world.clock.nanos +
        sample.stopTime Bench.paired.service.attachments (out.world.since body.world) ∧
      overdueCleanup (.ofSeconds 600) ∈ out.state.diagnostics.warnings := by
  intro env body out
  have hpunctual : env.Punctual := Bench.lingering_punctual (Bench.twin_punctual .hang)
  have hbody : body.ending = .returned (.ok ()) := by decide +kernel
  have hcleanup : (sample.cleanUp env body).ending = .hung := by decide +kernel
  have hreached : sample.Reaches .taskDefinition env {} Bench.pairedWorld
      Bench.paired.service.attachments body := ⟨rfl, rfl⟩
  obtain ⟨hclock, hoverdue, -⟩ := cleanUp_within_stopTime sample .taskDefinition env {}
    Bench.pairedWorld hreached (hbody ▸ nofun) hpunctual (hcleanup ▸ nofun)
  -- Rewritten by hand: to compare the two by reduction is to run the rollout.
  have hout : out = sample.rollOut env .taskDefinition {} Bench.pairedWorld := rfl
  refine ⟨hpunctual, hcleanup, by decide +kernel, by decide +kernel, ?_⟩
  rw [hout]
  exact ⟨hclock, hoverdue hcleanup⟩

/-! ## A budget that is too short -/

/-- The sample with one second for its cleanup. -/
def hasty : Rollout :=
  { sample with engine := { sample.engine with config := { sample.engine.config with
      canary := { cleanupTimeout := .ofSeconds 1 } } } }

/-- With a second for its cleanup, a rollout waits a minute for its target, and says nothing of
that. -/
theorem cleanUp_outlasts_budget :
    let env := Bench.lingering Bench.environment
    let body := hasty.verifyAndUpdate env .taskDefinition {}
      (Canary.set hasty.engine hasty.taskDefinition Bench.sample.service.attachments)
      (hasty.resolve env .taskDefinition {} Bench.world).world
    let out := hasty.rollOut env .taskDefinition {} Bench.world
    env.Punctual ∧
      hasty.Reaches .taskDefinition env {} Bench.world Bench.sample.service.attachments body ∧
      hasty.engine.config.canary.cleanupTimeout.nanos = 1000000000 ∧
      out.ending = .returned (.ok ()) ∧
      out.world.clock.nanos = body.world.clock.nanos + 60000000000 ∧
      out.state.diagnostics.warnings.map (·.kind) = [.targetDeregistration] :=
  ⟨Bench.lingering_punctual Bench.environment_punctual, ⟨rfl, rfl⟩, by decide +kernel,
    by decide +kernel, by decide +kernel, by decide +kernel⟩

end GatedRollout.Rollout
