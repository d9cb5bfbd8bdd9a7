import GatedRollout.Proofs.Rollout.Cleanup

/-!
# What a rollout has seen when it succeeds

A rollout succeeds on one description of its service, the last one after the update. That has the
service active, with a single deployment that runs as many tasks as the service desires, and nothing
else is asked of it: a description from before the update will do as well. It shows the new task
definition where no description after the update shows another.
-/

namespace GatedRollout.Rollout

open Canary

variable {S : Type} {rollout : Rollout} {scope : RolloutScope} {env : Environment controlPlane S}
  {progress : Progress} {w : World controlPlane S} {attachments : Attachments} {body : Body S}

/-! ## The wait for the update -/

/-- The request that describes the service of the rollout. -/
def describesService (rollout : Rollout) : ControlPlane.Request :=
  .describeService rollout.engine.cluster rollout.engine.service

/-- The update was accepted, and the service was then described until it was found active, with a
single deployment that runs as many tasks as the service desires. -/
structure Completes (rollout : Rollout) (scope : RolloutScope) (y : Deeds) (watched : Deeds)
    (service : Service) : Prop where
  deeds : y = .issued (.updateService (rollout.update scope)) ::
    .returned (.updateService (rollout.update scope)) (.ok ()) :: watched ++
      [.returned (.describeService rollout.engine.cluster rollout.engine.service)
        (.ok (some service))]
  /-- Until then it was described as neither gone, nor inactive, nor stable. -/
  waited : ∀ e ∈ watched, e.IsAbout rollout.describesService ∧ ∀ reply,
    e = .returned (.describeService rollout.engine.cluster rollout.engine.service) (.ok reply) →
      ∃ unsettled, reply = some unsettled ∧ unsettled.status ≠ .inactive ∧
        ¬(unsettled.status = .active ∧ unsettled.deployments.length = 1 ∧
          unsettled.runningCount = unsettled.desiredCount)
  active : service.status = .active
  single : service.deployments.length = 1
  running : service.runningCount = service.desiredCount

/-- An update that succeeds ends with the description that its wait was settled by. -/
theorem secures_completion (rollout : Rollout) (scope : RolloutScope) (progress : Progress) :
    Secures recorded (fun _ _ => True)
      (fun result _ y => result = .ok () → ∃ watched service,
        rollout.Completes scope y watched service)
      (rollout.updateService scope).run progress [] := by
  refine Secures.recorded_ask_then trivial (fun accepted => ?_) (fun e => nofun)
  refine Secures.modify_then (Secures.attempt (Q := fun result _ y => ∀ service,
    result = .ok service → ∃ watched, rollout.Completes scope y watched service) ?_ ?_ ?_)
  · refine Secures.attempt_within (Engine.secures_await_recorded _ _ _ (fun _ _ => trivial) ?_)
    intro es result hes found hok
    rcases hes with ⟨before, seen, reply, rfl, hbefore, hsettled⟩ | ⟨-, e, rfl⟩
    · obtain rfl : result = .ok found := by
        cases result with
        | ok service =>
            cases hok
            rfl
        | error e => cases hok
      obtain ⟨rfl, hstable⟩ := Engine.judgeStable_ok hsettled
      obtain ⟨hactive, hsingle, hrunning⟩ := found.isStable_iff.mp hstable
      refine ⟨before, ⟨rfl, fun e he => ⟨hbefore.about e he, ?_⟩, hactive, hsingle, hrunning⟩⟩
      rintro reply rfl
      obtain ⟨seen, seen', hpending⟩ := (hbefore _ he).2 reply rfl
      obtain ⟨service, rfl, hactive, hunstable⟩ := Engine.judgeStable_pending hpending
      exact ⟨service, rfl, hactive, fun hcounts => hunstable (service.isStable_iff.mpr hcounts)⟩
    · cases hok
  · exact fun service _ _ hpost =>
      Secures.attempt_pure fun _ => (hpost service rfl).imp fun _ h => ⟨service, h⟩
  · exact fun _ _ _ _ => nofun

/-- A body that succeeds ends with the completed update. -/
theorem verifyAndUpdate_completes {spec : LaunchSpec} {strategies : List Strategy}
    {past : Nat → Deeds} {canaries : CanarySet controlPlane State}
    (h : Musters rollout.engine spec strategies past
      (fun _ s y => s = State.fresh rollout.engine.placement ∧ y = []) canaries w)
    (hok : (rollout.verifyAndUpdate env scope progress canaries w).ending = .returned (.ok ())) :
    ∃ y, (rollout.verifyAndUpdate env scope progress canaries w).world.deeds none =
        w.deeds none ++ y ∧ ∃ watched service, rollout.Completes scope y watched service := by
  have hstart := h.start env .caller
  unfold verifyAndUpdate at hok ⊢
  dsimp only at hok ⊢
  split at hok
  · cases hok
  · cases hok
  · cases hok
  · next hstarted =>
      have hwait := hstart.trans ((hstart.succeeded hstarted).wait env .caller)
      split at hok
      · cases hok
      · cases hok
      · cases hok
      · next hwaited =>
          obtain ⟨y, hy, hsecured⟩ := (secures_completion rollout scope progress).run env .caller
            none (List.append_nil _).symm
          rw [show (run env .caller none _ progress _).ending = .returned (.ok ()) from hok]
            at hsecured
          exact ⟨y, hy.trans (congrArg (· ++ y) (World.deeds_none_of_others hwait.others)),
            hsecured rfl⟩

/-! ## The whole rollout -/

/-- No description of the service shows another task definition than the one that is rolled out. -/
def Current (rollout : Rollout) (y : Deeds) : Prop :=
  ∀ service, .returned (.describeService rollout.engine.cluster rollout.engine.service)
    (.ok (some service)) ∈ y → service.taskDefinition = rollout.taskDefinition.arn

theorem update_taskDefinition (rollout : Rollout) (scope : RolloutScope) :
    (rollout.update scope).taskDefinition = some rollout.taskDefinition.arn := by
  unfold update
  dsimp only
  split <;> rfl

/-- A rollout that succeeds has updated the service to the task definition, and ends with the first
description after that which has the service active, with a single deployment that runs as many
tasks as the service desires. That description shows the task definition unless it, or another one
after the update, is from before. -/
theorem rollOut_completes (rollout : Rollout) (scope : RolloutScope)
    (env : Environment controlPlane S) (progress : Progress) (w : World controlPlane S)
    (hok : (rollout.rollOut env scope progress w).ending = .returned (.ok ())) :
    ∃ first y watched service,
      deedsOf none ((rollout.rollOut env scope progress w).world.since w) = first ++ y ∧
        marks first = [] ∧ rollout.Completes scope y watched service ∧
          (rollout.update scope).taskDefinition = some rollout.taskDefinition.arn ∧
            (rollout.Current y → service.taskDefinition = rollout.taskDefinition.arn) := by
  rcases rollOut_returned hok with ⟨e, herror, -⟩ | ⟨attachments, body, hreached, hbody, heq⟩
  · cases herror
  · obtain ⟨-, hothers, first, hfirst, hquiet, -⟩ := resolve_spec rollout scope env progress w
    have hcompletes := verifyAndUpdate_completes (musters_fresh _ _ _ hothers)
      (hreached.body_eq ▸ hbody)
    rw [← hreached.body_eq] at hcompletes
    obtain ⟨y, hy, watched, service, hcompletes⟩ := hcompletes
    refine ⟨first, y, watched, service, ?_, hquiet, hcompletes, update_taskDefinition ..,
      fun hcurrent => hcurrent service ?_⟩
    · rw [heq, world_finish]
      apply (hreached.follows.trans hreached.cleanUp.follows).deedsOf_since
      rw [hreached.deeds_none, hy, hfirst, List.append_assoc]
    · rw [hcompletes.deeds]
      simp

theorem rollOut_completes_sample :
    let out := sample.rollOut Bench.environment .taskDefinition {} Bench.world
    out.ending = .returned (.ok ()) ∧
      ∃ first y watched service, deedsOf none (out.world.since Bench.world) = first ++ y ∧
        sample.Completes .taskDefinition y watched service := by
  intro out
  have hok : out.ending = .returned (.ok ()) := rfl
  obtain ⟨first, y, watched, service, htrace, -, hcompletes, -⟩ :=
    rollOut_completes sample .taskDefinition Bench.environment {} Bench.world hok
  exact ⟨hok, first, y, watched, service, htrace, hcompletes⟩

/-- A description that shows the previous task definition is taken for the end of the update: the
rollout succeeds on it, and asks for no other. -/
theorem rollOut_trusts_lagging_description :
    let out := sample.rollOut Bench.environment .taskDefinition {} Bench.world
    let service : Service := Bench.sample.service
    out.ending = .returned (.ok ()) ∧
      (deedsOf none (out.world.since Bench.world)).getLast? =
        some (.returned (.describeService "prod" ⟨"api"⟩) (.ok (some service))) ∧
      service.taskDefinition = ⟨"task-definition/api:1"⟩ ∧
      sample.taskDefinition.arn = ⟨"task-definition/api:2"⟩ := by
  refine ⟨rfl, rfl, rfl, rfl⟩

end GatedRollout.Rollout
