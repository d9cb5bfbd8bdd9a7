import GatedRollout.Proofs.Rollout.Requests
import GatedRollout.Proofs.Rollout.Update

/-!
# What is verified and what is then run

The canaries of a rollout are built from attachments, and each launch carries them. The update that
follows leaves a part of the live service as it is where the update does not set it. So the service
comes to run with the attachments that were verified, unless these lack a network configuration or a
platform version and the service has one: the canaries then ran without what the service keeps.
-/

namespace GatedRollout

/-- The attachments of a service after an update: what the update does not set stays. -/
def ControlPlane.ServiceUpdate.appliedTo (update : ControlPlane.ServiceUpdate)
    (live : Attachments) : Attachments where
  loadBalancers := update.loadBalancers.getD live.loadBalancers
  serviceRegistries := update.serviceRegistries.getD live.serviceRegistries
  networkConfiguration := update.networkConfiguration.or live.networkConfiguration
  platformVersion := update.platformVersion.or live.platformVersion

/-- Whether a request, if it launches anything, launches it with these attachments. A task that is
started on an instance has no platform version. -/
def Attachments.Launch (attachments : Attachments) : ControlPlane.Request → Prop
  | .runTask launch =>
      launch.networkConfiguration = attachments.networkConfiguration ∧
        launch.platformVersion = attachments.platformVersion
  | .startTask launch => launch.networkConfiguration = attachments.networkConfiguration
  | _ => True

theorem Attachments.launch_of_role {attachments : Attachments} {r : ControlPlane.Request}
    (h : r.role ≠ .launches) : attachments.Launch r := by
  cases r with
  | runTask launch => exact absurd rfl h
  | startTask launch => exact absurd rfl h
  | _ => trivial

namespace Rollout

open Canary

variable {S : Type} {rollout : Rollout} {scope : RolloutScope} {env : Environment controlPlane S}
  {progress : Progress} {w : World controlPlane S} {attachments : Attachments} {body : Body S}

/-! ## Launches -/

theorem asks_start_launch (engine : Engine) (taskDefinition : TaskDefinition)
    (attachments : Attachments) :
    (start engine (.canary engine taskDefinition attachments)).run.Asks attachments.Launch := by
  refine conforms_start engine _ (fun _ _ _ => trivial) (fun placement => ?_) fun _ _ _ => trivial
  cases placement with
  | onDemand => exact .attempt_ask (And.intro rfl rfl) _
  | pinned host => exact .attempt_ask (by rfl) _

theorem begun_launches (rollout : Rollout) (scope : RolloutScope)
    (env : Environment controlPlane S) (progress : Progress) (w : World controlPlane S)
    (attachments : Attachments) :
    World.Concerns attachments.Launch (rollout.resolve env scope progress w).world
      (rollout.begun scope env progress w attachments).world := by
  refine CanarySet.concerns_start fun e he => ?_
  obtain ⟨strategy, -, rfl⟩ := List.mem_map.mp he
  exact asks_start_launch rollout.engine rollout.taskDefinition attachments

/-- Whatever a rollout launches until its cleanup, it launches with the attachments that it
found. -/
theorem Reaches.launches (h : rollout.Reaches scope env progress w attachments body) :
    World.Concerns attachments.Launch w body.world := by
  have hresolved : World.Concerns attachments.Launch w
      (rollout.resolve env scope progress w).world :=
    (concerns_resolve rollout scope env progress w).mono fun r hr => by
      rw [hr]
      trivial
  have hbegun := hresolved.trans (begun_launches rollout scope env progress w attachments)
  have hawaited := hbegun.trans ((concerns_awaited rollout scope env progress w attachments).mono
    fun r hr => Attachments.launch_of_role (ne_launches_of_waits r hr))
  cases h.proceeds with
  | unstarted _ body_eq => exact body_eq ▸ hbegun
  | unverified _ _ body_eq => exact body_eq ▸ hawaited
  | updating _ _ body_eq =>
      have hupdate : (rollout.updateService scope).run.Asks attachments.Launch :=
        (asks_updateService rollout scope).mono fun r hr => Attachments.launch_of_role (by
          rcases hr with hr | hr <;> simp [hr])
      exact body_eq ▸ hupdate.run env .caller none _ hawaited

theorem Reaches.launches_cleanUp (h : rollout.Reaches scope env progress w attachments body) :
    World.Concerns attachments.Launch w (rollout.cleanUp env body).world :=
  h.launches.trans ((concerns_cleanUp rollout env body h.staffs).mono fun r hr =>
    Attachments.launch_of_role (by rcases hr with hr | hr <;> simp [hr]))

/-! ## The update -/

/-- The live service as all descriptions of it in a trace have it. -/
def DescribedAs (rollout : Rollout) (live : Attachments) (trace : Deeds) : Prop :=
  ∀ service, .returned (.describeService rollout.engine.cluster rollout.engine.service)
    (.ok (some service)) ∈ trace → live = service.attachments

/-- What a service with other attachments has after an update that carries these as its scope
asks. -/
def resulting (attachments live : Attachments) : RolloutScope → Attachments
  | .taskDefinition => live
  | .configuration =>
      { attachments with
        networkConfiguration := attachments.networkConfiguration.or live.networkConfiguration
        platformVersion := attachments.platformVersion.or live.platformVersion }

/-- What the update of a rollout makes of a service that has not changed since it was described. -/
theorem Borrows.appliedTo {trace : Deeds} {live : Attachments}
    (h : rollout.Borrows scope attachments trace) (hlive : rollout.DescribedAs live trace) :
    (rollout.update scope).appliedTo live = resulting attachments live scope ∧
      (scope = .taskDefinition → live = attachments) := by
  cases scope with
  | taskDefinition =>
      obtain ⟨service, hdescribed, -, rfl⟩ := h
      exact ⟨rfl, fun _ => hlive service hdescribed⟩
  | configuration =>
      obtain ⟨definition, hpending, rfl⟩ := h
      refine ⟨?_, nofun⟩
      unfold update
      rw [hpending]
      rfl

theorem or_eq_left_iff {α : Type} (a b : Option α) : a.or b = a ↔ (a = none → b = none) := by
  cases a with
  | none => simp
  | some a => simp

/-- What is verified is what the service will run with, except for a network configuration or a
platform version that the pending definition lacks and the service has. -/
theorem Borrows.appliedTo_eq_iff {trace : Deeds} {live : Attachments}
    (h : rollout.Borrows scope attachments trace) (hlive : rollout.DescribedAs live trace) :
    (rollout.update scope).appliedTo live = attachments ↔ (scope = .configuration →
      (attachments.networkConfiguration = none → live.networkConfiguration = none) ∧
        (attachments.platformVersion = none → live.platformVersion = none)) := by
  obtain ⟨happlied, hsame⟩ := h.appliedTo hlive
  rw [happlied]
  cases scope with
  | taskDefinition => simp [resulting, hsame rfl]
  | configuration =>
      obtain ⟨balancers, registries, network, platform⟩ := attachments
      simp [resulting, or_eq_left_iff]

section Update

variable {later : World controlPlane S} {before after : List (Entry controlPlane)} {time : Instant}
  {actor : Option Nat} {update : ControlPlane.ServiceUpdate}

/-- A rollout that issues an update has built its canaries from these attachments, launched them
with these, and makes of the service what they were verified with, where it can. -/
structure AppliesVerified (rollout : Rollout) (scope : RolloutScope)
    (update : ControlPlane.ServiceUpdate) (attachments : Attachments)
    (before : List (Entry controlPlane)) : Prop where
  evidenced : rollout.Evidenced scope attachments before
  launches : ∀ e ∈ before, e.event.Concerns attachments.Launch
  loadBalancers : ∀ live, rollout.DescribedAs live (deedsOf none before) →
    (update.appliedTo live).loadBalancers = attachments.loadBalancers
  serviceRegistries : ∀ live, rollout.DescribedAs live (deedsOf none before) →
    (update.appliedTo live).serviceRegistries = attachments.serviceRegistries
  verified_iff : ∀ live, rollout.DescribedAs live (deedsOf none before) →
    (update.appliedTo live = attachments ↔ (scope = .configuration →
      (attachments.networkConfiguration = none → live.networkConfiguration = none) ∧
        (attachments.platformVersion = none → live.platformVersion = none)))

theorem Reaches.applies (hreached : rollout.Reaches scope env progress w attachments body)
    (hends : Ends w body later) (hlaunches : World.Concerns attachments.Launch w later)
    (htrace : later.since w =
      before ++ ⟨time, actor, .issued (.updateService update)⟩ :: after) :
    rollout.AppliesVerified scope update attachments before := by
  obtain ⟨-, rfl, -, -⟩ := hreached.own_update hends htrace
  obtain ⟨-, -, hevidenced⟩ := hreached.updates hends htrace
  refine ⟨hevidenced, fun e he => hlaunches.events e ?_, fun live hlive => ?_, fun live hlive => ?_,
    fun live hlive => hevidenced.borrowed.appliedTo_eq_iff hlive⟩
  · rw [htrace]
    exact List.mem_append_left _ he
  all_goals
    obtain ⟨happlied, hsame⟩ := hevidenced.borrowed.appliedTo hlive
    rw [happlied]
    cases scope with
    | taskDefinition => rw [resulting, hsame rfl]
    | configuration => rfl

/-- Whenever a rollout issues an update, applying that to the live service, as it was described,
yields the attachments that its canaries were built from and launched with; but where a pending
definition lacks a network configuration or a platform version, the canaries run without and the
service keeps its own. -/
theorem rollOut_applies_verified (rollout : Rollout) (scope : RolloutScope)
    (env : Environment controlPlane S) (progress : Progress) (w : World controlPlane S)
    (htrace : (rollout.rollOut env scope progress w).world.since w =
      before ++ ⟨time, actor, .issued (.updateService update)⟩ :: after) :
    ∃ attachments body, rollout.Reaches scope env progress w attachments body ∧
      rollout.AppliesVerified scope update attachments before := by
  cases rollout.finishes_rollOut scope env progress w with
  | early unresolved world_eq =>
      rw [world_eq] at htrace
      have hasked := (concerns_resolve rollout scope env progress w).events
        ⟨time, actor, .issued (.updateService update)⟩ (by simp [htrace])
      cases hasked
  | stuck reached hung world_eq =>
      rw [world_eq] at htrace
      exact ⟨_, _, reached, reached.applies reached.ends_body reached.launches htrace⟩
  | cleaned reached world_eq =>
      rw [world_eq] at htrace
      exact ⟨_, _, reached, reached.applies reached.ends_cleanUp reached.launches_cleanUp htrace⟩

end Update

/-! ## A live service with a network configuration -/

theorem rollOut_applies_sample :
    let out := sample.rollOut Bench.environment .taskDefinition {} Bench.world
    let live := Bench.sample.service.attachments
    ∃ before time after, out.world.since Bench.world = before ++ ⟨time, none,
          .issued (.updateService (sample.update .taskDefinition))⟩ :: after ∧
      sample.DescribedAs live (deedsOf none before) ∧
      ∃ attachments, sample.AppliesVerified .taskDefinition (sample.update .taskDefinition)
          attachments before ∧
        (sample.update .taskDefinition).appliedTo live = attachments := by
  intro out live
  have htrace : out.world.since Bench.world = (out.world.since Bench.world).take 13 ++
      ⟨Bench.world.clock.advance launchGrace, none,
        .issued (.updateService (sample.update .taskDefinition))⟩ ::
          (out.world.since Bench.world).drop 14 := rfl
  obtain ⟨attachments, body, -, happlies⟩ := rollOut_applies_verified sample .taskDefinition
    Bench.environment {} Bench.world htrace
  have hlive : sample.DescribedAs live
      (deedsOf none ((out.world.since Bench.world).take 13)) := by
    have hdeeds : deedsOf none ((out.world.since Bench.world).take 13) =
        [.issued (.describeService "prod" ⟨"api"⟩), .returned (.describeService "prod" ⟨"api"⟩)
          (.ok (some Bench.sample.service))] := rfl
    intro service hservice
    rw [hdeeds] at hservice
    simp only [List.mem_cons, List.not_mem_nil, or_false, reduceCtorEq, false_or] at hservice
    cases hservice
    rfl
  exact ⟨_, _, _, htrace, hlive, attachments, happlies,
    (happlies.verified_iff live hlive).mpr nofun⟩

/-- The bench, with a service that has a network configuration. -/
def Bench.networked : Bench :=
  { Bench.sample with
    service := { Bench.sample.service with
      networkConfiguration := some { subnets := ["subnet-a"] } } }

/-- The rollout of the sample, with a pending definition that has none. -/
def sampleUnnetworked : Rollout :=
  { sample with
    pending := some
      { serviceName := ⟨"api"⟩
        loadBalancers := Bench.sample.service.loadBalancers } }

/-- The canary is launched and verified without a network configuration, as the pending definition
has it, and the service keeps its own. -/
theorem rollOut_keeps_unverified_network :
    let w : World controlPlane Bench := .start default false Bench.networked
    let out := sampleUnnetworked.rollOut Bench.environment .configuration {} w
    let update := sampleUnnetworked.update .configuration
    let launch : ControlPlane.TaskRun :=
      { cluster := "prod"
        taskDefinition := ⟨"task-definition/api:2"⟩
        group := sampleUnnetworked.engine.config.canary.taskGroup
        launchType := none
        networkConfiguration := none
        platformVersion := none
        overrides := [] }
    out.ending = .returned (.ok ()) ∧
      .runTask launch ∈ requestsIn (out.world.since w) ∧
      .updateService update ∈ requestsIn (out.world.since w) ∧
      (update.appliedTo Bench.networked.service.attachments).networkConfiguration =
        some { subnets := ["subnet-a"] } :=
  ⟨rfl, by decide, by decide, rfl⟩

end Rollout

end GatedRollout
