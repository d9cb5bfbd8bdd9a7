import GatedRollout.Proofs.Canary.Pacing
import GatedRollout.Proofs.Rollout.Cleanup
import GatedRollout.Proofs.Rollout.Requests

/-!
# Stops that do not depend on each other

The stops of a rollout's canaries run side by side. A call of one of them that fails or never
returns leaves the others alone: each canary that was launched is asked to stop unless it is held up
by a call or a pause of its own. A call that panics takes all of them with it.
-/

namespace GatedRollout.Rollout

open Canary

variable {S : Type}

theorem mem_released {s : State} {task : TaskArn} (h : Mark.launched task ∈ s.held) :
    Mark.stopped task ∈ s.released := by
  simp only [State.held, State.released, List.mem_append, List.mem_map] at h ⊢
  rcases h with ⟨arn, harn, hlaunched⟩ | ⟨r, -, hentered⟩
  · cases hlaunched
    exact .inr ⟨_, harn, rfl⟩
  · cases hentered

/-- The budget of a cleanup runs out with some of its stops under way. -/
def Overruns (rollout : Rollout) (env : Environment controlPlane S) (body : Body S) : Prop :=
  (rollout.cleanUp env body).ending = .hung ∧
    body.world.roundsWithin env rollout.engine.config.canary.cleanupTimeout ≠ none

/-- How the stop of one canary stands after a cleanup that did not panic. -/
theorem Reaches.stands {rollout : Rollout} {scope : RolloutScope}
    {env : Environment controlPlane S} {progress : Progress} {w : World controlPlane S}
    {attachments : Attachments} {body : Body S}
    (h : rollout.Reaches scope env progress w attachments body)
    (hpanic : ∀ message, (rollout.cleanUp env body).ending ≠ .panicked message) {i : Nat}
    {e : CanarySet.Entry controlPlane State} (he : body.canaries.entries[i]? = some e) :
    let out := rollout.cleanUp env body
    let deeds := deedsOf (some i) (out.world.since body.world)
    marks deeds = e.state.released ∨ (∃ r, deeds.getLast? = some (.issued r)) ∨
      (rollout.Overruns env body ∧ ∃ d, deeds.getLast? = some (.slept d)) ∨
        ¬out.world.clock.HasRoom healthPollInterval := by
  rcases h.ran.accounts.stands env .shielded h.staffs _ hpanic he with
    hmarks | ⟨-, hissued⟩ | ⟨hcut, hlimit, hslept⟩ | hfull
  · exact .inl hmarks
  · exact .inr (.inl hissued)
  · exact .inr (.inr (.inl ⟨⟨hcut, hlimit⟩, hslept⟩))
  · exact .inr (.inr (.inr hfull))

/-- In a rollout whose body ends and whose cleanup does not panic, every canary that has launched a
task is asked to stop it, whatever the calls for the other canaries come to, unless the last that it
did in the cleanup was a call without an answer, or a pause in which the budget ran out, or unless
the clock has come to its end. -/
theorem cleanUp_stops_each (rollout : Rollout) (scope : RolloutScope)
    (env : Environment controlPlane S) (progress : Progress) (w : World controlPlane S)
    {attachments : Attachments} {body : Body S}
    (reached : rollout.Reaches scope env progress w attachments body)
    (hbody : body.ending ≠ .hung)
    (hpanic : ∀ message, (rollout.cleanUp env body).ending ≠ .panicked message) :
    let out := rollout.rollOut env scope progress w
    ∀ i task, Mark.launched task ∈ marks (deedsOf (some i) (body.world.since w)) →
      let deeds := deedsOf (some i) (out.world.since body.world)
      (∀ r, deeds.getLast? ≠ some (.issued r)) →
        Mark.stopped task ∈ marks deeds ∨
          (rollout.Overruns env body ∧ ∃ d, deeds.getLast? = some (.slept d)) ∨
          ¬out.world.clock.HasRoom healthPollInterval := by
  rw [reached.rollOut_eq hbody]
  dsimp only
  rw [world_finish]
  intro i task hlaunched hanswered
  rcases Nat.lt_or_ge i (Canary.strategies attachments).length with hi | hi
  · obtain ⟨s, y, hs, hy, haccount⟩ := reached.ran.accounts.each i _ (List.getElem?_eq_getElem hi)
    rw [reached.follows.deedsOf_since hy, haccount.marks_eq] at hlaunched
    rcases reached.stands hpanic hs with hmarks | ⟨r, hr⟩ | hslept | hfull
    · exact .inl (hmarks ▸ mem_released hlaunched)
    · exact absurd hr (hanswered r)
    · exact .inr (.inl hslept)
    · exact .inr (.inr hfull)
  · obtain ⟨-, hothers, -⟩ := resolve_spec rollout scope env progress w
    have hsame := (reached.ran.others i hi).trans (hothers i)
    rw [reached.follows.deedsOf_since (hsame.trans (List.append_nil _).symm)] at hlaunched
    cases hlaunched

/-! ## Two canaries -/

namespace Bench

/-- A control plane for two canaries: each launch has a task of its own, and what becomes of the
first target's deregistration is left open. -/
def twin (effect : Effect Unit) : Environment controlPlane Bench where
  react bench now
    | .runTask _ =>
        (⟨.zero, false, 0, .answer (.ok bench.task)⟩,
          { bench with task := { bench.task with arn := ⟨"task/prod/2"⟩ } })
    | .describeTasks _ tasks =>
        (⟨.zero, false, 0, .answer (.ok (tasks.map fun arn => { bench.task with arn }))⟩, bench)
    | .deregisterTarget group target =>
        if group.text = "targetgroup/api" then (⟨.zero, false, 0, effect⟩, bench)
        else environment.react bench now (.deregisterTarget group target)
    | r => environment.react bench now r
  wake := environment.wake

/-- The sample with a second load balancer. -/
def paired : Bench :=
  { sample with
    service := { sample.service with
      loadBalancers := [⟨⟨"targetgroup/api"⟩, "web", 80⟩, ⟨⟨"targetgroup/admin"⟩, "web", 80⟩] } }

def pairedWorld : World controlPlane Bench := .start default false paired

/-- The body of the sample rollout with two load balancers. -/
def pairedBody (env : Environment controlPlane Bench) : Body Bench :=
  let resolved := Rollout.sample.resolve env .taskDefinition {} pairedWorld
  Rollout.sample.verifyAndUpdate env .taskDefinition resolved.state
    (Canary.set Rollout.sample.engine Rollout.sample.taskDefinition paired.service.attachments)
    resolved.world

theorem paired_reaches (effect : Effect Unit) :
    Rollout.sample.Reaches .taskDefinition (twin effect) {} pairedWorld paired.service.attachments
      (pairedBody (twin effect)) := ⟨rfl, rfl⟩

end Bench

/-- The deregistration of the first canary's target never returns, and the second canary is stopped
all the same. -/
theorem cleanUp_stops_each_twin :
    let body := Bench.pairedBody (Bench.twin .hang)
    let out := sample.rollOut (Bench.twin .hang) .taskDefinition {} Bench.pairedWorld
    body.ending = .returned (.ok ()) ∧
      (sample.cleanUp (Bench.twin .hang) body).ending = .hung ∧
      Mark.launched ⟨"task/prod/2"⟩ ∈
        marks (deedsOf (some 1) (body.world.since Bench.pairedWorld)) ∧
      Mark.stopped ⟨"task/prod/2"⟩ ∈ marks (deedsOf (some 1) (out.world.since body.world)) := by
  intro body out
  have hbody : body.ending = .returned (.ok ()) := rfl
  have hcleanup : (sample.cleanUp (Bench.twin .hang) body).ending = .hung := rfl
  have hlaunched : Mark.launched ⟨"task/prod/2"⟩ ∈
      marks (deedsOf (some 1) (body.world.since Bench.pairedWorld)) := by decide
  have hlast : (deedsOf (some 1) (out.world.since body.world)).getLast? =
      some (.returned (.describeTasks "prod" [⟨"task/prod/2"⟩])
        (.ok [{ Bench.paired.task with arn := ⟨"task/prod/2"⟩, lastStatus := .stopped }])) := rfl
  have hroom : out.world.clock.nanos + healthPollInterval.nanos ≤ Instant.latest := by
    decide +kernel
  refine ⟨hbody, hcleanup, hlaunched, ?_⟩
  have hstands := cleanUp_stops_each sample .taskDefinition (Bench.twin .hang) {}
    Bench.pairedWorld (Bench.paired_reaches .hang) (hbody ▸ nofun) (hcleanup ▸ nofun) 1
    ⟨"task/prod/2"⟩ hlaunched (fun r hr => nomatch hlast.symm.trans hr)
  rcases hstands with hstopped | ⟨⟨-, hlimit⟩, -⟩ | hfull
  · exact hstopped
  · exact absurd rfl hlimit
  · exact absurd hroom hfull

/-- Where that deregistration panics instead, the panic reaches the caller, and the second canary is
neither deregistered nor stopped. -/
theorem cleanUp_abandons_twin :
    let env := Bench.twin (.panic "connection reset")
    let out := sample.rollOut env .taskDefinition {} Bench.pairedWorld
    let place (group : String) := Place.group ⟨group⟩ ⟨"10.0.0.1", 80, some "zone-a"⟩
    out.ending = .panicked "connection reset" ∧
      marks (deedsOf (some 0) (out.world.since Bench.pairedWorld)) =
        [.launched ⟨"task/prod/1"⟩, .entered (place "targetgroup/api"),
          .left (place "targetgroup/api")] ∧
      marks (deedsOf (some 1) (out.world.since Bench.pairedWorld)) =
        [.launched ⟨"task/prod/2"⟩, .entered (place "targetgroup/admin")] :=
  ⟨rfl, by decide, by decide⟩

end GatedRollout.Rollout
