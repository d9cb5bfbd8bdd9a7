import GatedRollout.Proofs.Recreate.Confirmation
import GatedRollout.Proofs.Recreate.Heeding
import GatedRollout.Proofs.Rollout.Heeding

/-!
# Cancellation

Firing the token ends a rollout and a recreation at their next pause. It does not keep them from a
change that they come to without a pause: what a reply has cleared the way for goes ahead, although
the token fired in that very reply.
-/

namespace GatedRollout

variable {ι : Interface} {S : Type}

/-! ## Tokens that fire at a given moment -/

/-- The environment, which also fires the token in the replies to these requests, or in every pause.
-/
def Environment.firing (env : Environment ι S) (answering : ι.Request → Bool) (sleeping : Bool) :
    Environment ι S where
  react s now r :=
    let (reaction, s) := env.react s now r
    ({ reaction with fires := reaction.fires || answering r }, s)
  wake s now :=
    let (waking, s) := env.wake s now
    ({ waking with fires := waking.fires || sleeping }, s)
  expires := env.expires

namespace Rollout

/-- A rollout whose token fires in the first pause of its canary. -/
def launchedLate : Outcome Bench :=
  sample.rollOut (Bench.environment.firing (fun _ => false) true) .taskDefinition {} Bench.world

/-- A rollout whose token fires in the reply that its canary is verified by. -/
def verifiedLate : Outcome Bench :=
  sample.rollOut (Bench.environment.firing (fun r => r matches .describeTargetHealth _ _) false)
    .taskDefinition {} Bench.world

end Rollout

namespace Recreation

def sample : Recreation where
  engine := { config := { cluster := "prod", service := ⟨"api"⟩ }, patience := 0 }
  taskDefinition := { arn := ⟨"task-definition/api:2"⟩, family := "api" }
  definition := { serviceName := ⟨"api"⟩ }

def transit : ServiceName := ⟨"api-transit-19700101000000"⟩

/-- The new service is described before it has settled. -/
def unsettled : World controlPlane (List (Option Service)) :=
  .start default false [resting ⟨"api"⟩ 3,
    (resting transit 1).map fun service => { service with runningCount := 0 }]

/-- Every service is described as settled. -/
def settled : World controlPlane (List (Option Service)) :=
  .start default false [resting ⟨"api"⟩ 3, resting transit 1, resting transit 3, resting ⟨"api"⟩ 0,
    none, resting ⟨"api"⟩ 1, resting ⟨"api"⟩ 3, resting transit 0, none]

/-- A recreation whose token fires in its first pause. -/
def createdLate :
    Aftermath controlPlane (List (Option Service)) Steps (Except RecreateError Result) :=
  run (retelling.firing (fun _ => false) true) .caller none sample.recreate.run [] unsettled

/-- A recreation whose token fires in its very first reply. -/
def begunLate :
    Aftermath controlPlane (List (Option Service)) Steps (Except RecreateError Result) :=
  run (retelling.firing (fun r => r matches .describeService _ _) false) .caller none
    sample.recreate.run [] settled

end Recreation

/-! ## Changes after the token -/

/-- However the environment behaves and whenever the token fires: an update of a rollout comes after
it only in the stretch of a verification that ends well without another pause, and changes of a
recreation only before its next pause. Where the token fires in a pause, neither changes anything
any more, and they fail as cancelled, unless a canary had failed before. -/
theorem changes_cease_with_pauses (env : Environment controlPlane S) (w : World controlPlane S) :
    (∀ (rollout : Rollout) (scope : RolloutScope) (progress : Rollout.Progress)
      (before after : List (Entry controlPlane)),
        let out := rollout.rollOut env scope progress w
        FiresAt w.fired (out.world.since w) before after →
          rollout.TakesFiring scope w.fired before after out.ending) ∧
      ∀ (recreation : Recreation) (actor : Option Nat) (steps : Recreation.Steps),
        let out := run env .caller actor recreation.recreate.run steps w
        (∀ before after, FiresAt w.fired (out.world.since w) before after →
          Recreation.TakesFiring before after out.ending) ∧
          (Recreation.Ceased out.ending ∨
            out = run env .shielded actor recreation.recreate.run steps w) := by
  constructor
  · intro rollout scope progress before after out hfires
    exact Rollout.rollOut_takesFiring hfires
  · intro recreation actor steps
    refine ⟨fun before after hfires => ?_, recreation.recreate_ceases env actor steps w⟩
    exact recreation.recreate_takesFiring env actor steps w hfires

theorem changes_cease_sample :
    let trace := Rollout.launchedLate.world.since Rollout.Bench.world
    let trace' := Recreation.createdLate.world.since Recreation.unsettled
    (InPause (trace.take 5) ∧ (∀ e ∈ trace.drop 6, e.event.Concerns Canary.Stops) ∧
      Rollout.launchedLate.ending =
        .returned (.error (.verifyCanary (.wait .cancelled)))) ∧
      EndsAsleep (trace'.take 7) ∧ trace'.drop 8 = [] ∧
        Recreation.Ceased Recreation.createdLate.ending := by
  have hfires : FiresAt false (Rollout.launchedLate.world.since Rollout.Bench.world) _ _ :=
    .of_getElem? 5 (by decide) (by rfl)
  have hretains : ∀ e ∈ (Rollout.launchedLate.world.since Rollout.Bench.world).take 5,
      e.event.Concerns Rollout.Retains := by decide
  have hpause : InPause ((Rollout.launchedLate.world.since Rollout.Bench.world).take 5) := by
    refine ⟨⟨_, by rfl, rfl⟩, fun actor r => ?_⟩
    -- Only the main process and the one canary have done anything.
    rcases actor with _ | _ | i <;> exact nofun
  have hcancelled : Rollout.launchedLate.ending =
      .returned (.error (.verifyCanary (.wait .cancelled))) := by rfl
  have hfires' : FiresAt false (Recreation.createdLate.world.since Recreation.unsettled) _ _ :=
    .of_getElem? 7 (by decide) (by rfl)
  have hasleep : EndsAsleep ((Recreation.createdLate.world.since Recreation.unsettled).take 7) :=
    ⟨_, by rfl, rfl⟩
  have hrollout := (changes_cease_with_pauses _ Rollout.Bench.world).1 _ _ _ _ _ hfires
  have hrecreation :=
    ((changes_cease_with_pauses _ Recreation.unsettled).2 _ none _).1 _ _ hfires'
  exact ⟨⟨hpause, (hrollout.paused hpause hretains _ hcancelled).1, hcancelled⟩, hasleep,
    hrecreation.paused hasleep⟩

/-- A token that fires in the reply that a canary is verified by does not keep a rollout from
updating the service, and one that fires in the very first reply does not keep a recreation from any
of its changes. Both succeed. -/
theorem changes_outrun_token :
    (Rollout.verifiedLate.ending = .returned (.ok ()) ∧ ∃ before after,
      FiresAt false (Rollout.verifiedLate.world.since Rollout.Bench.world) before after ∧
        ∃ e ∈ after, Rollout.IsUpdate e.event) ∧
      (∃ result, Recreation.begunLate.ending = .returned (.ok result)) ∧ ∃ before after,
        FiresAt false (Recreation.begunLate.world.since Recreation.settled) before after ∧
          mutations (deedsOf none before) = [] ∧ (mutations (deedsOf none after)).length = 8 := by
  have hrollout : FiresAt false (Rollout.verifiedLate.world.since Rollout.Bench.world) _ _ :=
    .of_getElem? 12 (by decide) (by rfl)
  have hrecreation : FiresAt false (Recreation.begunLate.world.since Recreation.settled) _ _ :=
    .of_getElem? 1 (by decide) (by rfl)
  have hupdate : ((Rollout.verifiedLate.world.since Rollout.Bench.world).drop 13)[1]? =
      some ⟨Rollout.Bench.world.clock.advance Canary.launchGrace, none,
        .issued (.updateService (Rollout.sample.update .taskDefinition))⟩ := by rfl
  refine ⟨⟨by rfl, _, _, hrollout, _, List.mem_of_getElem? hupdate, _, rfl⟩, ⟨_, by rfl⟩, _, _,
    hrecreation, by rfl, by rfl⟩

end GatedRollout
