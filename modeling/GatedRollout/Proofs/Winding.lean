import GatedRollout.Creation
import GatedRollout.Proofs.Cancellation
import GatedRollout.Proofs.Recreate.Winding
import GatedRollout.Proofs.Rollout.Winding
import GatedRollout.RunOnce

/-!
# Winding down

However the environment behaves and whenever the token fires, what is left to do then is bounded by
the number of canaries or of steps, whatever the time limits: nobody pauses any more outside of a
cleanup, and a loop that polls does so at most once more.
-/

namespace GatedRollout

variable {S σ : Type} {limit : Nat}

/-! ## A creation, and a task that is run -/

/-- A creation has two looks at the service and the creation itself left at most. -/
theorem Creation.winds_create (creation : Creation) (hlimit : 2 ≤ limit) :
    (creation.create : Activity σ _ _).Winds free limit ⟨3, limit⟩ ⟨0, limit⟩ := by
  refine .bind (.ask rfl hlimit _) fun existing => ?_
  dsimp only
  split
  · exact .throw _
  · refine .bind (.ask rfl (by omega) _) fun _ => ?_
    exact .within (creation.engine.winds_await _ rfl (Nat.zero_le _)) _

/-- A task that is run pauses before its first look at it. -/
theorem RunOnce.winds_run (once : RunOnce) (input : RunOnce.Input) (hlimit : 1 ≤ limit) :
    (once.run input).Winds free limit ⟨1, limit⟩ ⟨0, limit⟩ := by
  unfold RunOnce.run
  dsimp only
  split
  · exact .throw _
  · refine .bind (.within (Canary.winds_launch _ _ _ (Nat.zero_le _)) _) fun arn => ?_
    refine .bind (.within (Canary.winds_waitRunning _ 1 hlimit) _) fun _ => ?_
    refine .bind (.within (once.engine.winds_await _ rfl (Nat.zero_le _)) _) fun stopped => ?_
    split
    · exact .pure _
    · exact .throw _

/-! ## After the firing -/

/-- However the environment behaves and whenever the token fires: nobody pauses any more but in the
cleanup of a rollout, no loop polls more than once more, and no canary is launched any more. What is
still requested outside of that cleanup is bounded by the number of canaries, or by the steps that
had not begun. Every watch is a polling loop. -/
theorem runs_wind_down_after_firing (env : Environment controlPlane S) (w : World controlPlane S) :
    (∀ (rollout : Rollout) (scope : RolloutScope) (progress : Rollout.Progress),
      let body := rollout.bodyWorld scope env progress w
      let canaries := rollout.canaryCount scope env progress w
      ∃ cleanup,
        (rollout.rollOut env scope progress w).world.since w = body.since w ++ cleanup ∧
          (∀ e ∈ cleanup, e.event.Concerns Canary.Stops) ∧
            ∀ before after, FiresAt w.fired (body.since w) before after →
              WindsDown before after ∧ (requestsIn after).length ≤ canaries * 9 + 3 ∧
                ∀ r ∈ requestsIn (after ++ cleanup), Rollout.Launchless r) ∧
      (∀ (recreation : Recreation) (actor : Option Nat) (steps : Recreation.Steps)
        (before after : List (Entry controlPlane)),
        let out := run env .caller actor recreation.recreate.run steps w
        FiresAt w.fired (out.world.since w) before after →
          WindsDown before after ∧
            (requestsIn after).length ≤
              2 * (8 - (mutations (deedsOf actor before)).length) + 1) ∧
      (∀ (creation : Creation) (actor : Option Nat) (s : σ)
        (before after : List (Entry controlPlane)),
        let out := run env .caller actor creation.create.run s w
        FiresAt w.fired (out.world.since w) before after →
          WindsDown before after ∧ (requestsIn after).length ≤ 3) ∧
      (∀ (once : RunOnce) (input : RunOnce.Input) (actor : Option Nat) (s : Canary.State)
        (before after : List (Entry controlPlane)),
        let out := run env .caller actor (once.run input).run s w
        FiresAt w.fired (out.world.since w) before after →
          WindsDown before after ∧ (requestsIn after).length ≤ 1) ∧
      ∀ {β γ : Type} (watch : Watch controlPlane β γ) (patience : Nat) (token : Token)
        (actor : Option Nat) (s : σ), ∃ loop,
          (run env token actor (watch.run patience) s w).world.deeds actor =
              w.deeds actor ++ loop ∧
            Polls watch.request loop := by
  refine ⟨fun rollout scope progress => ?_, ?_, ?_, ?_, ?_⟩
  · intro body canaries
    obtain ⟨cleanup, htrace, hstops⟩ := (rollout.finishes_rollOut scope env progress w).since_body
    refine ⟨cleanup, htrace, hstops, fun before after hfires => ?_⟩
    obtain ⟨hdown, hlength⟩ := Rollout.bodyWorld_windsDown hfires
    refine ⟨hdown, hlength, ?_⟩
    rw [requestsIn_append]
    exact List.forall_mem_append.mpr
      ⟨Rollout.bodyWorld_launchless hfires, Rollout.launchless_of_stops hstops⟩
  · intro recreation actor steps before after out hfires
    exact recreation.recreate_windsDown env actor steps w hfires
  · intro creation actor s before after out hfires
    obtain ⟨hdown, hle⟩ := Process.Winds.run_windsDown (creation.winds_create (Nat.le_succ 2))
      (Nat.le_refl 3) (Nat.le_refl 3) env actor s w hfires
    rw [charge_free, Nat.zero_add] at hle
    exact ⟨hdown, hle⟩
  · intro once input actor s before after out hfires
    obtain ⟨hdown, hle⟩ := Process.Winds.run_windsDown (once.winds_run input (Nat.le_refl 1))
      (Nat.le_refl 1) (Nat.le_refl 1) env actor s w hfires
    rw [charge_free, Nat.zero_add] at hle
    exact ⟨hdown, hle⟩
  · intro β γ watch patience token actor s
    exact run_polls watch patience env token actor s w

/-! ### Runs whose token fires -/

/-- The body of a rollout whose token fires in the reply that its canary is verified by. -/
def Rollout.verifiedBody : List (Entry controlPlane) :=
  (sample.bodyWorld .taskDefinition
    (Bench.environment.firing (fun r => r matches .describeTargetHealth _ _) false) {}
    Bench.world).since Bench.world

namespace Creation

def sample : Creation where
  engine := Recreation.sample.engine
  taskDefinition := Recreation.sample.taskDefinition
  definition := Recreation.sample.definition

/-- The service is absent at first, and later described as settled. -/
def absent : World controlPlane (List (Option Service)) :=
  .start default false [none, Recreation.resting ⟨"api"⟩ 1]

/-- What a creation does whose token fires in the reply that accepts it. -/
def acceptedLate : List (Entry controlPlane) :=
  (run (Recreation.retelling.firing (fun r => r matches .createService _) false) .caller none
    sample.create.run () absent).world.since absent

end Creation

/-- What is done for a task that is run, when the token fires in the reply to its launch. -/
def RunOnce.launchedLate : List (Entry controlPlane) :=
  let once : RunOnce :=
    { engine := Rollout.sample.engine
      taskDefinition := Rollout.sample.taskDefinition
      attachments := Rollout.Bench.sample.service.attachments }
  (GatedRollout.run (Rollout.Bench.environment.firing (fun r => r matches .runTask _) false) .caller
    none (once.run { container := "web" }).run (Canary.State.fresh .onDemand)
    Rollout.Bench.world).world.since Rollout.Bench.world

/-- A verified canary leaves the update and a look at the service, a recreation that has just begun
all of its eight steps, a creation one look at the service, and a task that is run nothing. -/
theorem runs_wind_down_sample :
    let recreated := Recreation.begunLate.world.since Recreation.settled
    (WindsDown (Rollout.verifiedBody.take 12) (Rollout.verifiedBody.drop 13) ∧
        (requestsIn (Rollout.verifiedBody.drop 13)).length = 2) ∧
      (WindsDown (recreated.take 1) (recreated.drop 2) ∧
        (requestsIn (recreated.drop 2)).length = 16) ∧
      (WindsDown (Creation.acceptedLate.take 3) (Creation.acceptedLate.drop 4) ∧
        (requestsIn (Creation.acceptedLate.drop 4)).length = 1) ∧
      WindsDown (RunOnce.launchedLate.take 1) (RunOnce.launchedLate.drop 2) ∧
        requestsIn (RunOnce.launchedLate.drop 2) = [] := by
  intro recreated
  have hbody : FiresAt false Rollout.verifiedBody _ _ := .of_getElem? 12 (by decide) (by rfl)
  have hrecreated : FiresAt false recreated _ _ := .of_getElem? 1 (by decide) (by rfl)
  have hcreated : FiresAt false Creation.acceptedLate _ _ := .of_getElem? 3 (by decide) (by rfl)
  have honce : FiresAt false RunOnce.launchedLate _ _ := .of_getElem? 1 (by decide) (by rfl)
  obtain ⟨cleanup, -, -, hrollout⟩ := (runs_wind_down_after_firing (σ := Unit)
    (Rollout.Bench.environment.firing (fun r => r matches .describeTargetHealth _ _) false)
    Rollout.Bench.world).1 Rollout.sample .taskDefinition {}
  have hrecreate := (runs_wind_down_after_firing (σ := Unit) _ Recreation.settled).2.1 _ none _ _ _
    hrecreated
  have hcreate := (runs_wind_down_after_firing _ Creation.absent).2.2.1 _ none _ _ _ hcreated
  have hrun := (runs_wind_down_after_firing (σ := Unit) _ Rollout.Bench.world).2.2.2.1 _ _ none _ _
    _ honce
  exact ⟨⟨(hrollout _ _ hbody).1, by rfl⟩, ⟨hrecreate.1, by rfl⟩, ⟨hcreate.1, by rfl⟩, hrun.1,
    by rfl⟩

end GatedRollout
