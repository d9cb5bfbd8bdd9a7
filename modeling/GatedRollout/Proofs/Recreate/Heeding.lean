import GatedRollout.Proofs.Wait.Await
import GatedRollout.Recreate.Basic

/-!
# How a recreation heeds the token

A recreation looks at the token in the pauses between two descriptions of a service, and nowhere
else. Once the token has fired it goes on as far as it gets without a pause, and then gives up.
-/

namespace GatedRollout.Recreation

open Attempt

variable (recreation : Recreation) (step : RecreateStep) (name : ServiceName)

/-! ## The change of a step -/

/-- The error of a recreation that was given up. -/
def Cancelled (e : RecreateError) : Prop := e.kind = .cancelled

/-- Nothing need be known of the steps. -/
abbrev Unbound (_ : Steps) : Prop := True

theorem heeds_confirmStable (desiredCount : UInt32) :
    (recreation.confirmStable step name desiredCount).Heeds Cancelled Unbound false false := by
  refine .bind (.within (recreation.engine.heeds_await _ _) ?_) fun service => ?_
  · rintro _ rfl
    rfl
  · exact .bind (.modify fun _ _ => trivial) fun _ => .pure service

theorem heeds_confirmInactive :
    (recreation.confirmInactive step name).Heeds Cancelled Unbound false false := by
  refine .bind (.within (recreation.engine.heeds_await _ _) ?_) fun _ => ?_
  · rintro _ rfl
    rfl
  · exact .modify fun _ _ => trivial

theorem heeds_create : (recreation.create step name).Heeds Cancelled Unbound false false :=
  .bind (.ask _ _) fun _ => heeds_confirmStable recreation step name 1

theorem heeds_scale (desiredCount : UInt32) :
    (recreation.scale step name desiredCount).Heeds Cancelled Unbound false false :=
  .bind (.ask _ _) fun _ => heeds_confirmStable recreation step name desiredCount

theorem heeds_delete : (recreation.delete step name).Heeds Cancelled Unbound false false :=
  .bind (.ask _ _) fun _ => heeds_confirmInactive recreation step name

/-! ## The transition -/

theorem heeds_transition (old transit : ServiceName) (desiredCount : UInt32) :
    (recreation.transition old transit desiredCount).Heeds Cancelled Unbound false false := by
  have creates := heeds_create recreation
  have scales := heeds_scale recreation
  have deletes := heeds_delete recreation
  refine .bind (creates .createTransit transit) fun _ => ?_
  refine .bind (scales .scaleTransit transit desiredCount) fun _ => ?_
  refine .bind (scales .drainOld old 0) fun _ => ?_
  refine .bind (deletes .deleteOld old) fun _ => ?_
  refine .bind (creates .createFinal old) fun _ => ?_
  refine .bind (scales .scaleFinal old desiredCount) fun service => ?_
  refine .bind (scales .drainTransit transit 0) fun _ => ?_
  exact .bind (deletes .deleteTransit transit) fun _ => .pure service

theorem heeds_recreate : recreation.recreate.Heeds Cancelled Unbound false false := by
  refine .bind (.modify fun _ _ => trivial) fun _ => .bind (.ask _ _) fun found => ?_
  refine .bind (.known _) fun old => .now_then fun now => ?_
  refine .bind (heeds_transition recreation _ _ _) fun service => .state_then fun steps _ => ?_
  exact .pure _

/-! ## The firing of the token -/

/-- The recreation was given up. -/
abbrev Ceased (ending : Ending (Except RecreateError Result)) : Prop :=
  ∃ e, ending = .returned (.error e) ∧ Cancelled e

/-- How a recreation took the firing of its token, before which and after which this was done.
Nobody pauses afterwards. Where the token fired in a pause, nothing is done any more. -/
structure TakesFiring (before after : List (Entry controlPlane))
    (ending : Ending (Except RecreateError Result)) : Prop where
  sleepless : Sleepless after
  paused : EndsAsleep before → after = [] ∧ Ceased ending

section Runs

variable {S : Type} (env : Environment controlPlane S) (actor : Option Nat) (steps : Steps)
  (w : World controlPlane S)

theorem recreate_takesFiring {before after : List (Entry controlPlane)} :
    let out := run env .caller actor recreation.recreate.run steps w
    FiresAt w.fired (out.world.since w) before after → TakesFiring before after out.ending := by
  intro out hfires
  obtain ⟨hsleepless, hasleep⟩ :=
    ((heeds_recreate recreation).run_heeds (s := steps) trivial).run_fired env actor w hfires
  refine ⟨hsleepless, fun hpaused => ?_⟩
  obtain ⟨hnone, result, hending, e, rfl, hcancelled⟩ := hasleep hpaused
  exact ⟨hnone, e, hending, hcancelled⟩

/-- A recreation is given up, or the token has no effect on it at all. -/
theorem recreate_ceases :
    let out := run env .caller actor recreation.recreate.run steps w
    Ceased out.ending ∨ out = run env .shielded actor recreation.recreate.run steps w := by
  intro out
  rcases ((heeds_recreate recreation).run_heeds (s := steps) trivial).run_caller env actor w with
    ⟨result, _, hending, e, rfl, hcancelled⟩ | hsame
  · exact .inl ⟨e, hending, hcancelled⟩
  · exact .inr hsame

end Runs

end GatedRollout.Recreation
