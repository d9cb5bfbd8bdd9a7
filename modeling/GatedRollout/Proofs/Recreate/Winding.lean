import GatedRollout.Proofs.Process.Loops
import GatedRollout.Proofs.Recreate.Protocol

/-!
# How a recreation winds down

A recreation looks at the token only in its pauses, so one that fires elsewhere lets it go on until
it would pause. Each of its eight steps then takes two requests, the change and one look at the
service. A change costs what its step takes, so that the steps that were begun before the token
fired are not counted again.
-/

namespace GatedRollout.Recreation

/-- A change costs the two requests that a step takes once the token has fired. -/
def stepCost (r : ControlPlane.Request) : Nat := if r.isRead then 0 else 2

theorem charge_stepCost (y : Deeds) : charge stepCost y = 2 * (mutations y).length := by
  induction y with
  | nil => rfl
  | cons e y ih =>
      rw [← List.singleton_append, charge_append, mutations_append, List.length_append, ih]
      suffices hone : charge stepCost [e] = 2 * (mutations [e]).length by omega
      cases e with
      | issued r =>
          cases hread : r.isRead <;>
            simp [charge, Event.request?, stepCost, mutations, Event.mutation?, hread]
      | _ => rfl

variable (recreation : Recreation) {limit left : Nat} (step : RecreateStep) (name : ServiceName)

/-! ## The steps -/

theorem winds_change {r : ControlPlane.Request} (hr : r.isRead = false)
    (fault : ClientError → RecreateError) :
    (Attempt.ask (ι := controlPlane) r fault : Move _).Winds stepCost limit ⟨left + 2, left + 3⟩
      ⟨left + 1, left + 1⟩ := by
  have hcost : stepCost r = 2 := by simp [stepCost, hr]
  have hspend : (Attempt.ask (ι := controlPlane) r fault : Move _).Winds stepCost limit
      ⟨left + 1 + 1, left + 1 + stepCost r⟩ ⟨left + 1, left + 1⟩ := .spend (Nat.le_refl _) fault
  rwa [hcost] at hspend

theorem winds_confirmStable (desiredCount : UInt32) :
    (recreation.confirmStable step name desiredCount).Winds stepCost limit ⟨left + 1, left + 1⟩
      ⟨left, left + 1⟩ := by
  refine .bind (.within (recreation.engine.winds_await _ rfl (Nat.le_succ left)) _)
    fun service => ?_
  exact .bind (.modify _) fun _ => .pure service

theorem winds_confirmInactive : (recreation.confirmInactive step name).Winds stepCost limit
    ⟨left + 1, left + 1⟩ ⟨left, left + 1⟩ := by
  refine .bind (.within (recreation.engine.winds_await _ rfl (Nat.le_succ left)) _) fun _ => ?_
  exact .modify _

theorem winds_create : (recreation.create step name).Winds stepCost limit ⟨left + 2, left + 3⟩
    ⟨left, left + 1⟩ :=
  .bind (winds_change rfl _) fun _ => winds_confirmStable recreation step name 1

theorem winds_scale (desiredCount : UInt32) : (recreation.scale step name desiredCount).Winds
    stepCost limit ⟨left + 2, left + 3⟩ ⟨left, left + 1⟩ :=
  .bind (winds_change rfl _) fun _ => winds_confirmStable recreation step name desiredCount

theorem winds_delete : (recreation.delete step name).Winds stepCost limit ⟨left + 2, left + 3⟩
    ⟨left, left + 1⟩ :=
  .bind (winds_change rfl _) fun _ => winds_confirmInactive recreation step name

/-! ## The transition -/

theorem winds_transition (old transit : ServiceName) (desiredCount : UInt32) :
    (recreation.transition old transit desiredCount).Winds stepCost limit ⟨16, 17⟩ ⟨0, 1⟩ := by
  refine .bind (winds_create recreation .createTransit transit) fun _ => ?_
  refine .bind (winds_scale recreation .scaleTransit transit desiredCount) fun _ => ?_
  refine .bind (winds_scale recreation .drainOld old 0) fun _ => ?_
  refine .bind (winds_delete recreation .deleteOld old) fun _ => ?_
  refine .bind (winds_create recreation .createFinal old) fun _ => ?_
  refine .bind (winds_scale recreation .scaleFinal old desiredCount) fun service => ?_
  refine .bind (winds_scale recreation .drainTransit transit 0) fun _ => ?_
  exact .bind (winds_delete recreation .deleteTransit transit) fun _ => .pure service

theorem winds_recreate : recreation.recreate.Winds stepCost limit ⟨17, 17⟩ ⟨0, 1⟩ := by
  refine .bind (.modify _) fun _ => .bind (.ask rfl (Nat.le_succ 16) _) fun found => ?_
  refine .bind (.known _) fun old => .now_then fun now => ?_
  refine .bind (winds_transition recreation _ _ _) fun service => .state_then fun steps => ?_
  exact .pure _

/-! ## The recreation after the firing -/

/-- Where the token fires, two requests are left of every step not begun, and one of the last that
was. -/
theorem recreate_windsDown {S : Type} (env : Environment controlPlane S) (actor : Option Nat)
    (steps : Steps) (w : World controlPlane S) {before after : List (Entry controlPlane)}
    (hfires : FiresAt w.fired
      ((run env .caller actor recreation.recreate.run steps w).world.since w) before after) :
    WindsDown before after ∧
      (requestsIn after).length ≤ 2 * (8 - (mutations (deedsOf actor before)).length) + 1 := by
  obtain ⟨hdown, hle⟩ := Process.Winds.run_windsDown (winds_recreate recreation) (Nat.le_refl 17)
    (Nat.le_refl 17) env actor steps w hfires
  rw [charge_stepCost] at hle
  exact ⟨hdown, by omega⟩

end GatedRollout.Recreation
