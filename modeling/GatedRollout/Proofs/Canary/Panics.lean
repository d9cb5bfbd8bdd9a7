import GatedRollout.Proofs.Canary.Requests
import GatedRollout.Proofs.Process.Panics

/-!
# How canaries panic

No move of a canary panics but one. A stop adds a margin to the deregistration delay that it reads,
and panics where the sum is out of range.
-/

namespace GatedRollout

variable {replies : (r : ControlPlane.Request) → Except ClientError (controlPlane.Reply r) → Prop}
  {allowed : String → Prop}

namespace Canary

variable (engine : Engine) (spec : LaunchSpec)

theorem alarms_start : (start engine spec).run.Alarms replies allowed :=
  conforms_start engine spec (fun _ _ _ => trivial)
    (conforms_launchOn engine spec (fun _ _ => trivial) []) fun _ _ _ => trivial

theorem alarms_wait (strategy : Strategy) :
    (task engine spec strategy).wait.run.Alarms replies allowed :=
  conforms_wait engine spec (fun _ _ => trivial) (fun _ _ _ => trivial) strategy
    fun _ _ _ _ => trivial

theorem alarms_stop (admits : Admits replies allowed) (strategy : Strategy) :
    (task engine spec strategy).stop.run.Alarms replies allowed :=
  conforms_stop engine spec (fun _ _ => trivial) (fun _ _ _ => trivial) (fun _ _ => trivial)
    (fun _ _ _ => trivial) admits strategy

end Canary

/-! ## Sets -/

namespace CanarySet

variable {ι : Interface} {S σ : Type} {env : Environment ι S} {token : Token}
  {replies : (r : ι.Request) → Except ClientError (ι.Reply r) → Prop}
  {set : CanarySet ι σ} {earlier w : World ι S} {message : String}

theorem explains_startFrom (sound : env.Sound) (entries : List (Entry ι σ)) :
    ∀ {i : Nat} {w : World ι S}, (∀ e ∈ entries, e.task.start.run.Alarms replies allowed) →
      w.Follows earlier → (startFrom env token i entries w).ending = .panicked message →
      World.Explains replies allowed earlier (startFrom env token i entries w).world message := by
  induction entries with
  | nil => exact fun _ _ hpanicked => nomatch hpanicked
  | cons e rest ih =>
      intro i w h hw hpanicked
      have hfollows := hw.trans (run_follows env token (some i) e.task.start.run e.state w)
      simp only [startFrom] at hpanicked ⊢
      split at hpanicked
      · exact ih (fun e' he' => h e' (List.mem_cons_of_mem _ he')) hfollows hpanicked
      · exact (h e List.mem_cons_self).run sound hw hpanicked

theorem explains_start (sound : env.Sound)
    (h : ∀ e ∈ set.entries, e.task.start.run.Alarms replies allowed) (hw : w.Follows earlier)
    (hpanicked : (set.start env token w).ending = .panicked message) :
    World.Explains replies allowed earlier (set.start env token w).world message :=
  explains_startFrom sound set.entries h hw hpanicked

theorem panicked_of_gather {g : Gathered ι S σ (Except TaskError Unit)}
    (h : (set.gather g).ending = .panicked message) : g.ending = .panicked message := by
  unfold gather at h
  dsimp only at h
  split at h <;> cases h
  assumption

theorem explains_wait (sound : env.Sound)
    (h : ∀ e ∈ set.entries, e.task.wait.run.Alarms replies allowed) (hw : w.Follows earlier)
    (hpanicked : (set.wait env token w).ending = .panicked message) :
    World.Explains replies allowed earlier (set.wait env token w).world message := by
  refine explains_fanOutWithin sound none (fun p hp => ?_) hw (panicked_of_gather hpanicked)
  obtain ⟨e, he, rfl⟩ := List.mem_map.mp hp
  exact h e he

theorem explains_cleanupWithin (sound : env.Sound)
    (h : ∀ e ∈ set.entries, e.task.stop.run.Alarms replies allowed) (hw : w.Follows earlier)
    {budget : Duration}
    (hpanicked : (set.cleanupWithin env token budget w).ending = .panicked message) :
    World.Explains replies allowed earlier (set.cleanupWithin env token budget w).world
      message := by
  refine explains_fanOutWithin sound _ (fun p hp => ?_) hw (panicked_of_gather hpanicked)
  obtain ⟨e, he, rfl⟩ := List.mem_map.mp hp
  exact h e he

end CanarySet

/-! ## The canaries of a service -/

namespace Canary.Staffs

variable {S : Type} {engine : Engine} {spec : LaunchSpec} {set : CanarySet controlPlane State}

theorem alarms_start (h : Staffs engine spec set) :
    ∀ e ∈ set.entries, e.task.start.run.Alarms replies allowed := by
  intro e he
  obtain ⟨strategy, htask⟩ := h e he
  rw [htask]
  exact Canary.alarms_start engine spec

theorem alarms_wait (h : Staffs engine spec set) :
    ∀ e ∈ set.entries, e.task.wait.run.Alarms replies allowed := by
  intro e he
  obtain ⟨strategy, htask⟩ := h e he
  rw [htask]
  exact Canary.alarms_wait engine spec strategy

theorem alarms_stop (h : Staffs engine spec set) (admits : Admits replies allowed) :
    ∀ e ∈ set.entries, e.task.stop.run.Alarms replies allowed := by
  intro e he
  obtain ⟨strategy, htask⟩ := h e he
  rw [htask]
  exact Canary.alarms_stop engine spec admits strategy

end Canary.Staffs

end GatedRollout
