import GatedRollout.Proofs.Canary.Conduct
import GatedRollout.Proofs.Process.Requests

/-!
# What canaries ask for

The start of a canary launches, its wait reads and registers, and its stop releases and reads; so do
the starts, the waits and the stops of a set of canaries.
-/

namespace GatedRollout

namespace Canary

variable (engine : Engine) (spec : LaunchSpec)

theorem asks_start : (start engine spec).run.Asks Launches :=
  conforms_start engine spec (fun _ _ _ => trivial)
    (conforms_launchOn engine spec (fun _ h => h) []) fun _ _ _ => trivial

theorem asks_wait (strategy : Strategy) : (task engine spec strategy).wait.run.Asks Waits :=
  conforms_wait engine spec (fun _ h => h) (fun _ _ _ => trivial) strategy fun _ _ _ _ => trivial

theorem asks_stop (strategy : Strategy) : (task engine spec strategy).stop.run.Asks Stops :=
  conforms_stop engine spec (fun _ h => h) (fun _ _ _ => trivial) (fun _ _ => trivial)
    (fun _ _ _ => trivial) (fun _ _ _ _ => trivial) strategy

end Canary

/-! ## Sets -/

namespace CanarySet

variable {ι : Interface} {S σ : Type} {env : Environment ι S} {token : Token}
  {ok : ι.Request → Prop} {set : CanarySet ι σ} {w : World ι S}

/-- Other states leave the tasks as they are. -/
theorem mem_withStates {states : List σ} {e : Entry ι σ}
    (h : e ∈ (set.withStates states).entries) : ∃ e₀ ∈ set.entries, e.task = e₀.task := by
  obtain ⟨i, hi, rfl⟩ := List.mem_mapIdx.mp h
  exact ⟨_, List.getElem_mem hi, rfl⟩

theorem concerns_startFrom (entries : List (Entry ι σ)) :
    ∀ (i : Nat) (w : World ι S), (∀ e ∈ entries, e.task.start.run.Asks ok) →
      World.Concerns ok w (startFrom env token i entries w).world := by
  induction entries with
  | nil => exact fun _ w _ => World.Concerns.refl w
  | cons e rest ih =>
      intro i w h
      have hbegun := (h e List.mem_cons_self).run env token (some i) e.state
        (World.Concerns.refl w)
      simp only [startFrom]
      split
      · exact hbegun.trans (ih _ _ fun e' he' => h e' (List.mem_cons_of_mem _ he'))
      · exact hbegun

theorem concerns_start (h : ∀ e ∈ set.entries, e.task.start.run.Asks ok) :
    World.Concerns ok w (set.start env token w).world :=
  concerns_startFrom set.entries 0 w h

theorem concerns_wait (h : ∀ e ∈ set.entries, e.task.wait.run.Asks ok) :
    World.Concerns ok w (set.wait env token w).world := by
  refine concerns_fanOutWithin none fun p hp => ?_
  obtain ⟨e, he, rfl⟩ := List.mem_map.mp hp
  exact h e he

theorem concerns_cleanupWithin (h : ∀ e ∈ set.entries, e.task.stop.run.Asks ok)
    (budget : Duration) : World.Concerns ok w (set.cleanupWithin env token budget w).world := by
  refine concerns_fanOutWithin _ fun p hp => ?_
  obtain ⟨e, he, rfl⟩ := List.mem_map.mp hp
  exact h e he

end CanarySet

namespace Canary

/-- The tasks of a set are canaries of this kind. -/
def Staffs (engine : Engine) (spec : LaunchSpec) (set : CanarySet controlPlane State) : Prop :=
  ∀ e ∈ set.entries, ∃ strategy, e.task = task engine spec strategy

section Staffs

variable {S : Type} {engine : Engine} {spec : LaunchSpec} {set : CanarySet controlPlane State}

theorem staffs_set (engine : Engine) (taskDefinition : TaskDefinition)
    (attachments : Attachments) : Staffs engine (.canary engine taskDefinition attachments)
      (Canary.set engine taskDefinition attachments) := by
  intro e he
  obtain ⟨strategy, -, rfl⟩ := List.mem_map.mp he
  exact ⟨strategy, rfl⟩

theorem Staffs.withStates (h : Staffs engine spec set) (states : List State) :
    Staffs engine spec (set.withStates states) := by
  intro e he
  obtain ⟨e₀, he₀, htask⟩ := CanarySet.mem_withStates he
  rw [htask]
  exact h e₀ he₀

theorem Staffs.asks_start (h : Staffs engine spec set) :
    ∀ e ∈ set.entries, e.task.start.run.Asks Launches := by
  intro e he
  obtain ⟨strategy, htask⟩ := h e he
  rw [htask]
  exact Canary.asks_start engine spec

theorem Staffs.asks_wait (h : Staffs engine spec set) :
    ∀ e ∈ set.entries, e.task.wait.run.Asks Waits := by
  intro e he
  obtain ⟨strategy, htask⟩ := h e he
  rw [htask]
  exact Canary.asks_wait engine spec strategy

theorem Staffs.asks_stop (h : Staffs engine spec set) :
    ∀ e ∈ set.entries, e.task.stop.run.Asks Stops := by
  intro e he
  obtain ⟨strategy, htask⟩ := h e he
  rw [htask]
  exact Canary.asks_stop engine spec strategy

variable (env : Environment controlPlane S) (token : Token) (w : World controlPlane S)

theorem Staffs.start (h : Staffs engine spec set) :
    Staffs engine spec (set.start env token w).state := h.withStates _

theorem Staffs.wait (h : Staffs engine spec set) :
    Staffs engine spec (set.wait env token w).state := h.withStates _

theorem Staffs.concerns_start (h : Staffs engine spec set) :
    World.Concerns Launches w (set.start env token w).world :=
  CanarySet.concerns_start h.asks_start

theorem Staffs.concerns_wait (h : Staffs engine spec set) :
    World.Concerns Waits w (set.wait env token w).world :=
  CanarySet.concerns_wait h.asks_wait

theorem Staffs.concerns_cleanupWithin (h : Staffs engine spec set) (budget : Duration) :
    World.Concerns Stops w (set.cleanupWithin env token budget w).world :=
  CanarySet.concerns_cleanupWithin h.asks_stop budget

end Staffs

end Canary

end GatedRollout
