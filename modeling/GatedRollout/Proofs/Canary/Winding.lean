import GatedRollout.Proofs.Canary.Extent
import GatedRollout.Proofs.Canary.Set
import GatedRollout.Proofs.Wait.Await

/-!
# How canaries wind down

Once the token has fired no canary is launched any more. The wait of a canary pauses before its
first request, so it makes none if it finds the token fired there, and at most nine if the token
fires in a request, however it is verified.
-/

namespace GatedRollout

namespace Canary

open Attempt

variable (engine : Engine) (spec : LaunchSpec) {limit fired unfired : Nat} {b b' : Budget}

/-! ## The moves of a canary -/

theorem winds_taskArn : taskArn.Winds free limit b b := by
  refine .state_then fun s => ?_
  cases s.handle.taskArn with
  | some arn => exact .pure arn
  | none => exact .throw _

theorem winds_setPhase (phase : Phase) : (setPhase phase).Winds free limit b b := .modify _

theorem winds_settle {α : Type} {move : Move α} (h : move.Winds free limit b b') (phase : Phase) :
    (settle move phase).Winds free limit b b' :=
  Process.Winds.bind h fun _ => .look fun _ => .put fun _ _ hv => hv

theorem winds_launchOn (overrides : List ContainerOverride) (placement : Placement)
    (hbudget : fired ≤ unfired) : (launchOn engine spec overrides placement).Winds free limit
      ⟨fired + 1, unfired⟩ ⟨fired, unfired⟩ := by
  cases placement with
  | onDemand => exact .ask rfl hbudget _
  | pinned host => exact .ask rfl hbudget _

theorem winds_launch (overrides : List ContainerOverride) (hbudget : fired ≤ unfired) :
    (launch engine spec overrides).Winds free limit ⟨fired + 1, unfired⟩ ⟨fired, unfired⟩ := by
  refine .state_then fun s => ?_
  dsimp only
  split
  · exact (Attempt.Winds.pure _).weaken (Nat.le_succ fired) (Nat.le_refl unfired)
  · refine .bind (winds_setPhase .starting) fun _ => ?_
    refine .bind (winds_launchOn engine spec overrides _ hbudget) fun task => ?_
    exact .bind (.modify _) fun _ => .pure _

/-- A start that finds the token fired launches nothing. -/
theorem winds_start : (start engine spec).Winds free limit .spent .spent := by
  refine winds_settle (.cancelled_then 1 0 (.throw _) ?_) .starting
  exact .bind (winds_launch engine spec [] (Nat.le_refl 0)) fun _ => .pure _

theorem winds_waitRunning (fired : Nat) (hbudget : fired ≤ limit) :
    (waitRunning engine).Winds free limit ⟨0, limit⟩ ⟨fired, limit⟩ := by
  refine .bind winds_taskArn fun arn => .bind (.rest _ _ (fired + 1)) fun _ => ?_
  refine .bind (.within (engine.winds_await _ rfl hbudget) _) fun task => ?_
  exact .bind (winds_setPhase .running) fun _ => .pure task

theorem winds_ensureRunning (hbudget : fired ≤ unfired) :
    (ensureRunning engine).Winds free limit ⟨fired + 1, unfired⟩ ⟨fired, unfired⟩ := by
  refine .bind winds_taskArn fun arn => .bind ?_ fun seen => .known _
  exact .bind (.ask rfl hbudget _) fun tasks => .pure _

theorem winds_waitContainerHealth (hbudget : fired ≤ unfired) :
    (waitContainerHealth engine spec).Winds free limit ⟨fired + 1, unfired⟩ ⟨fired, unfired⟩ := by
  refine .bind winds_taskArn fun arn => ?_
  dsimp only
  split
  · exact (Attempt.Winds.pure _).weaken (Nat.le_succ fired) (Nat.le_refl unfired)
  · refine .watch_then rfl hbudget (.throw _) fun watched => ?_
    cases watched with
    | settled result => exact .known result
    | _ => exact .throw _

theorem winds_networkIdentity (task : Task) (hbudget : fired + 2 ≤ unfired) :
    (networkIdentity engine task).Winds free limit ⟨fired + 3, unfired⟩ ⟨fired, unfired⟩ := by
  refine .state_then fun s => ?_
  cases s.handle.placement with
  | onDemand =>
      refine .bind (.known _) fun address => .bind (.ask rfl hbudget _) fun subnet => ?_
      exact (Attempt.Winds.pure _).weaken (by simp) (Nat.le_refl unfired)
  | pinned host =>
      refine .bind (.ask rfl hbudget _) fun container => ?_
      refine .bind (.ask rfl (by omega) _) fun machine => ?_
      exact .bind (.ask rfl (by omega) _) fun subnet => .pure _

/-! ## The strategies -/

theorem winds_verifyIdle (hlimit : 2 ≤ limit) :
    (verifyIdle engine spec).Winds free limit ⟨0, limit⟩ ⟨0, limit⟩ := by
  refine .bind (winds_waitRunning engine 2 hlimit) fun _ => ?_
  refine .bind (winds_waitContainerHealth engine spec (by omega)) fun _ => ?_
  refine .bind (winds_setPhase .verifying) fun _ => .bind winds_taskArn fun _ => ?_
  exact .idle_then (.throw _) (.bind (winds_ensureRunning engine (Nat.zero_le _)) fun _ => .pure ())

theorem winds_verifyTarget (balancer : LoadBalancer) (hlimit : 6 ≤ limit) :
    (verifyTarget engine spec balancer).Winds free limit ⟨0, limit⟩ ⟨0, limit⟩ := by
  refine .bind (winds_waitRunning engine 6 hlimit) fun task => ?_
  refine .bind (winds_waitContainerHealth engine spec (by omega)) fun _ => ?_
  refine .bind (winds_setPhase .verifying) fun _ => .bind (.known _) fun port => ?_
  refine .bind (winds_networkIdentity engine task (by omega)) fun identity => ?_
  refine .bind (.ask rfl (by omega) _) fun _ => .bind (.modify _) fun _ => ?_
  refine .watch_then rfl (Nat.zero_le _) (.throw _) fun watched => ?_
  cases watched with
  | settled result => exact .known result
  | _ => exact .throw _

theorem winds_verifyInstance (registry : ServiceRegistry) (hlimit : 9 ≤ limit) :
    (verifyInstance engine spec registry).Winds free limit ⟨0, limit⟩ ⟨0, limit⟩ := by
  refine .bind (winds_waitRunning engine 9 hlimit) fun task => ?_
  refine .bind (winds_waitContainerHealth engine spec (by omega)) fun _ => ?_
  refine .bind (winds_setPhase .verifying) fun _ => .bind (.ask rfl (by omega) _) fun service => ?_
  refine .bind (.ask rfl (by omega) _) fun domain => .bind (.known _) fun port => ?_
  refine .bind (winds_networkIdentity engine task (by omega)) fun identity => ?_
  refine .bind (.ask rfl (by omega) _) fun _ => .bind (.modify _) fun _ => ?_
  refine .bind (.ask rfl (by omega) _) fun _ => ?_
  refine .watch_then rfl (Nat.zero_le _) (.throw _) fun watched => ?_
  cases watched with
  | settled u => exact .pure ()
  | _ => exact .throw _

/-- Nine requests are what a registry takes: the health gate, two to read the registry, three for
the address, two to register and one to be found. -/
theorem winds_verify (strategy : Strategy) (hlimit : 9 ≤ limit) :
    (verify engine spec strategy).Winds free limit ⟨0, limit⟩ ⟨0, limit⟩ := by
  cases strategy with
  | standalone => exact winds_verifyIdle engine spec (by omega)
  | loadBalanced balancer => exact winds_verifyTarget engine spec balancer (by omega)
  | registry registry => exact winds_verifyInstance engine spec registry hlimit

theorem winds_wait (strategy : Strategy) (hlimit : 9 ≤ limit) :
    (task engine spec strategy).wait.Winds free limit ⟨0, limit⟩ ⟨0, limit⟩ :=
  winds_settle (winds_verify engine spec strategy hlimit) .verified

end Canary

/-! ## Sets -/

namespace CanarySet

variable {ι : Interface} {S σ : Type} {limit : Option Nat → Nat} {earlier w : World ι S}

theorem winds_startFrom {cost : ι.Request → Nat} (env : Environment ι S)
    (entries : List (Entry ι σ))
    (h : ∀ e ∈ entries, ∀ l, e.task.start.Winds cost l .spent .spent) :
    ∀ (i : Nat) (w : World ι S), World.Winds cost limit earlier w →
      World.Winds cost limit earlier (startFrom env .caller i entries w).world := by
  induction entries with
  | nil => exact fun i w hw => hw
  | cons e rest ih =>
      intro i w hw
      obtain ⟨v, hsees, haffords⟩ := hw
      have hstart := h e List.mem_cons_self (limit (some i))
      obtain ⟨v', hsees', haffords', -⟩ :=
        World.Winds.run hstart env e.state hsees haffords (haffords (some i))
      simp only [startFrom]
      split
      · refine ih (fun e' he' => h e' (List.mem_cons_of_mem e he')) (i + 1) _ ?_
        exact ⟨v', hsees', haffords'⟩
      · exact ⟨v', hsees', haffords'⟩

theorem winds_wait (env : Environment ι S) {set : CanarySet ι σ}
    (h : ∀ (i : Nat) (e : Entry ι σ), set.entries[i]? = some e →
      let unspent : Budget := ⟨0, limit (some i)⟩
      e.task.wait.Winds free (limit (some i)) unspent unspent)
    (hw : World.Winds free limit earlier w) :
    World.Winds free limit earlier (set.wait env .caller w).world := by
  obtain ⟨v, hsees, haffords⟩ := hw
  let crew := set.entries.map fun e => (e.task.wait.run, e.state)
  have hwinds : ∀ (i : Nat) (p : Process ι σ (Except TaskError Unit)) (s : σ),
      crew[i]? = some (p, s) →
        p.Winds free (limit (some i)) ⟨0, limit (some i)⟩ (Attempt.left ⟨0, limit (some i)⟩) ∧
          (v.deedsOf (some i)).Affords free (limit (some i)) ⟨0, limit (some i)⟩ := by
    intro i p s hi
    obtain ⟨e, he, rfl, rfl⟩ := exists_of_crew hi
    exact ⟨h i e he, (haffords (some i)).refill (Nat.le_refl 0) (Nat.le_refl _)⟩
  obtain ⟨v', hsees', hcrew⟩ := affords_fanOut env hsees hwinds
  have hsecured := secured_wait env .caller (Crew.secures_visits crew w)
  refine ⟨v', hsees', fun actor => ?_⟩
  by_cases hmember : ∃ i < set.entries.length, actor = some i
  · obtain ⟨i, hi, rfl⟩ := hmember
    exact hcrew i (by simpa [crew] using hi)
  · have hsame := hsecured.others actor fun i hi hsome => hmember ⟨i, hi, hsome⟩
    exact (haffords actor).lasts (hsees.onward hsees' hsecured.follows hsame)

end CanarySet

end GatedRollout
