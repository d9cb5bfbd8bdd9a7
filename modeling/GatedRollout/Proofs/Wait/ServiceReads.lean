import GatedRollout.Proofs.Process.Ends
import GatedRollout.Proofs.Wait.Schedule

/-!
# The read that ends the wait for a service

Of the reads of a service, the first that lacks it or shows it inactive or stable ends the wait
until it is stable, and succeeds only if it shows it stable.
-/

namespace GatedRollout.Engine

variable {S σ : Type} {env : Environment controlPlane S} {token : Token} {actor : Option Nat}
  {s t : σ} {w w' : World controlPlane S}

/-- So many reads are made of a service at most within a limit. -/
def serviceReads (engine : Engine) (limit : Duration) : Nat :=
  limit.nanos ⌈/⌉ servicePollInterval.nanos + 1 + engine.patience

/-- The service is not seen, or is inactive. -/
def GoneOrInactive (seen : Option Service) : Prop :=
  ∀ service, seen = some service → service.status = .inactive

/-- The service is not seen, or is inactive, or is stable: active with a single deployment and as
many tasks as are desired. -/
def GoneOrStable (seen : Option Service) : Prop :=
  ∀ service, seen = some service → service.status = .inactive ∨
    service.status = .active ∧ service.deployments.length = 1 ∧
      service.runningCount = service.desiredCount

/-- From a world on, the service is read until a read lacks it or shows it inactive or stable. -/
abbrev FirstServiceRead (engine : Engine) (env : Environment controlPlane S) (token : Token)
    (actor : Option Nat) (name : ServiceName) (limit : Duration) (w : World controlPlane S)
    (seen : Option Service) (w' : World controlPlane S) : Prop :=
  FirstRead (ι := controlPlane) env token actor (engine.serviceRead name) servicePollInterval
    ⟨w.clock, limit⟩ GoneOrStable (engine.serviceReads limit) w seen w'

variable (engine : Engine) (name : ServiceName) (limit : Duration)

/-! ## Stable -/

theorem serviceStable_returned_iff {result : Except WaitError Service} :
    run env token actor (engine.serviceStable name limit).run s w = ⟨.returned result, t, w'⟩ ↔
      t = s ∧ (stableRules name limit).Ends (ι := controlPlane) (r := engine.serviceRead name) env
        token actor (.error .cancelled) ⟨w.clock, limit⟩ (engine.serviceReads limit) [] w result
        w' :=
  (engine.stable_describe name limit).run_returned_iff (engine.serviceStable_run name limit)

theorem decides_stable_iff {earlier : List (Option Service)} {reply : Option Service}
    {service : Service} :
    (stableRules name limit).decides earlier reply = some (.ok service) ↔
      reply = some service ∧ service.status = .active ∧ service.deployments.length = 1 ∧
        service.runningCount = service.desiredCount := by
  cases reply with
  | none => simp [stableRules]
  | some seen =>
      simp only [stableRules]
      grind

theorem goneOrStable_iff {reply : Option Service} :
    GoneOrStable reply ↔ (stableRules name limit).decides [] reply ≠ none := by
  cases reply with
  | none => simp [stableRules, GoneOrStable]
  | some seen =>
      simp only [stableRules, GoneOrStable]
      grind

/-- The wait succeeds exactly if the first read that lacks the service or shows it inactive or
stable shows it stable. -/
theorem serviceStable_ok_iff {service : Service} :
    run env token actor (engine.serviceStable name limit).run s w =
        ⟨.returned (.ok service), t, w'⟩ ↔
      t = s ∧ (service.status = .active ∧ service.deployments.length = 1 ∧
          service.runningCount = service.desiredCount) ∧
        engine.FirstServiceRead env token actor name limit w (some service) w' := by
  refine (engine.serviceStable_returned_iff name limit).trans (and_congr_right fun _ => ⟨?_, ?_⟩)
  · intro hends
    obtain ⟨reply, hfirst, hdecides⟩ := hends.firstRead (fun _ _ => rfl)
      (fun _ => goneOrStable_iff name limit) nofun nofun nofun
    obtain ⟨rfl, hstable⟩ := (decides_stable_iff name limit).mp hdecides
    exact ⟨hstable, hfirst⟩
  · rintro ⟨hstable, hfirst⟩
    exact Rules.ends_of_firstRead (fun _ _ => rfl) (fun _ => goneOrStable_iff name limit) hfirst
      ((decides_stable_iff name limit).mpr ⟨rfl, hstable⟩) []

/-! ## Inactive -/

theorem serviceInactive_returned_iff {result : Except WaitError Unit} :
    run env token actor (engine.serviceInactive name limit).run s w = ⟨.returned result, t, w'⟩ ↔
      t = s ∧ (inactiveRules name limit).Ends (ι := controlPlane) (r := engine.serviceRead name)
        env token actor (.error .cancelled) ⟨w.clock, limit⟩ (engine.serviceReads limit) [] w
        result w' :=
  (engine.inactive_describe name limit).run_returned_iff (engine.serviceInactive_run name limit)

end GatedRollout.Engine
