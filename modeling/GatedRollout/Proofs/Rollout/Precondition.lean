import GatedRollout.Proofs.Rollout.Completion
import GatedRollout.Proofs.Rollout.Extent

/-!
# Rollouts onto a service that is not there

A rollout that borrows its attachments from the live service looks at the service first, and ends
there with a failed precondition where the service is gone or inactive. One that borrows them from a
pending definition does not look: it fails without a definition, and with one it goes on to its
canaries and finds out once it waits for its update.
-/

namespace GatedRollout.Rollout

open Canary

variable {S : Type} {rollout : Rollout} {env : Environment controlPlane S} {progress : Progress}
  {w : World controlPlane S}

/-- Whenever it is asked, the control plane describes the service as gone or inactive. -/
def Missing (env : Environment controlPlane S) (cluster : String) (service : ServiceName) : Prop :=
  ∀ s now, ∃ found, (env.react s now (.describeService cluster service)).1.effect =
    .answer (.ok found) ∧ ∀ live, found = some live → live.isInactive = true

theorem Missing.answer {cluster : String} {service : ServiceName} (h : Missing env cluster service)
    (s : S) (now : Instant) (answer : Except ClientError (Option Service))
    (hanswer : (env.react s now (.describeService cluster service)).1.effect = .answer answer) :
    ∀ live, answer = .ok (some live) → live.isInactive = true := by
  obtain ⟨found, hfound, hinactive⟩ := h s now
  rw [hfound] at hanswer
  rintro live rfl
  cases hanswer
  exact hinactive live rfl

theorem liveAttachments_missing (service : ServiceName) {found : Option Service}
    (h : ∀ live, found = some live → live.isInactive = true) :
    liveAttachments service found =
      .error (if found.isSome then .serviceInactive service else .serviceNotFound service) := by
  cases found with
  | none => rfl
  | some live => exact if_pos (h live rfl)

/-- A rollout without attachments ends as their resolution did. -/
theorem rollOut_of_unresolved {scope : RolloutScope} {e : RolloutError}
    (h : (rollout.resolve env scope progress w).ending = .returned (.error e)) :
    (rollout.rollOut env scope progress w).ending = .returned (.error e) ∧
      (rollout.rollOut env scope progress w).world =
        (rollout.resolve env scope progress w).world := by
  unfold rollOut
  dsimp only
  rw [h]
  exact ⟨rfl, rfl⟩

/-- A rollout that looks at the service ends with what it finds. -/
theorem resolve_missing (h : Missing env rollout.engine.cluster rollout.engine.service) :
    ∃ e found, (rollout.resolve env .taskDefinition progress w).ending = .returned (.error e) ∧
      e.kind = .precondition ∧
        calls (fun _ => true) ((rollout.resolve env .taskDefinition progress w).world.since w) =
          rollout.described (.ok found) := by
  let r : ControlPlane.Request :=
    .describeService rollout.engine.cluster rollout.engine.service
  obtain ⟨found, hfound, hinactive⟩ := h w.env w.clock
  have hissued : (w.issue env none r).1.effect = .answer (.ok found) := hfound
  have hending : (rollout.resolve env .taskDefinition progress w).ending =
      .returned (liveAttachments rollout.engine.service found) := by
    change (run env .caller none (.call r _) _ w).ending = _
    rw [run_call]
    dsimp only
    rw [hissued]
    rfl
  rw [liveAttachments_missing rollout.engine.service hinactive] at hending
  have hextent := resolve_extent rollout .taskDefinition env progress w hending
  cases found with
  | none => exact ⟨_, none, hending, rfl, hextent⟩
  | some live =>
      obtain ⟨live, -, hcalls⟩ := hextent
      exact ⟨_, some live, hending, rfl, hcalls⟩

theorem resolve_undefined (hpending : rollout.pending = none) :
    ∃ e, (rollout.resolve env .configuration progress w).ending = .returned (.error e) ∧
      e.kind = .precondition ∧
        calls (fun _ => true) ((rollout.resolve env .configuration progress w).world.since w) =
          [] := by
  have hending : (rollout.resolve env .configuration progress w).ending =
      .returned (.error .missingServiceDefinition) := by
    unfold resolve resolveAttachments
    rw [hpending]
    rfl
  exact ⟨_, hending, rfl, resolve_extent rollout .configuration env progress w hending⟩

/-- No update of a service that is missing is ever seen to be complete. -/
theorem updateService_missing (h : Missing env rollout.engine.cluster rollout.engine.service)
    (scope : RolloutScope) :
    (run env .caller none (rollout.updateService scope).run progress w).ending ≠
      .returned (.ok ()) := by
  intro hok
  obtain ⟨y, hy, hsecured⟩ := (secures_completion rollout scope progress).run env .caller none
    (List.append_nil (w.deeds none)).symm
  rw [hok] at hsecured
  obtain ⟨watched, service, hcompletes⟩ := hsecured rfl
  obtain ⟨y', hy', hgiven⟩ := answers_run (ι := controlPlane)
    (r := .describeService rollout.engine.cluster rollout.engine.service) h.answer .caller none
    (rollout.updateService scope).run progress w
  obtain rfl : y' = y := List.append_cancel_left (hy'.symm.trans hy)
  have hinactive := hgiven (.ok (some service)) (by rw [hcompletes.deeds]; simp) service rfl
  rw [Service.isInactive, hcompletes.active] at hinactive
  cases hinactive

/-- Where the service is gone or inactive no rollout succeeds. One that looks at the service first,
or has no definition to look at instead, fails its precondition and makes no other call than to
look. -/
theorem rollOut_requires_service (rollout : Rollout) (scope : RolloutScope)
    (env : Environment controlPlane S) (progress : Progress) (w : World controlPlane S)
    (h : Missing env rollout.engine.cluster rollout.engine.service) :
    let out := rollout.rollOut env scope progress w
    let trace := calls (fun _ => true) (out.world.since w)
    out.ending ≠ .returned (.ok ()) ∧
      (scope = .taskDefinition ∨ rollout.pending = none →
        ∃ e, out.ending = .returned (.error e) ∧ e.kind = .precondition ∧
          (trace = [] ∨ ∃ found, trace = rollout.described (.ok found))) := by
  intro out trace
  refine ⟨fun hok => ?_, fun hlooks => ?_⟩
  · rcases rollOut_returned hok with ⟨e, herror, -⟩ | ⟨attachments, body, hreached, hbody, -⟩
    · cases herror
    · obtain ⟨v, hupdated⟩ := hreached.proceeds.updated hbody
      exact updateService_missing h scope hupdated
  · have hresolved : ∃ e, (rollout.resolve env scope progress w).ending = .returned (.error e) ∧
        e.kind = .precondition ∧
          let asked := calls (fun _ => true) ((rollout.resolve env scope progress w).world.since w)
          asked = [] ∨ ∃ found, asked = rollout.described (.ok found) := by
      cases scope with
      | taskDefinition =>
          obtain ⟨e, found, hending, hkind, hcalls⟩ := resolve_missing h
          exact ⟨e, hending, hkind, .inr ⟨found, hcalls⟩⟩
      | configuration =>
          rcases hlooks with hscope | hpending
          · cases hscope
          · obtain ⟨e, hending, hkind, hcalls⟩ := resolve_undefined hpending
            exact ⟨e, hending, hkind, .inl hcalls⟩
    obtain ⟨e, hending, hkind, hasked⟩ := hresolved
    obtain ⟨hended, hworld⟩ := rollOut_of_unresolved hending
    refine ⟨e, hended, hkind, ?_⟩
    rw [show trace = calls _ (World.since _ w) from rfl, hworld]
    exact hasked

/-! ## A service that is gone -/

/-- The same control plane, without the service. -/
def Bench.serviceless : Environment controlPlane Bench where
  react bench now
    | .describeService _ _ => (⟨.zero, false, 0, .answer (.ok none)⟩, bench)
    | r => Bench.environment.react bench now r
  wake := Bench.environment.wake

theorem Bench.serviceless_missing (cluster : String) (service : ServiceName) :
    Missing Bench.serviceless cluster service :=
  fun _ _ => ⟨none, rfl, nofun⟩

theorem rollOut_requires_service_sample :
    ∃ e, (sample.rollOut Bench.serviceless .taskDefinition {} Bench.world).ending =
      .returned (.error e) ∧ e.kind = .precondition := by
  obtain ⟨-, hfails⟩ := rollOut_requires_service sample .taskDefinition Bench.serviceless {}
    Bench.world (Bench.serviceless_missing _ _)
  obtain ⟨e, hending, hkind, -⟩ := hfails (.inl rfl)
  exact ⟨e, hending, hkind⟩

/-- With a pending definition the rollout launches its canary, registers it and updates the service
before it finds that there is none. -/
theorem rollOut_overlooks_missing_service :
    let definition : ServiceDefinition :=
      { serviceName := ⟨"api"⟩, loadBalancers := Bench.sample.service.loadBalancers }
    let rollout : Rollout := { sample with pending := some definition }
    let out := rollout.rollOut Bench.serviceless .configuration {} Bench.world
    let place := Place.group ⟨"targetgroup/api"⟩ ⟨"10.0.0.1", 80, some "zone-a"⟩
    Missing Bench.serviceless rollout.engine.cluster rollout.engine.service ∧
      marksOf (out.world.since Bench.world) =
        [.launched ⟨"task/prod/1"⟩, .entered place, .updated (rollout.update .configuration),
          .left place, .stopped ⟨"task/prod/1"⟩] ∧
      ∃ e, out.ending = .returned (.error e) ∧ e.kind = .serviceStability :=
  ⟨Bench.serviceless_missing _ _, by decide, _, rfl, rfl⟩

end GatedRollout.Rollout
