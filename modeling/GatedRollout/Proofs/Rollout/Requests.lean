import GatedRollout.Proofs.Canary.Requests
import GatedRollout.Proofs.Rollout.Body

/-!
# What a rollout asks for

The body of a rollout proceeds from its start to its wait and from there to the update, and each
part of it asks for what has its own role: to launch, to read and register, to update and read. What
is let go of is let go of in the cleanup alone.
-/

namespace GatedRollout

/-- The same ending, with the error of a failure seen from further away. -/
def Ending.mapError {ε ε' α : Type} (wrap : ε → ε') : Ending (Except ε α) → Ending (Except ε' α)
  | .returned result => .returned (result.mapError wrap)
  | .panicked message => .panicked message
  | .hung => .hung

theorem Ending.of_mapError {ε ε' α : Type} {wrap : ε → ε'} {ending : Ending (Except ε α)}
    {result : Except ε' α} (h : ending.mapError wrap = .returned result) :
    ∃ inner, ending = .returned inner ∧ result = inner.mapError wrap := by
  cases ending with
  | returned inner =>
      cases h
      exact ⟨inner, rfl, rfl⟩
  | panicked message => cases h
  | hung => cases h

namespace Rollout

open Canary

variable {S σ : Type} (rollout : Rollout) (scope : RolloutScope) (env : Environment controlPlane S)
  (progress : Progress)

/-! ## The parts of a body -/

/-- How far a body went: its canaries did not all start, or were not all verified, or it came to the
update. -/
inductive Proceeds (canaries : CanarySet controlPlane Canary.State) (w : World controlPlane S)
    (body : Body S) : Prop
  | unstarted (stopped : (canaries.start env .caller w).ending ≠ .returned (.ok ()))
      (body_eq : body =
        let started := canaries.start env .caller w
        ⟨started.ending.mapError .startCanary, progress, started.state, started.world⟩)
  | unverified (started : (canaries.start env .caller w).ending = .returned (.ok ()))
      (stopped : ((canaries.start env .caller w).state.wait env .caller
        (canaries.start env .caller w).world).ending ≠ .returned (.ok ()))
      (body_eq : body =
        let started := canaries.start env .caller w
        let waited := started.state.wait env .caller started.world
        ⟨waited.ending.mapError .verifyCanary, progress, waited.state, waited.world⟩)
  | updating (started : (canaries.start env .caller w).ending = .returned (.ok ()))
      (verified : ((canaries.start env .caller w).state.wait env .caller
        (canaries.start env .caller w).world).ending = .returned (.ok ()))
      (body_eq : body =
        let started := canaries.start env .caller w
        let waited := started.state.wait env .caller started.world
        let updated := run env .caller none (rollout.updateService scope).run progress waited.world
        ⟨updated.ending, updated.state, waited.state, updated.world⟩)

theorem proceeds_verifyAndUpdate (canaries : CanarySet controlPlane Canary.State)
    (w : World controlPlane S) :
    rollout.Proceeds scope env progress canaries w
      (rollout.verifyAndUpdate env scope progress canaries w) := by
  unfold verifyAndUpdate
  dsimp only
  split
  · next h => exact .unstarted (by simp [h]) (by dsimp only; rw [h]; rfl)
  · next h => exact .unstarted (by simp [h]) (by dsimp only; rw [h]; rfl)
  · next h => exact .unstarted (by simp [h]) (by dsimp only; rw [h]; rfl)
  · next started =>
      split
      · next h => exact .unverified started (by simp [h]) (by dsimp only; rw [h]; rfl)
      · next h => exact .unverified started (by simp [h]) (by dsimp only; rw [h]; rfl)
      · next h => exact .unverified started (by simp [h]) (by dsimp only; rw [h]; rfl)
      · next verified => exact .updating started verified rfl

/-- A body that succeeds ends with its update. -/
theorem Proceeds.updated {rollout : Rollout} {scope : RolloutScope}
    {env : Environment controlPlane S} {progress : Progress}
    {canaries : CanarySet controlPlane Canary.State} {w : World controlPlane S} {body : Body S}
    (h : rollout.Proceeds scope env progress canaries w body)
    (hok : body.ending = .returned (.ok ())) :
    ∃ v, (run env .caller none (rollout.updateService scope).run progress v).ending =
      .returned (.ok ()) := by
  cases h with
  | unstarted stopped body_eq =>
      subst body_eq
      obtain ⟨inner, hinner, hresult⟩ := Ending.of_mapError hok
      cases inner with
      | ok u => exact absurd hinner stopped
      | error e => cases hresult
  | unverified started stopped body_eq =>
      subst body_eq
      obtain ⟨inner, hinner, hresult⟩ := Ending.of_mapError hok
      cases inner with
      | ok u => exact absurd hinner stopped
      | error e => cases hresult
  | updating started verified body_eq =>
      subst body_eq
      exact ⟨_, hok⟩

/-! ## Requests -/

/-- What the update asks for. -/
def Applies (r : ControlPlane.Request) : Prop := r.role = .changes ∨ r.role = .reads

theorem asks_resolveAttachments : (rollout.resolveAttachments scope : Activity σ _ _).run.Asks
    (fun r : ControlPlane.Request =>
      r = .describeService rollout.engine.cluster rollout.engine.service) :=
  rollout.conforms_resolveAttachments scope (by rfl)

theorem asks_updateService : (rollout.updateService scope).run.Asks Applies :=
  rollout.conforms_updateService scope (Or.inl rfl) (Or.inr rfl) fun _ _ => trivial

variable {rollout scope env progress} {engine : Engine} {spec : LaunchSpec}
  {canaries : CanarySet controlPlane State} {w : World controlPlane S} {body : Body S}

/-- The canaries of a body are those that it was begun with. -/
theorem Proceeds.staffs (h : rollout.Proceeds scope env progress canaries w body)
    (hstaffs : Staffs engine spec canaries) : Staffs engine spec body.canaries := by
  have hstarted := hstaffs.start env .caller w
  have hwaited := hstarted.wait env .caller (canaries.start env .caller w).world
  cases h with
  | unstarted _ body_eq => exact body_eq ▸ hstarted
  | unverified _ _ body_eq => exact body_eq ▸ hwaited
  | updating _ _ body_eq => exact body_eq ▸ hwaited

/-- What a rollout asks for until its cleanup: it lets go of nothing. -/
def Retains (r : ControlPlane.Request) : Prop := r.role ≠ .releases

instance (e : Event controlPlane) : Decidable (e.Concerns Retains) :=
  match e with
  | .issued r => inferInstanceAs (Decidable (r.role ≠ .releases))
  | .returned r _ => inferInstanceAs (Decidable (r.role ≠ .releases))
  | .slept _ => isTrue trivial
  | .fired => isTrue trivial

theorem retains_of_launches (r : ControlPlane.Request) (h : Launches r) : Retains r := by
  simp [Retains, show r.role = .launches from h]

theorem retains_of_waits (r : ControlPlane.Request) (h : Waits r) : Retains r := by
  rcases h with h | h <;> simp [Retains, h]

theorem retains_of_applies (r : ControlPlane.Request) (h : Applies r) : Retains r := by
  rcases h with h | h <;> simp [Retains, h]

/-- So does the description of the service. -/
theorem asks_resolve (rollout : Rollout) (scope : RolloutScope) :
    (rollout.resolveAttachments scope : Activity σ _ _).run.Asks Retains :=
  (asks_resolveAttachments rollout scope).mono fun r hr => by
    simp [hr, Retains, ControlPlane.Request.role]

theorem Proceeds.concerns (h : rollout.Proceeds scope env progress canaries w body)
    (hstaffs : Staffs engine spec canaries) : World.Concerns Retains w body.world := by
  have hstarted := (hstaffs.concerns_start env .caller w).mono retains_of_launches
  have hwaited := hstarted.trans (((hstaffs.start env .caller w).concerns_wait env .caller _).mono
    retains_of_waits)
  cases h with
  | unstarted _ body_eq => exact body_eq ▸ hstarted
  | unverified _ _ body_eq => exact body_eq ▸ hwaited
  | updating _ _ body_eq =>
      have hupdate := (asks_updateService rollout scope).mono retains_of_applies
      exact body_eq ▸ hupdate.run env .caller none progress hwaited

/-! ## Bodies that are reached -/

/-- Before there are canaries, a rollout asks at most for the description of its service. -/
theorem concerns_resolve (rollout : Rollout) (scope : RolloutScope)
    (env : Environment controlPlane S) (progress : Progress) (w : World controlPlane S) :
    World.Concerns (fun r : ControlPlane.Request =>
        r = .describeService rollout.engine.cluster rollout.engine.service) w
      (rollout.resolve env scope progress w).world :=
  (asks_resolveAttachments rollout scope).run env .caller none _ (World.Concerns.refl w)

theorem concerns_cleanUp (rollout : Rollout) (env : Environment controlPlane S) (body : Body S)
    (h : Staffs engine spec body.canaries) :
    World.Concerns Stops body.world (rollout.cleanUp env body).world :=
  h.concerns_cleanupWithin env .shielded body.world rollout.engine.config.canary.cleanupTimeout

variable {attachments : Attachments}

/-! ## The stages of a rollout -/

section Stages

variable (rollout scope env progress w attachments)

/-- The start of the canaries in a rollout that has found these attachments. -/
abbrev begun : CanarySet.Outcome controlPlane S State :=
  (Canary.set rollout.engine rollout.taskDefinition attachments).start env .caller
    (rollout.resolve env scope progress w).world

/-- The wait for the canaries, once they are started. -/
abbrev awaited : CanarySet.Outcome controlPlane S State :=
  (rollout.begun scope env progress w attachments).state.wait env .caller
    (rollout.begun scope env progress w attachments).world

/-- The update, once the canaries are verified. -/
abbrev renewed : Aftermath controlPlane S Progress (Except RolloutError Unit) :=
  run env .caller none (rollout.updateService scope).run
    (rollout.resolve env scope progress w).state
    (rollout.awaited scope env progress w attachments).world

theorem concerns_begun : World.Concerns Launches (rollout.resolve env scope progress w).world
    (rollout.begun scope env progress w attachments).world :=
  (staffs_set rollout.engine rollout.taskDefinition attachments).concerns_start ..

theorem concerns_awaited : World.Concerns Waits
    (rollout.begun scope env progress w attachments).world
    (rollout.awaited scope env progress w attachments).world :=
  ((staffs_set rollout.engine rollout.taskDefinition attachments).start env .caller
    _).concerns_wait ..

theorem follows_renewed : (rollout.renewed scope env progress w attachments).world.Follows
    (rollout.awaited scope env progress w attachments).world :=
  run_follows ..

end Stages

theorem ne_changes_of_launches (r : ControlPlane.Request) (h : Launches r) : r.role ≠ .changes := by
  simp [show r.role = .launches from h]

theorem ne_changes_of_waits (r : ControlPlane.Request) (h : Waits r) : r.role ≠ .changes := by
  rcases h with h | h <;> simp [h]

theorem ne_changes_of_stops (r : ControlPlane.Request) (h : Stops r) : r.role ≠ .changes := by
  rcases h with h | h <;> simp [h]

theorem Reaches.proceeds (h : rollout.Reaches scope env progress w attachments body) :
    rollout.Proceeds scope env (rollout.resolve env scope progress w).state
      (Canary.set rollout.engine rollout.taskDefinition attachments)
      (rollout.resolve env scope progress w).world body :=
  h.body_eq ▸ rollout.proceeds_verifyAndUpdate scope env _ _ _

theorem Reaches.staffs (h : rollout.Reaches scope env progress w attachments body) :
    Staffs rollout.engine (.canary rollout.engine rollout.taskDefinition attachments)
      body.canaries :=
  h.proceeds.staffs (staffs_set rollout.engine rollout.taskDefinition attachments)

theorem Reaches.concerns (h : rollout.Reaches scope env progress w attachments body) :
    World.Concerns Retains (rollout.resolve env scope progress w).world body.world :=
  h.proceeds.concerns (staffs_set rollout.engine rollout.taskDefinition attachments)

end Rollout

end GatedRollout
