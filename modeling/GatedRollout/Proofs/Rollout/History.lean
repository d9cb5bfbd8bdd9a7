import GatedRollout.Proofs.Rollout.Requests

/-!
# Whether the service was ever updated

An executor may be asked for one rollout after the other, each against a control plane of its own,
with a token of its own, and whatever became of the one before. The flag of its progress says of all
of them together whether an update was ever accepted.
-/

namespace GatedRollout.Rollout

open Canary

variable {S : Type} {rollout : Rollout} {scope : RolloutScope} {env : Environment controlPlane S}
  {progress progress' progress'' : Progress} {w w' w'' : World controlPlane S}

/-! ## Accepted updates -/

/-- The control plane accepted an update of a service. -/
def Accepted (trace : List (Entry controlPlane)) : Prop :=
  ∃ e ∈ trace, ∃ update, e.event = .returned (.updateService update) (.ok ())

@[simp] theorem accepted_append {first last : List (Entry controlPlane)} :
    Accepted (first ++ last) ↔ Accepted first ∨ Accepted last := by
  simp only [Accepted, List.mem_append, or_and_right, exists_or]

theorem not_accepted_of_concerns {ok : ControlPlane.Request → Prop}
    (h : World.Concerns ok w w') (hok : ∀ r, ok r → r.role ≠ .changes) :
    ¬Accepted (w'.since w) := by
  intro haccepted
  obtain ⟨e, he, update, hevent⟩ := haccepted
  have hconcerns := h.events e he
  rw [hevent] at hconcerns
  exact hok _ hconcerns rfl

/-- The flag has become true exactly if an update was accepted meanwhile. -/
structure Tells (progress : Progress) (w : World controlPlane S) (progress' : Progress)
    (w' : World controlPlane S) : Prop where
  follows : w'.Follows w
  flag : progress'.serviceUpdated = true ↔ progress.serviceUpdated = true ∨ Accepted (w'.since w)

theorem Tells.trans (h : Tells progress w progress' w') (h' : Tells progress' w' progress'' w'') :
    Tells progress w progress'' w'' := by
  refine ⟨h.follows.trans h'.follows, ?_⟩
  rw [h'.flag, h.flag, h.follows.since_trans h'.follows, accepted_append, or_assoc]

theorem tells_of_concerns {ok : ControlPlane.Request → Prop} (h : World.Concerns ok w w')
    (hok : ∀ r, ok r → r.role ≠ .changes)
    (hflag : progress'.serviceUpdated = progress.serviceUpdated) :
    Tells progress w progress' w' := by
  refine ⟨h.follows, ?_⟩
  rw [hflag, or_iff_left (not_accepted_of_concerns h hok)]

/-! ## One rollout -/

/-- The flag, and the deeds of an update. -/
def Noted (progress progress' : Progress) (y : Deeds) : Prop :=
  progress'.serviceUpdated = true ↔
    progress.serviceUpdated = true ∨ ∃ update, .returned (.updateService update) (.ok ()) ∈ y

/-- The flag is set as soon as the update is accepted, and not otherwise. -/
theorem secures_flag (rollout : Rollout) (scope : RolloutScope) (progress : Progress) :
    Secures recorded (Noted progress) (fun _ => Noted progress)
      (rollout.updateService scope).run progress [] := by
  have hrefused : ∀ e : ClientError, Noted progress progress
      ([] ++ [.issued (.updateService (rollout.update scope))] ++
        [.returned (.updateService (rollout.update scope)) (.error e)]) := by
    simp [Noted]
  refine Secures.recorded_ask_then (by simp [Noted]) (fun accepted => ?_) hrefused
  have haccepted : ∀ es : Deeds, Noted progress { progress with serviceUpdated := true }
      ([] ++ [.issued (.updateService (rollout.update scope))] ++
        [.returned (.updateService (rollout.update scope)) (.ok accepted)] ++ es) := by
    intro es
    refine iff_of_true rfl (.inr ⟨rollout.update scope, ?_⟩)
    simp
  refine Secures.modify_then (Secures.attempt (Q := fun _ => Noted progress) ?_ ?_ ?_)
  · exact Secures.attempt_within (Engine.secures_await_recorded _ _ _
      (fun es _ => haccepted es) (fun es _ _ => haccepted es))
  · exact fun _ _ _ hnoted => Secures.attempt_pure hnoted
  · exact fun _ _ _ hnoted => hnoted

theorem accepted_iff_of_others {y : Deeds} (hfollows : w'.Follows w)
    (hothers : ∀ i, w'.deeds (some i) = w.deeds (some i))
    (hy : w'.deeds none = w.deeds none ++ y) :
    Accepted (w'.since w) ↔ ∃ update, .returned (.updateService update) (.ok ()) ∈ y := by
  have hown : deedsOf none (w'.since w) = y := hfollows.deedsOf_since hy
  have hnone : ∀ i, deedsOf (some i) (w'.since w) = [] := fun i =>
    hfollows.deedsOf_since ((hothers i).trans (List.append_nil _).symm)
  constructor
  · intro haccepted
    obtain ⟨e, he, update, hevent⟩ := haccepted
    have hmem : e.event ∈ deedsOf e.actor (w'.since w) := by
      refine List.mem_map.mpr ⟨e, List.mem_filter.mpr ⟨he, ?_⟩, rfl⟩
      simp [hevent, Event.isDeed]
    cases hactor : e.actor with
    | none =>
        rw [hactor, hown, hevent] at hmem
        exact ⟨update, hmem⟩
    | some i =>
        rw [hactor, hnone] at hmem
        cases hmem
  · intro haccepted
    obtain ⟨update, hmem⟩ := haccepted
    rw [← hown] at hmem
    obtain ⟨e, he, hevent⟩ := List.mem_map.mp hmem
    exact ⟨e, (List.mem_filter.mp he).1, update, hevent⟩

theorem tells_updateService (rollout : Rollout) (scope : RolloutScope)
    (env : Environment controlPlane S) (progress : Progress) (w : World controlPlane S) :
    let updated := run env .caller none (rollout.updateService scope).run progress w
    Tells progress w updated.state updated.world := by
  intro updated
  obtain ⟨y, hy, hsecured⟩ := (secures_flag rollout scope progress).run env .caller none
    (List.append_nil (w.deeds none)).symm
  have hothers : ∀ i, updated.world.deeds (some i) = w.deeds (some i) := fun i =>
    run_others env .caller (Option.some_ne_none i).symm ..
  have hfollows : updated.world.Follows w := run_follows ..
  refine ⟨hfollows, ?_⟩
  rw [accepted_iff_of_others hfollows hothers hy]
  exact hsecured.elim

theorem Proceeds.tells {engine : Engine} {spec : LaunchSpec} {body : Body S}
    {canaries : CanarySet controlPlane State}
    (h : rollout.Proceeds scope env progress canaries w body)
    (hstaffs : Staffs engine spec canaries) : Tells progress w body.progress body.world := by
  have hstarted : Tells progress w progress (canaries.start env .caller w).world :=
    tells_of_concerns (hstaffs.concerns_start env .caller w) ne_changes_of_launches
      rfl
  have hwaited := hstarted.trans (tells_of_concerns
    ((hstaffs.start env .caller w).concerns_wait env .caller _) ne_changes_of_waits rfl)
  cases h with
  | unstarted _ body_eq => exact body_eq ▸ hstarted
  | unverified _ _ body_eq => exact body_eq ▸ hwaited
  | updating _ _ body_eq => exact body_eq ▸ hwaited.trans (tells_updateService ..)

/-- A cleanup leaves the flag alone, whatever becomes of it. -/
theorem tells_finish {engine : Engine} {spec : LaunchSpec} {body : Body S}
    (env : Environment controlPlane S) (h : Staffs engine spec body.canaries) :
    Tells body.progress body.world (rollout.finish env body).state
      (rollout.finish env body).world := by
  have hcleaned := concerns_cleanUp rollout env body h
  refine tells_of_concerns (rollout.world_finish env body ▸ hcleaned) ne_changes_of_stops ?_
  unfold finish
  dsimp only
  split <;> rfl

theorem tells_rollOut (rollout : Rollout) (scope : RolloutScope)
    (env : Environment controlPlane S) (progress : Progress) (w : World controlPlane S) :
    let out := rollout.rollOut env scope progress w
    Tells progress w out.state out.world := by
  have hresolved : Tells progress w (rollout.resolve env scope progress w).state
      (rollout.resolve env scope progress w).world := by
    refine tells_of_concerns (concerns_resolve rollout scope env progress w)
      (fun r hr => by simp [hr, ControlPlane.Request.role]) ?_
    exact (spares_resolveAttachments rollout scope Progress.serviceUpdated).run ..
  unfold rollOut
  dsimp only
  split
  · exact hresolved
  · exact hresolved
  · exact hresolved
  · next attachments hattachments =>
      have hproceeds := rollout.proceeds_verifyAndUpdate scope env
        (rollout.resolve env scope progress w).state
        (Canary.set rollout.engine rollout.taskDefinition attachments)
        (rollout.resolve env scope progress w).world
      have hstaffs := staffs_set rollout.engine rollout.taskDefinition attachments
      have hbody := hresolved.trans (hproceeds.tells hstaffs)
      split
      · exact hbody
      · exact hbody.trans (tells_finish env (hproceeds.staffs hstaffs))

/-! ## Many rollouts -/

/-- What the caller of an executor arranges for one rollout: its input, the control plane, and when
and with what token it begins. -/
structure Call (S : Type) where
  scope : RolloutScope
  env : Environment controlPlane S
  clock : Instant
  fired : Bool
  state : S

/-- The world in which a call begins, after those before it. -/
def Call.arrange (call : Call S) (w : World controlPlane S) : World controlPlane S :=
  { w with clock := call.clock, fired := call.fired, env := call.state }

/-- The calls of an executor in their order. However one of them ended, the next goes on with the
progress that it left. -/
def rollOuts (rollout : Rollout) :
    List (Call S) → Progress → World controlPlane S → Progress × World controlPlane S
  | [], progress, w => (progress, w)
  | call :: later, progress, w =>
      let out := rollout.rollOut call.env call.scope progress (call.arrange w)
      rollout.rollOuts later out.state out.world

theorem tells_rollOuts (rollout : Rollout) (calls : List (Call S)) :
    ∀ (progress : Progress) (w : World controlPlane S),
      Tells progress w (rollout.rollOuts calls progress w).1
        (rollout.rollOuts calls progress w).2 := by
  induction calls with
  | nil => exact fun progress w => ⟨World.Follows.refl w, by simp [rollOuts, Accepted]⟩
  | cons call later ih =>
      intro progress w
      have hcall := tells_rollOut rollout call.scope call.env progress (call.arrange w)
      -- What the caller arranges leaves the history as it is.
      have hfirst : Tells progress w _ _ := ⟨hcall.follows, hcall.flag⟩
      exact hfirst.trans (ih _ _)

theorem rollOuts_append (rollout : Rollout) (calls more : List (Call S)) :
    ∀ (progress : Progress) (w : World controlPlane S),
      rollout.rollOuts (calls ++ more) progress w =
        rollout.rollOuts more (rollout.rollOuts calls progress w).1
          (rollout.rollOuts calls progress w).2 := by
  induction calls with
  | nil => exact fun _ _ => rfl
  | cons call later ih => exact fun progress w => ih _ _

/-- After any calls of a new executor, the flag says whether one of the updates that it issued was
accepted; and what it says it never takes back. -/
theorem serviceUpdated_iff_accepted (rollout : Rollout) (calls : List (Call S))
    (w : World controlPlane S) :
    ((rollout.rollOuts calls {} w).1.serviceUpdated = true ↔
        Accepted ((rollout.rollOuts calls {} w).2.since w)) ∧
      ∀ more, (rollout.rollOuts calls {} w).1.serviceUpdated = true →
        (rollout.rollOuts (calls ++ more) {} w).1.serviceUpdated = true := by
  constructor
  · rw [(tells_rollOuts rollout calls {} w).flag]
    simp
  · intro more hupdated
    rw [rollOuts_append]
    exact (tells_rollOuts rollout more _ _).flag.mpr (.inl hupdated)

end GatedRollout.Rollout
