import GatedRollout.Proofs.Canary.Winding
import GatedRollout.Proofs.Process.Loops
import GatedRollout.Proofs.Rollout.Heeding

/-!
# How a rollout winds down

Once the token has fired, the body of a rollout launches nothing more and pauses no more. It makes
at most nine further requests for each canary, and three of its own: to describe the service, to
update it, and to look at it once more.
-/

namespace GatedRollout.Rollout

open Canary

variable {S σ : Type} {rollout : Rollout} {scope : RolloutScope} {env : Environment controlPlane S}
  {progress : Progress} {w : World controlPlane S} {attachments : Attachments} {body : Body S}
  {before after : List (Entry controlPlane)}

/-! ## The body of a rollout -/

section Body

variable (rollout scope env progress w)

/-- The world that the body of a rollout leaves. Without canaries there is no cleanup after it. -/
def bodyWorld : World controlPlane S :=
  let resolved := rollout.resolve env scope progress w
  match resolved.ending with
  | .returned (.ok attachments) =>
      let canaries := Canary.set rollout.engine rollout.taskDefinition attachments
      (rollout.verifyAndUpdate env scope resolved.state canaries resolved.world).world
  | _ => resolved.world

/-- The number of canaries that a rollout comes to have. -/
def canaryCount : Nat :=
  match (rollout.resolve env scope progress w).ending with
  | .returned (.ok attachments) => (Canary.strategies attachments).length
  | _ => 0

variable {rollout scope env progress w}

theorem Reaches.bodyWorld_eq (h : rollout.Reaches scope env progress w attachments body) :
    rollout.bodyWorld scope env progress w = body.world := by
  unfold bodyWorld
  dsimp only
  rw [h.body_eq, h.resolved]

theorem Reaches.canaryCount_eq (h : rollout.Reaches scope env progress w attachments body) :
    rollout.canaryCount scope env progress w = (Canary.strategies attachments).length := by
  unfold canaryCount
  rw [h.resolved]

/-- Without attachments there are no canaries. -/
theorem bodyWorld_of_unresolved (h : ∀ attachments,
    (rollout.resolve env scope progress w).ending ≠ .returned (.ok attachments)) :
    rollout.bodyWorld scope env progress w = (rollout.resolve env scope progress w).world := by
  unfold bodyWorld
  dsimp only
  split
  · next attachments hresolved => exact absurd hresolved (h attachments)
  · rfl

variable (rollout scope env progress w)

theorem reaches_or_unresolved :
    (∃ attachments body, rollout.Reaches scope env progress w attachments body) ∨
      ∀ attachments,
        (rollout.resolve env scope progress w).ending ≠ .returned (.ok attachments) := by
  by_cases hresolved : ∃ attachments,
      (rollout.resolve env scope progress w).ending = .returned (.ok attachments)
  · obtain ⟨attachments, hresolved⟩ := hresolved
    exact .inl ⟨attachments, _, hresolved, rfl⟩
  · exact .inr fun attachments h => hresolved ⟨attachments, h⟩

variable {rollout scope env progress w}

/-- What comes after the body is its cleanup. -/
theorem Finishes.since_body {out : Outcome S} (h : rollout.Finishes scope env progress w out) :
    ∃ cleanup, out.world.since w = (rollout.bodyWorld scope env progress w).since w ++ cleanup ∧
      ∀ e ∈ cleanup, e.event.Concerns Stops := by
  cases h with
  | early unresolved world_eq =>
      refine ⟨[], ?_, fun e he => absurd he List.not_mem_nil⟩
      rw [world_eq, bodyWorld_of_unresolved unresolved, List.append_nil]
  | stuck reached hung world_eq =>
      refine ⟨[], ?_, fun e he => absurd he List.not_mem_nil⟩
      rw [world_eq, reached.bodyWorld_eq, List.append_nil]
  | cleaned reached world_eq =>
      refine ⟨_, ?_, reached.divides.stops⟩
      rw [world_eq, reached.bodyWorld_eq, reached.divides.trace_eq]

end Body

/-! ## The parts of a rollout -/

theorem winds_resolveAttachments (rollout : Rollout) (scope : RolloutScope)
    {limit fired unfired : Nat} (hbudget : fired ≤ unfired) :
    (rollout.resolveAttachments scope : Activity σ _ _).Winds free limit ⟨fired + 1, unfired⟩
      ⟨fired, unfired⟩ := by
  cases scope with
  | configuration =>
      unfold resolveAttachments
      cases rollout.pending with
      | none => exact .throw _
      | some definition =>
          exact (Attempt.Winds.pure _).weaken (Nat.le_succ fired) (Nat.le_refl unfired)
  | taskDefinition => exact .bind (.ask rfl hbudget _) fun live => .known _

theorem winds_updateService (rollout : Rollout) (scope : RolloutScope)
    {limit fired unfired : Nat} (hbudget : fired + 1 ≤ unfired) :
    (rollout.updateService scope).Winds free limit ⟨fired + 2, unfired⟩ ⟨fired, unfired⟩ := by
  refine .bind (.ask rfl hbudget _) fun _ => .bind (.modify _) fun _ => ?_
  refine .bind (.within (rollout.engine.winds_await _ rfl (Nat.le_of_succ_le hbudget)) _)
    fun _ => ?_
  exact .pure ()

/-! ## The stages of a rollout -/

/-- What a rollout with so many canaries may still ask for once the token has fired. -/
def limits (canaries : Nat) : Option Nat → Nat
  | none => 3
  | some i => if i < canaries then 9 else 0

theorem limits_mono {n m : Nat} (h : n ≤ m) (actor : Option Nat) :
    limits n actor ≤ limits m actor := by
  cases actor with
  | none => exact Nat.le_refl 3
  | some i =>
      simp only [limits]
      split <;> split <;> omega

variable (rollout scope env progress w)

theorem resolve_winds :
    let resolved := rollout.resolve env scope progress w
    ∃ v, World.Sees w resolved.world v ∧
      (∀ other, (v.deedsOf other).Affords free (limits 0 other) .spent) ∧
        ∀ attachments, resolved.ending = .returned (.ok attachments) →
          (v.deedsOf none).Affords free 3 ⟨2, 3⟩ := by
  intro resolved
  have hwinds : (rollout.resolveAttachments scope : Activity Progress _ _).Winds free
      (limits 0 none) ⟨3, 3⟩ ⟨2, 3⟩ := rollout.winds_resolveAttachments scope (by decide)
  obtain ⟨v, hsees, haffords, hleft⟩ := World.Winds.run hwinds env _ (World.sees_self w)
    (fun other => affords_self free w other (Nat.zero_le _) (Nat.zero_le _))
    (affords_self free w none (Nat.le_refl 3) (Nat.le_refl 3))
  exact ⟨v, hsees, haffords, fun attachments hresolved => hleft _ hresolved⟩

variable (attachments)

theorem begun_winds : World.Winds free (limits 0) w
    (rollout.begun scope env progress w attachments).world := by
  obtain ⟨v, hsees, haffords, -⟩ := rollout.resolve_winds scope env progress w
  refine CanarySet.winds_startFrom env _ (fun e he l => ?_) 0 _ ⟨v, hsees, haffords⟩
  obtain ⟨strategy, htask⟩ := staffs_set rollout.engine rollout.taskDefinition attachments e he
  rw [htask]
  exact winds_start _ _

theorem awaited_winds : World.Winds free (limits (strategies attachments).length) w
    (rollout.awaited scope env progress w attachments).world := by
  have hstaffs := (staffs_set rollout.engine rollout.taskDefinition attachments).start env .caller
    (rollout.resolve env scope progress w).world
  refine CanarySet.winds_wait env (fun i e he => ?_)
    ((rollout.begun_winds scope env progress w attachments).mono (limits_mono (Nat.zero_le _)))
  obtain ⟨strategy, htask⟩ := hstaffs e (List.mem_of_getElem? he)
  have hi : i < (strategies attachments).length := by
    have hlt := (List.getElem?_eq_some_iff.mp he).1
    rwa [CanarySet.length_start, length_set] at hlt
  rw [htask]
  exact winds_wait _ _ strategy (Nat.le_of_eq (if_pos hi).symm)

/-- The canaries do nothing in the name of the rollout itself. -/
theorem deeds_begun : let resolved := rollout.resolve env scope progress w
    let started := (rollout.begun scope env progress w attachments).world
    started.Follows resolved.world ∧ started.deeds none = resolved.world.deeds none := by
  let set := Canary.set rollout.engine rollout.taskDefinition attachments
  have hstarted := CanarySet.secured_start env .caller (Crew.secures_visits
    (set.entries.map fun e => (e.task.start.run, e.state))
    (rollout.resolve env scope progress w).world)
  exact ⟨hstarted.follows, hstarted.others none nofun⟩

theorem deeds_awaited : let resolved := rollout.resolve env scope progress w
    let waited := (rollout.awaited scope env progress w attachments).world
    waited.Follows resolved.world ∧ waited.deeds none = resolved.world.deeds none := by
  let begun := rollout.begun scope env progress w attachments
  obtain ⟨hfollows, hsame⟩ := rollout.deeds_begun scope env progress w attachments
  have hwaited := CanarySet.secured_wait env .caller
    (Crew.secures_visits (begun.state.entries.map fun e => (e.task.wait.run, e.state)) begun.world)
  exact ⟨hfollows.trans hwaited.follows, (hwaited.others none nofun).trans hsame⟩

theorem renewed_winds
    (hresolved : (rollout.resolve env scope progress w).ending = .returned (.ok attachments)) :
    World.Winds free (limits (strategies attachments).length) w
      (rollout.renewed scope env progress w attachments).world := by
  obtain ⟨v, hsees, -, hleft⟩ := rollout.resolve_winds scope env progress w
  obtain ⟨v', hsees', haffords⟩ := rollout.awaited_winds scope env progress w attachments
  obtain ⟨hfollows, hsame⟩ := rollout.deeds_awaited scope env progress w attachments
  -- Until there are canaries nobody pauses, so the token did not fire in a pause of the rollout.
  have hawake : ∀ y, v.deedsOf none = .unfired y → ¬AtRest false y := by
    intro y hy
    cases hsees with
    | unfired =>
        cases hy
        exact ((rollout.sleepless_resolve scope env progress w).wakeful none).not_atRest
    | fired => cases hy
  have hbudget : (v'.deedsOf none).Affords free 3 ⟨2, 3⟩ :=
    (hleft attachments hresolved).onward (hsees.onward hsees' hfollows hsame) (by decide)
      fun y hy hrest => absurd hrest (hawake y hy)
  have hwinds : (rollout.updateService scope).Winds free
      (limits (strategies attachments).length none) ⟨2, 3⟩ ⟨0, 3⟩ :=
    rollout.winds_updateService scope (by decide)
  obtain ⟨v'', hsees'', haffords'', -⟩ := World.Winds.run hwinds env _ hsees' haffords hbudget
  exact ⟨v'', hsees'', haffords''⟩

theorem Reaches.winds {rollout : Rollout} {scope : RolloutScope} {env : Environment controlPlane S}
    {progress : Progress} {w : World controlPlane S} {attachments : Attachments} {body : Body S}
    (h : rollout.Reaches scope env progress w attachments body) :
    World.Winds free (limits (strategies attachments).length) w body.world := by
  cases h.proceeds with
  | unstarted _ body_eq =>
      exact congrArg Body.world body_eq ▸
        (rollout.begun_winds scope env progress w attachments).mono (limits_mono (Nat.zero_le _))
  | unverified _ _ body_eq =>
      exact congrArg Body.world body_eq ▸ rollout.awaited_winds scope env progress w attachments
  | updating _ _ body_eq =>
      exact congrArg Body.world body_eq ▸
        rollout.renewed_winds scope env progress w attachments h.resolved

theorem bodyWorld_winds : World.Winds free (limits (rollout.canaryCount scope env progress w)) w
    (rollout.bodyWorld scope env progress w) := by
  rcases rollout.reaches_or_unresolved scope env progress w with ⟨attachments, body, h⟩ | hnone
  · rw [h.canaryCount_eq, h.bodyWorld_eq]
    exact h.winds
  · obtain ⟨v, hsees, haffords, -⟩ := rollout.resolve_winds scope env progress w
    rw [bodyWorld_of_unresolved hnone]
    exact World.Winds.mono ⟨v, hsees, haffords⟩ (limits_mono (Nat.zero_le _))

/-! ## Launches -/

/-- The requests that launch nothing. -/
def Launchless (r : ControlPlane.Request) : Prop := r.role ≠ .launches

variable {rollout scope env progress w attachments}

/-- After its start a body launches nothing. -/
theorem Reaches.launchless (h : rollout.Reaches scope env progress w attachments body) :
    World.Concerns Launchless (rollout.begun scope env progress w attachments).world
      body.world := by
  have hawaited := (rollout.concerns_awaited scope env progress w attachments).mono
    ne_launches_of_waits
  cases h.proceeds with
  | unstarted _ body_eq => exact congrArg Body.world body_eq ▸ World.Concerns.refl _
  | unverified _ _ body_eq => exact congrArg Body.world body_eq ▸ hawaited
  | updating _ _ body_eq =>
      have hupdate : (rollout.updateService scope).run.Asks Launchless :=
        (asks_updateService rollout scope).mono fun r hr => by
          rcases hr with hr | hr <;> simp [Launchless, hr]
      exact congrArg Body.world body_eq ▸ hupdate.run env .caller none _ hawaited

theorem resolve_launchless (rollout : Rollout) (scope : RolloutScope)
    (env : Environment controlPlane S) (progress : Progress) (w : World controlPlane S) :
    World.Concerns Launchless w (rollout.resolve env scope progress w).world :=
  (concerns_resolve rollout scope env progress w).mono fun r hr => by
    rw [hr]
    exact nofun

theorem launchless_of_concerns {trace : List (Entry controlPlane)}
    (h : ∀ e ∈ trace, e.event.Concerns Launchless) : ∀ r ∈ requestsIn trace, Launchless r := by
  intro r hr
  obtain ⟨e, he, hissued⟩ := mem_requestsIn.mp hr
  have hconcerns := h e he
  rwa [hissued] at hconcerns

theorem launchless_of_stops {trace : List (Entry controlPlane)}
    (h : ∀ e ∈ trace, e.event.Concerns Stops) : ∀ r ∈ requestsIn trace, Launchless r :=
  launchless_of_concerns fun e he => (h e he).mono fun r hr => by
    rcases hr with hr | hr <;> simp [Launchless, hr]

/-- Where the token fires while the canaries are started, none of them is launched any more. -/
theorem begun_launchless (hfires : FiresAt w.fired
    ((rollout.begun scope env progress w attachments).world.since w) before after) :
    ∀ r ∈ requestsIn after, Launchless r := by
  intro r hr
  obtain ⟨e, he, hissued⟩ := mem_requestsIn.mp hr
  have hdeed : e.event.isDeed = true := by rw [hissued]; rfl
  -- The rollout itself has done all that it does before there are canaries; of those, one that the
  -- firing found unlaunched has nothing left to ask for.
  cases hactor : e.actor with
  | none =>
      have hresolve := rollout.resolve_launchless scope env progress w
      obtain ⟨hfollows, hsame⟩ := rollout.deeds_begun scope env progress w attachments
      have hbegun := (hresolve.follows.trans hfollows).deedsOf_since
        (hsame.trans (hresolve.follows.deeds_eq none))
      have hmem := mem_deedsOf (hfires.mem (.inr he)) hdeed
      rw [hactor, hbegun] at hmem
      obtain ⟨-, e', he', -, hevent⟩ := of_mem_deedsOf hmem
      have hconcerns := hresolve.events e' he'
      rwa [hevent, hissued] at hconcerns
  | some i =>
      obtain ⟨-, hle, -⟩ :=
        (rollout.begun_winds scope env progress w attachments).affords hfires (some i)
      have hmem : r ∈ requests (deedsOf (some i) after) :=
        mem_requests.mpr (hissued ▸ hactor ▸ mem_deedsOf he hdeed)
      have hpos := List.length_pos_of_mem hmem
      simp only [limits, Nat.not_lt_zero, if_false] at hle
      omega

/-- Once the token has fired a rollout launches no canary any more. -/
theorem bodyWorld_launchless (hfires : FiresAt w.fired
    ((rollout.bodyWorld scope env progress w).since w) before after) :
    ∀ r ∈ requestsIn after, Launchless r := by
  rcases rollout.reaches_or_unresolved scope env progress w with ⟨attachments, body, h⟩ | hnone
  · rw [h.bodyWorld_eq] at hfires
    obtain ⟨v, hsees, -⟩ := rollout.begun_winds scope env progress w attachments
    have hlater := launchless_of_concerns h.launchless.events
    rw [hsees.follows.since_trans h.launchless.follows] at hfires
    rcases hsees.divide hfires with ⟨-, after', hfirst, rfl⟩ | ⟨-, -, before', -, hrest⟩
    · rw [requestsIn_append]
      exact List.forall_mem_append.mpr ⟨begun_launchless hfirst, hlater⟩
    · exact launchless_of_concerns fun e he => h.launchless.events e (hrest.mem (.inr he))
  · rw [bodyWorld_of_unresolved hnone] at hfires
    have hresolve := rollout.resolve_launchless scope env progress w
    exact launchless_of_concerns fun e he => hresolve.events e (hfires.mem (.inr he))

/-! ## The body after the firing -/

theorem bodyWorld_windsDown (hfires : FiresAt w.fired
    ((rollout.bodyWorld scope env progress w).since w) before after) :
    WindsDown before after ∧
      (requestsIn after).length ≤ rollout.canaryCount scope env progress w * 9 + 3 := by
  have haffords := (rollout.bodyWorld_winds scope env progress w).affords hfires
  have hlength : ∀ actor, (requests (deedsOf actor after)).length ≤
      limits (rollout.canaryCount scope env progress w) actor := by
    intro actor
    obtain ⟨-, hle, -⟩ := haffords actor
    omega
  refine ⟨windsDown_of_affords haffords, length_requestsIn_le (hlength none) (fun i => ?_)
    fun i hi => ?_⟩
  · exact Nat.le_trans (hlength (some i)) (by simp only [limits]; split <;> omega)
  · have hzero := hlength (some i)
    rw [limits, if_neg (Nat.not_lt.mpr hi)] at hzero
    exact Nat.le_zero.mp hzero

end GatedRollout.Rollout
