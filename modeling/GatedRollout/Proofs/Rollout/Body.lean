import GatedRollout.Proofs.Process.Frame
import GatedRollout.Proofs.Rollout.Canaries
import GatedRollout.Rollout.Basic

/-!
# The body of a rollout

Between its beginning and its cleanup a rollout only reads, except for what its canaries begin and
for the one update of the service. However the body ends, each canary still has its account; and
if the update was issued, that was in a world in which each canary was verified.
-/

namespace GatedRollout.Rollout

open Canary

variable {S σ : Type} (rollout : Rollout) (scope : RolloutScope)

/-! ## Before the canaries -/

/-- Where the attachments come from that the canaries borrow: from the pending definition, or from
the live service as it was described. -/
def Borrows (attachments : Attachments) (trace : Deeds) : Prop :=
  match scope with
  | .configuration => ∃ definition, rollout.pending = some definition ∧
      attachments = definition.attachments
  | .taskDefinition => ∃ live,
      .returned (.describeService rollout.engine.cluster rollout.engine.service)
        (.ok (some live)) ∈ trace ∧ live.isInactive = false ∧ attachments = live.attachments

theorem Borrows.append {rollout : Rollout} {scope : RolloutScope} {attachments : Attachments}
    {trace : Deeds} (h : rollout.Borrows scope attachments trace) (es : Deeds) :
    rollout.Borrows scope attachments (trace ++ es) := by
  cases scope with
  | configuration => exact h
  | taskDefinition =>
      obtain ⟨live, hlive, hactive⟩ := h
      exact ⟨live, List.mem_append_left es hlive, hactive⟩

theorem liveAttachments_ok {service : ServiceName} {found : Option Service}
    {attachments : Attachments} (h : liveAttachments service found = .ok attachments) :
    ∃ live, found = some live ∧ live.isInactive = false ∧ attachments = live.attachments := by
  cases found with
  | none => cases h
  | some live =>
      rw [liveAttachments] at h
      split at h
      · cases h
      · next hactive =>
          cases h
          exact ⟨live, rfl, Bool.eq_false_iff.mpr hactive, rfl⟩

theorem secures_resolveAttachments (s : σ) :
    Secures recorded (fun _ y => marks y = [])
      (fun result _ y => marks y = [] ∧
        ∀ attachments, result = .ok attachments → rollout.Borrows scope attachments y)
      (rollout.resolveAttachments scope).run s [] := by
  cases scope with
  | configuration =>
      unfold resolveAttachments
      cases hpending : rollout.pending with
      | none => exact Secures.attempt_throw ⟨rfl, nofun⟩
      | some definition =>
          refine Secures.attempt_pure ⟨rfl, fun attachments hok => ?_⟩
          cases hok
          exact ⟨definition, hpending, rfl⟩
  | taskDefinition =>
      refine Secures.recorded_ask_then rfl (fun live => ?_) (fun e => ⟨rfl, nofun⟩)
      · refine Secures.attempt_lift ⟨rfl, fun attachments hok => ?_⟩
        obtain ⟨live, rfl, hactive, hlive⟩ := liveAttachments_ok hok
        exact ⟨live, by simp, hactive, hlive⟩

theorem conforms_resolveAttachments {c : Conduct controlPlane σ}
    (h : c.asks (.describeService rollout.engine.cluster rollout.engine.service)) :
    (rollout.resolveAttachments scope).run.Conforms c := by
  cases scope with
  | configuration =>
      unfold resolveAttachments
      cases rollout.pending with
      | none => exact .known (.error _)
      | some definition => exact .known (.ok _)
  | taskDefinition => exact .attempt (.attempt_ask h _) fun live => .known _

theorem spares_resolveAttachments {κ : Type} (k : σ → κ) :
    (rollout.resolveAttachments scope).run.Spares k :=
  .of_maintains fun _ => rollout.conforms_resolveAttachments scope trivial

/-! ## The update -/

theorem conforms_updateService {c : Conduct controlPlane Progress}
    (update : c.asks (.updateService (rollout.update scope)))
    (read : c.asks (.describeService rollout.engine.cluster rollout.engine.service))
    (updated : ∀ progress, c.finds progress → c.writes { progress with serviceUpdated := true }) :
    (rollout.updateService scope).run.Conforms c := by
  refine .attempt (.attempt_ask update _) fun _ => .attempt (.attempt_modify updated) fun _ => ?_
  exact .attempt (.within (rollout.engine.conforms_await _ read) _) fun _ => .known (.ok _)

/-- The update was issued first, and nothing was begun or ended afterwards. -/
def Updates (y : Deeds) : Prop :=
  ∃ es, y = .issued (.updateService (rollout.update scope)) :: es ∧ marks es = []

theorem secures_updateService (progress : Progress) :
    Secures recorded (fun _ y => rollout.Updates scope y) (fun _ _ y => rollout.Updates scope y)
      (rollout.updateService scope).run progress [] := by
  refine Secures.recorded_ask_then ⟨[], rfl, rfl⟩ (fun accepted => ?_) (fun e => ⟨_, rfl, rfl⟩)
  · let issued : Event controlPlane := .issued (.updateService (rollout.update scope))
    let returned : Event controlPlane :=
      .returned (.updateService (rollout.update scope)) (.ok accepted)
    have hupdates : ∀ es : Deeds, marks es = [] →
        rollout.Updates scope ([] ++ [issued] ++ [returned] ++ es) :=
      fun es hes => ⟨returned :: es, rfl, hes⟩
    refine Secures.modify_then (Secures.attempt
      (Q := fun _ _ y => rollout.Updates scope y) ?_ ?_ ?_)
    · refine Secures.attempt_within (Engine.secures_await_recorded _ _ _ ?_ ?_)
      · exact fun es hes => hupdates es (marks_of_about rfl hes.about)
      · exact fun es _ hes => hupdates es (marks_of_about rfl hes.about)
    · exact fun _ _ _ hpost => Secures.attempt_pure hpost
    · exact fun _ _ _ hpost => hpost

/-! ## The canaries -/

variable {engine : Engine} {spec : LaunchSpec} {strategies : List Strategy} {past : Nat → Deeds}

/-- The world in which the update was issued, with every canary verified. -/
structure Ready (spec : LaunchSpec) (strategies : List Strategy) (past : Nat → Deeds)
    (w before : World controlPlane S) (body : Body S) : Prop where
  follows : before.Follows w
  followed : body.world.Follows before
  others : ∀ other, (∀ i < strategies.length, other ≠ some i) →
    before.deeds other = w.deeds other
  verified : Musters rollout.engine spec strategies past
    (fun strategy => Verified rollout.engine spec.taskDefinition strategy ()) body.canaries before
  updates : ∃ y, body.world.deeds none = before.deeds none ++ y ∧ rollout.Updates scope y
  alone : ∀ i, body.world.deeds (some i) = before.deeds (some i)

/-- What a body leaves: the account of every canary, and the deeds of the rollout itself, to which
at most the update was added. -/
structure Ran (spec : LaunchSpec) (strategies : List Strategy) (past : Nat → Deeds)
    (w : World controlPlane S) (body : Body S) : Prop where
  follows : body.world.Follows w
  others : ∀ i, strategies.length ≤ i → body.world.deeds (some i) = w.deeds (some i)
  accounts : Musters rollout.engine spec strategies past Account body.canaries body.world
  updates : body.world.deeds none = w.deeds none ∨
    ∃ before, rollout.Ready scope spec strategies past w before body

section Body

variable {rollout scope} {w : World controlPlane S} {Q : Strategy → State → Deeds → Prop}

/-- Before the update there is nothing but what the canaries have done. -/
theorem ran_of_kept {out : CanarySet.Outcome controlPlane S State}
    (h : Kept rollout.engine spec strategies past Q w out)
    (ending : Ending (Except RolloutError Unit)) (progress : Progress) :
    rollout.Ran scope spec strategies past w ⟨ending, progress, out.state, out.world⟩ := by
  have hbeyond : ∀ i, strategies.length ≤ i → out.world.deeds (some i) = w.deeds (some i) :=
    fun i hi => World.deeds_some_of_others h.others hi
  exact ⟨h.follows, hbeyond, h.accounts, .inl (World.deeds_none_of_others h.others)⟩

/-- The update, once every canary is verified. -/
theorem ran_updateService (env : Environment controlPlane S) (progress : Progress)
    {waited : CanarySet.Outcome controlPlane S State}
    (h : Kept rollout.engine spec strategies past
      (fun strategy => Verified rollout.engine spec.taskDefinition strategy ()) w waited)
    (hok : waited.ending = .returned (.ok ())) :
    let updated := run env .caller none (rollout.updateService scope).run progress waited.world
    rollout.Ran scope spec strategies past w
      ⟨updated.ending, updated.state, waited.state, updated.world⟩ := by
  intro updated
  have hfollows : updated.world.Follows waited.world := run_follows ..
  have halone : ∀ i, updated.world.deeds (some i) = waited.world.deeds (some i) := fun i =>
    run_others env .caller (Option.some_ne_none i).symm ..
  obtain ⟨y, hy, hsecured⟩ := (secures_updateService rollout scope progress).run env .caller none
    (List.append_nil (waited.world.deeds none)).symm
  have hupdates : rollout.Updates scope y := hsecured.elim
  have hbeyond : ∀ i, strategies.length ≤ i → updated.world.deeds (some i) = w.deeds (some i) :=
    fun i hi => (halone i).trans (World.deeds_some_of_others h.others hi)
  refine ⟨h.follows.trans hfollows, hbeyond, ⟨h.accounts.length_eq, fun i strategy hi => ?_⟩,
    .inr ⟨waited.world, ?_⟩⟩
  · obtain ⟨s, x, hs, hx, haccount⟩ := h.accounts.each i strategy hi
    exact ⟨s, x, hs, (halone i).trans hx, haccount⟩
  · exact ⟨h.follows, hfollows, h.others, h.succeeded hok, ⟨y, hy, hupdates⟩, halone⟩

theorem ran_verifyAndUpdate (env : Environment controlPlane S) (progress : Progress)
    {canaries : CanarySet controlPlane State}
    (h : Musters rollout.engine spec strategies past
      (fun _ s y => s = State.fresh rollout.engine.placement ∧ y = []) canaries w) :
    rollout.Ran scope spec strategies past w
      (rollout.verifyAndUpdate env scope progress canaries w) := by
  have hstart := h.start env .caller
  unfold verifyAndUpdate
  dsimp only
  split
  · exact ran_of_kept hstart ..
  · exact ran_of_kept hstart ..
  · exact ran_of_kept hstart ..
  · next hstarted =>
      have hwait := hstart.trans ((hstart.succeeded hstarted).wait env .caller)
      split
      · exact ran_of_kept hwait ..
      · exact ran_of_kept hwait ..
      · exact ran_of_kept hwait ..
      · next hwaited => exact ran_updateService env progress hwait hwaited

end Body

/-! ## The whole rollout -/

variable (env : Environment controlPlane S) (progress : Progress) (w : World controlPlane S)

/-- The body that a rollout reaches once it has the attachments. -/
structure Reaches (attachments : Attachments) (body : Body S) : Prop where
  resolved : (rollout.resolve env scope progress w).ending = .returned (.ok attachments)
  body_eq : body = rollout.verifyAndUpdate env scope (rollout.resolve env scope progress w).state
    (Canary.set rollout.engine rollout.taskDefinition attachments)
    (rollout.resolve env scope progress w).world

/-- Where a rollout ends: without canaries, in a body that never returns, or after the cleanup. -/
inductive Finishes (out : Outcome S) : Prop
  | early (unresolved : ∀ attachments,
      (rollout.resolve env scope progress w).ending ≠ .returned (.ok attachments))
      (world_eq : out.world = (rollout.resolve env scope progress w).world)
  | stuck {attachments : Attachments} {body : Body S}
      (reached : rollout.Reaches scope env progress w attachments body)
      (hung : out.ending = .hung) (world_eq : out.world = body.world)
  | cleaned {attachments : Attachments} {body : Body S}
      (reached : rollout.Reaches scope env progress w attachments body)
      (world_eq : out.world = (rollout.cleanUp env body).world)

theorem world_finish (body : Body S) :
    (rollout.finish env body).world = (rollout.cleanUp env body).world := by
  unfold finish
  dsimp only
  split <;> rfl

theorem finishes_rollOut :
    rollout.Finishes scope env progress w (rollout.rollOut env scope progress w) := by
  unfold rollOut
  dsimp only
  split
  · next hending => exact .early (by simp [hending]) rfl
  · next hending => exact .early (by simp [hending]) rfl
  · next hending => exact .early (by simp [hending]) rfl
  · next attachments hending =>
      have hreached : rollout.Reaches scope env progress w attachments _ := ⟨hending, rfl⟩
      split
      · exact .stuck hreached rfl rfl
      · exact .cleaned hreached (rollout.world_finish env _)

/-- What the rollout itself has done before there are canaries. -/
theorem resolve_spec :
    let resolved := rollout.resolve env scope progress w
    resolved.world.Follows w ∧
      (∀ i, resolved.world.deeds (some i) = w.deeds (some i)) ∧
        ∃ y, resolved.world.deeds none = w.deeds none ++ y ∧ marks y = [] ∧
          ∀ attachments, resolved.ending = .returned (.ok attachments) →
            rollout.Borrows scope attachments y := by
  intro resolved
  obtain ⟨y, hy, hsecured⟩ := (secures_resolveAttachments rollout scope
    { progress with diagnostics := {} }).run env .caller none (List.append_nil (w.deeds none)).symm
  have hothers : ∀ i, resolved.world.deeds (some i) = w.deeds (some i) := fun i =>
    run_others env .caller (Option.some_ne_none i).symm ..
  refine ⟨run_follows .., hothers, y, hy, ?_⟩
  cases hending : resolved.ending with
  | returned result =>
      rw [show (run env .caller none _ _ w).ending = .returned result from hending] at hsecured
      refine ⟨hsecured.1, fun attachments hok => hsecured.2 attachments ?_⟩
      cases hok
      rfl
  | panicked message =>
      rw [show (run env .caller none _ _ w).ending = .panicked message from hending] at hsecured
      exact ⟨hsecured, nofun⟩
  | hung =>
      rw [show (run env .caller none _ _ w).ending = .hung from hending] at hsecured
      exact ⟨hsecured, nofun⟩

variable {rollout scope env progress w}

theorem Reaches.ran {attachments : Attachments} {body : Body S}
    (h : rollout.Reaches scope env progress w attachments body) :
    rollout.Ran scope (.canary rollout.engine rollout.taskDefinition attachments)
      (Canary.strategies attachments) (fun i => w.deeds (some i))
      (rollout.resolve env scope progress w).world body := by
  obtain ⟨-, hothers, -⟩ := resolve_spec rollout scope env progress w
  rw [h.body_eq]
  exact ran_verifyAndUpdate env _ (musters_fresh _ _ _ hothers)

/-- A rollout whose body ends goes on to its cleanup. -/
theorem Reaches.rollOut_eq {attachments : Attachments} {body : Body S}
    (h : rollout.Reaches scope env progress w attachments body) (hbody : body.ending ≠ .hung) :
    rollout.rollOut env scope progress w = rollout.finish env body := by
  obtain ⟨hresolved, rfl⟩ := h
  unfold rollOut
  dsimp only
  rw [hresolved]
  dsimp only
  split
  · next hhung => exact absurd hhung hbody
  · rfl

/-- A rollout that returns has not found any attachments, or has cleaned up after a body that
returned the same. -/
theorem rollOut_returned {result : Except RolloutError Unit}
    (h : (rollout.rollOut env scope progress w).ending = .returned result) :
    (∃ e, result = .error e ∧
        (rollout.resolve env scope progress w).ending = .returned (.error e) ∧
          rollout.rollOut env scope progress w =
            ⟨.returned (.error e), (rollout.resolve env scope progress w).state,
              (rollout.resolve env scope progress w).world⟩) ∨
      ∃ attachments body, rollout.Reaches scope env progress w attachments body ∧
        body.ending = .returned result ∧
        rollout.rollOut env scope progress w = rollout.finish env body := by
  unfold rollOut at h ⊢
  dsimp only at h ⊢
  split at h
  · cases h
  · cases h
  · next e hending =>
      cases h
      exact .inl ⟨e, rfl, hending, rfl⟩
  · next attachments hending =>
      have hreached : rollout.Reaches scope env progress w attachments _ := ⟨hending, rfl⟩
      split at h
      · cases h
      · next hreturned =>
          refine .inr ⟨attachments, _, hreached, ?_, ?_⟩
          · unfold finish at h
            dsimp only at h
            split at h
            · cases h
            · exact h
          · rfl

end GatedRollout.Rollout
