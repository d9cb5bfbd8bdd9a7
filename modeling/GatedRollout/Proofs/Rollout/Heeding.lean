import GatedRollout.Proofs.Canary.Heeding
import GatedRollout.Proofs.Rollout.Extent
import GatedRollout.Proofs.Rollout.Outcome

/-!
# How a rollout heeds the token

A rollout looks at the token before each launch and in its pauses. Where the token fires in a pause,
or before the last canary was launched, the service is not updated any more. Where it fires in a
call while every other canary is in one, or has ended, the rollout may still go on to the update. -/

namespace GatedRollout.Rollout

open Canary

variable {S σ : Type} {rollout : Rollout} {scope : RolloutScope} {env : Environment controlPlane S}
  {progress : Progress} {w : World controlPlane S} {attachments : Attachments} {body : Body S}
  {before after : List (Entry controlPlane)}

/-! ## Updates in a history -/

/-- An update of a service is asked for. -/
def IsUpdate (e : Event controlPlane) : Prop := ∃ update, e = .issued (.updateService update)

/-- The requests that change no service. -/
def Unchanging (r : ControlPlane.Request) : Prop := r.role ≠ .changes

theorem not_isUpdate {e : Event controlPlane} (h : e.Concerns Unchanging) : ¬IsUpdate e := by
  rintro ⟨update, rfl⟩
  exact h rfl

/-- Where a history has a single update, what comes before it is settled. -/
theorem eq_before_update {first rest between last : List (Entry controlPlane)}
    {u e : Entry controlPlane} (h : first ++ u :: rest = between ++ e :: last)
    (hfirst : ∀ x ∈ first, ¬IsUpdate x.event) (hrest : ∀ x ∈ rest, ¬IsUpdate x.event)
    (he : IsUpdate e.event) : between = first := by
  rcases List.append_eq_append_iff.mp h with ⟨tail, rfl, htail⟩ | ⟨tail, rfl, htail⟩
  · cases tail with
    | nil => simp
    | cons x tail =>
        obtain ⟨rfl, rfl⟩ := List.cons.inj htail
        exact absurd he (hrest e (by simp))
  · cases tail with
    | nil => simp
    | cons x tail =>
        obtain ⟨rfl, -⟩ := List.cons.inj htail
        exact absurd he (hfirst e (by simp))

/-- A token that fired before the only update fired in what comes before that. -/
theorem fires_before_update {already : Bool} {first rest between last : List (Entry controlPlane)}
    {u e : Entry controlPlane}
    (h : FiresAt already (first ++ u :: rest) before (between ++ e :: last))
    (hfirst : ∀ x ∈ first, ¬IsUpdate x.event) (hrest : ∀ x ∈ rest, ¬IsUpdate x.event)
    (he : IsUpdate e.event) : FiresAt already first before between := by
  generalize hafter : between ++ e :: last = after at h
  generalize htrace : first ++ u :: rest = trace at h
  cases h with
  | already =>
      rw [eq_before_update (htrace.trans hafter.symm) hfirst hrest he]
      exact .already first
  | within time hunfired trace_eq =>
      rw [← hafter, ← htrace, ← List.cons_append, ← List.append_assoc] at trace_eq
      exact .within time hunfired (eq_before_update trace_eq hfirst hrest he).symm

/-- The update is the first thing that is asked for once the canaries are verified, and the only
one. -/
theorem renewed_since (rollout : Rollout) (scope : RolloutScope) (env : Environment controlPlane S)
    (progress : Progress) (w : World controlPlane S) (attachments : Attachments) :
    ∃ u rest, (rollout.renewed scope env progress w attachments).world.since
        (rollout.awaited scope env progress w attachments).world = u :: rest ∧
      ∀ e ∈ rest, ¬IsUpdate e.event := by
  let waited := (rollout.awaited scope env progress w attachments).world
  obtain ⟨rest, hrest⟩ : ∃ rest,
      (rollout.renewed scope env progress w attachments).world.since waited =
        ⟨waited.clock, none, .issued (.updateService (rollout.update scope))⟩ :: rest :=
    since_call env .caller none _ _ _ waited
  have hfired : ¬IsUpdate .fired := not_isUpdate trivial
  refine ⟨_, rest, hrest, forall_of_deedsOf (¬IsUpdate ·) hfired fun actor e he => ?_⟩
  have hfollows := rollout.follows_renewed scope env progress w attachments
  cases actor with
  | none =>
      obtain ⟨y, hy, hsecured⟩ := (secures_updateService rollout scope
        (rollout.resolve env scope progress w).state).run env .caller none
          (List.append_nil (waited.deeds none)).symm
      obtain ⟨es, rfl, hmarks⟩ := hsecured.elim
      have hdeeds := hfollows.deedsOf_since hy
      rw [hrest] at hdeeds
      have hes : deedsOf none rest = es := (List.cons.inj hdeeds).2
      rw [hes] at he
      rintro ⟨update, rfl⟩
      have hnone := List.filterMap_eq_nil_iff.mp hmarks _ he
      cases hnone
  | some i =>
      have hnone := hfollows.deedsOf_since ((run_others env .caller (Option.some_ne_none i).symm _ _
        waited).trans (List.append_nil _).symm)
      rw [hrest] at hnone
      have hnil : deedsOf (some i) rest = [] := hnone
      rw [hnil] at he
      cases he

/-! ## Before the canaries -/

/-- The resolution never pauses, and fails before there is anything to cancel. -/
theorem secures_resolve_wakeful (rollout : Rollout) (scope : RolloutScope) (s : σ) :
    Secures recorded (fun _ y => Wakeful y)
      (fun result _ y => Wakeful y ∧
        ∀ e, result = .error e → e.kind = .precondition ∨ e.kind = .controlPlane)
      (rollout.resolveAttachments scope).run s [] := by
  cases scope with
  | configuration =>
      unfold resolveAttachments
      cases rollout.pending with
      | none =>
          refine Secures.attempt_throw ⟨wakeful_nil, fun e he => ?_⟩
          cases he
          exact .inl rfl
      | some definition => exact Secures.attempt_pure ⟨wakeful_nil, nofun⟩
  | taskDefinition =>
      let describe : ControlPlane.Request :=
        .describeService rollout.engine.cluster rollout.engine.service
      have hissued : Wakeful ([] ++ [Event.issued (ι := controlPlane) describe]) :=
        wakeful_nil.append rfl
      refine Secures.recorded_ask_then hissued (fun found => ?_) (fun c => ?_)
      · refine Secures.attempt_lift ⟨hissued.append rfl, fun e he => ?_⟩
        unfold liveAttachments at he
        split at he
        · cases he
          exact .inl rfl
        · split at he
          · cases he
            exact .inl rfl
          · cases he
      · refine ⟨hissued.append rfl, fun e he => ?_⟩
        cases he
        exact .inr rfl

theorem sleepless_resolve (rollout : Rollout) (scope : RolloutScope)
    (env : Environment controlPlane S) (progress : Progress) (w : World controlPlane S) :
    Sleepless ((rollout.resolve env scope progress w).world.since w) :=
  sleepless_run ((secures_resolve_wakeful rollout scope _).mono (fun _ _ h => h)
    fun _ _ _ h => h.1) env .caller none w

theorem kind_of_unresolved {e : RolloutError}
    (h : (rollout.resolve env scope progress w).ending = .returned (.error e)) :
    e.kind = .precondition ∨ e.kind = .controlPlane := by
  let begun : Progress := { progress with diagnostics := {} }
  obtain ⟨y, -, hsecured⟩ := (secures_resolve_wakeful rollout scope begun).run env .caller none
    (List.append_nil (w.deeds none)).symm
  have hending : (run env .caller none (rollout.resolveAttachments scope).run begun w).ending =
      .returned (.error e) := h
  rw [hending] at hsecured
  exact hsecured.2 e rfl

theorem sleepless_begun (rollout : Rollout) (scope : RolloutScope)
    (env : Environment controlPlane S) (progress : Progress) (w : World controlPlane S)
    (attachments : Attachments) :
    Sleepless ((rollout.begun scope env progress w attachments).world.since w) := by
  obtain ⟨hfollows, -⟩ := resolve_spec rollout scope env progress w
  rw [hfollows.since_trans (rollout.concerns_begun scope env progress w attachments).follows]
  exact (rollout.sleepless_resolve scope env progress w).append
    (sleepless_start rollout.engine env _ rollout.taskDefinition attachments .caller)

/-- What a canary has done until it was started, it has done in its start. -/
theorem deedsOf_begun (rollout : Rollout) (scope : RolloutScope)
    (env : Environment controlPlane S) (progress : Progress) (w : World controlPlane S)
    (attachments : Attachments) (i : Nat) :
    let started := (rollout.begun scope env progress w attachments).world
    deedsOf (some i) (started.since w) =
      deedsOf (some i) (started.since (rollout.resolve env scope progress w).world) := by
  intro started
  obtain ⟨hfollows, hothers, -⟩ := resolve_spec rollout scope env progress w
  have hconcerns := rollout.concerns_begun scope env progress w attachments
  rw [hfollows.since_trans hconcerns.follows, deedsOf_append,
    hfollows.deedsOf_since ((hothers i).trans (List.append_nil _).symm), List.nil_append]

theorem Reaches.borrows_begun (h : rollout.Reaches scope env progress w attachments body) :
    rollout.Borrows scope attachments
      (deedsOf none ((rollout.begun scope env progress w attachments).world.since w)) := by
  obtain ⟨hfollows, -, y, hy, -, hborrows⟩ := resolve_spec rollout scope env progress w
  have hconcerns := rollout.concerns_begun scope env progress w attachments
  rw [hfollows.since_trans hconcerns.follows, deedsOf_append, hfollows.deedsOf_since hy]
  exact (hborrows attachments h.resolved).append _

/-! ## The update -/

theorem heeds_updateService (rollout : Rollout) (scope : RolloutScope) :
    (rollout.updateService scope).Heeds (·.kind = .cancelled) (fun _ => True) false false := by
  refine .bind (.ask _ _) fun _ => .bind (.modify fun _ _ => trivial) fun _ => ?_
  refine .bind (.within (rollout.engine.heeds_await _ _) ?_) fun _ => .pure ()
  rintro _ rfl
  rfl

/-! ## Firing in a pause -/

/-- The rollout fails with the error of a canary that had failed before. -/
def FailedBefore (rollout : Rollout) (scope : RolloutScope) (e : RolloutError)
    (before : List (Entry controlPlane)) : Prop :=
  ∃ error attachments i strategy, e = .verifyCanary error ∧
    rollout.Borrows scope attachments (deedsOf none before) ∧
    (Canary.strategies attachments)[i]? = some strategy ∧
    Concludes rollout.engine (.canary rollout.engine rollout.taskDefinition attachments) strategy
      (.error error) (deedsOf (some i) before)

/-- In the cleanup nobody pauses before something was let go of. -/
theorem Reaches.not_endsAsleep (h : rollout.Reaches scope env progress w attachments body)
    {rest : List (Entry controlPlane)}
    (hfires : FiresAt body.world.fired ((rollout.cleanUp env body).world.since body.world) rest
      after)
    (hretains : ∀ e ∈ rest, e.event.Concerns Retains) : ¬EndsAsleep rest := by
  intro hasleep
  cases rest with
  | nil => exact not_endsAsleep_nil hasleep
  | cons e rest =>
      have hdeed : e.event.isDeed = true := by
        have hunfired := hfires.unfired e List.mem_cons_self
        cases hevent : e.event <;> simp_all [Event.isFired, Event.isDeed]
      have hfirst : deedsOf e.actor (e :: rest) = e.event :: deedsOf e.actor rest := by
        simp [deedsOf, hdeed]
      have hletsGo := h.letsGo.2 e.actor
      rw [hfires.deedsOf_eq, hfirst] at hletsGo
      rcases hletsGo with hnil | ⟨r, tail, hr, heq⟩
      · cases hnil
      · have hretained := hretains e (by simp)
        rw [(List.cons.inj heq).1] at hretained
        exact hretained hr

theorem awaited_heeds {result : Except TaskError Unit}
    (hbegun : (rollout.begun scope env progress w attachments).ending = .returned (.ok ()))
    (hawaited : (rollout.awaited scope env progress w attachments).ending = .returned result) :
    ∃ v results, result = CanarySet.firstError results ∧
      Waited rollout.engine rollout.taskDefinition attachments
        (rollout.resolve env scope progress w).world
        (rollout.begun scope env progress w attachments).world
        (rollout.awaited scope env progress w attachments).world v results :=
  waited rollout.engine env _ rollout.taskDefinition attachments hbegun hawaited

/-- Up to its cleanup, a rollout that returns heeds the token. -/
theorem Reaches.heeds (h : rollout.Reaches scope env progress w attachments body)
    {result : Except RolloutError Unit} (hresult : body.ending = .returned result) :
    World.Heeds w body.world fun before => ∃ e, result = .error e ∧
      (e.kind = .cancelled ∨ rollout.FailedBefore scope e before) := by
  obtain ⟨v, hsees⟩ := rollout.sees_begun scope env progress w attachments
  have hbegun (gaveUp) :
      World.Heeds w (rollout.begun scope env progress w attachments).world gaveUp :=
    .of_sleepless hsees (rollout.sleepless_begun scope env progress w attachments)
  cases h.proceeds with
  | unstarted stopped body_eq => exact congrArg Body.world body_eq ▸ hbegun _
  | unverified started stopped body_eq =>
      rw [body_eq] at hresult ⊢
      obtain ⟨inner, hinner, rfl⟩ := Ending.of_mapError hresult
      obtain ⟨v', results, rfl, hwaited⟩ := awaited_heeds started hinner
      refine ((hbegun _).trans hwaited.heeds).mono ?_
      rintro _ ⟨before, rfl, error, herror, hfailed⟩
      refine ⟨.verifyCanary error, congrArg (Except.mapError _) herror, ?_⟩
      rcases hfailed with rfl | ⟨i, strategy, hstrategy, hconcludes⟩
      · exact .inl rfl
      · refine .inr ⟨error, attachments, i, strategy, rfl, ?_, hstrategy, ?_⟩
        · rw [deedsOf_append]
          exact h.borrows_begun.append _
        · rwa [deedsOf_append, rollout.deedsOf_begun, ← deedsOf_append]
  | updating started verified body_eq =>
      rw [body_eq] at hresult ⊢
      obtain ⟨v', results, hfirst, hwaited⟩ := awaited_heeds started verified
      have hverified : World.Heeds (rollout.begun scope env progress w attachments).world
          (rollout.awaited scope env progress w attachments).world fun _ => False :=
        hwaited.heeds.mono fun _ ⟨_, herror, _⟩ => nomatch hfirst.trans herror
      have hupdated := (rollout.heeds_updateService scope).run_heeds (s :=
        (rollout.resolve env scope progress w).state) trivial
      refine ((hbegun _).trans (hverified.trans (hupdated.run_returned env none _ hresult))).mono ?_
      rintro _ ⟨_, rfl, _, rfl, e, rfl, hkind⟩
      exact ⟨e, rfl, .inl hkind⟩

/-- A rollout that returns, where the token fired in a pause before its cleanup. -/
theorem Reaches.paused (h : rollout.Reaches scope env progress w attachments body)
    {result : Except RolloutError Unit} (hresult : body.ending = .returned result)
    (hfires : FiresAt w.fired ((rollout.cleanUp env body).world.since w) before after)
    (hpause : InPause before) (hretains : ∀ e ∈ before, e.event.Concerns Retains) :
    (∀ e ∈ after, e.event.Concerns Stops) ∧
      ∃ e, result = .error e ∧ (e.kind = .cancelled ∨ rollout.FailedBefore scope e before) := by
  have hheeds := h.heeds hresult
  rw [h.divides.trace_eq] at hfires
  rcases hheeds.divide hfires hpause with ⟨hgave, rfl⟩ | ⟨rest, rfl, hclean, hpause'⟩
  · exact ⟨h.divides.stops, hgave⟩
  · exact absurd hpause'.asleep (h.not_endsAsleep hclean fun e he => hretains e (by simp [he]))

/-! ## Firing before an update -/

theorem unchanged_begun (rollout : Rollout) (scope : RolloutScope)
    (env : Environment controlPlane S) (progress : Progress) (w : World controlPlane S)
    (attachments : Attachments) :
    World.Concerns Unchanging w (rollout.begun scope env progress w attachments).world :=
  ((concerns_resolve rollout scope env progress w).mono fun r hr => by rw [hr]; exact nofun).trans
    ((rollout.concerns_begun scope env progress w attachments).mono ne_changes_of_launches)

theorem unchanged_awaited (rollout : Rollout) (scope : RolloutScope)
    (env : Environment controlPlane S) (progress : Progress) (w : World controlPlane S)
    (attachments : Attachments) :
    World.Concerns Unchanging w (rollout.awaited scope env progress w attachments).world :=
  (rollout.unchanged_begun scope env progress w attachments).trans
    ((rollout.concerns_awaited scope env progress w attachments).mono ne_changes_of_waits)

/-- A rollout that asks for an update has verified its canaries, and asks for it once. -/
theorem Reaches.updates_once (h : rollout.Reaches scope env progress w attachments body)
    {last : World controlPlane S} (hstops : World.Concerns Stops body.world last)
    {e : Entry controlPlane} (hmem : e ∈ last.since w) (he : IsUpdate e.event) :
    (rollout.begun scope env progress w attachments).ending = .returned (.ok ()) ∧
      (rollout.awaited scope env progress w attachments).ending = .returned (.ok ()) ∧
        ∃ u rest, last.since w =
            (rollout.awaited scope env progress w attachments).world.since w ++ u :: rest ∧
          ∀ e ∈ rest, ¬IsUpdate e.event := by
  have hended : World.Concerns Unchanging body.world last := hstops.mono ne_changes_of_stops
  cases h.proceeds with
  | unstarted stopped body_eq =>
      have hbegun := rollout.unchanged_begun scope env progress w attachments
      rw [congrArg Body.world body_eq] at hended
      exact absurd he (not_isUpdate ((hbegun.trans hended).events e hmem))
  | unverified started stopped body_eq =>
      have hawaited := rollout.unchanged_awaited scope env progress w attachments
      rw [congrArg Body.world body_eq] at hended
      exact absurd he (not_isUpdate ((hawaited.trans hended).events e hmem))
  | updating started verified body_eq =>
      obtain ⟨u, tail, hrenewed, htail⟩ := rollout.renewed_since scope env progress w attachments
      have hawaited := (rollout.unchanged_awaited scope env progress w attachments).follows
      have hfollows := rollout.follows_renewed scope env progress w attachments
      rw [congrArg Body.world body_eq] at hended
      refine ⟨started, verified, u, _, ?_, List.forall_mem_append.mpr
        ⟨htail, fun x hx => not_isUpdate (hended.events x hx)⟩⟩
      rw [(hawaited.trans hfollows).since_trans hended.follows, hawaited.since_trans hfollows,
        hrenewed, List.append_assoc, List.cons_append]

/-- An update that is asked for after the token has fired: the token fired while every canary was at
a call of its verification or had ended, and nobody has paused since. -/
theorem Reaches.updates_after (h : rollout.Reaches scope env progress w attachments body)
    {last : World controlPlane S} (hstops : World.Concerns Stops body.world last)
    {between rest : List (Entry controlPlane)} {e : Entry controlPlane}
    (hfires : FiresAt w.fired (last.since w) before (between ++ e :: rest))
    (he : IsUpdate e.event) :
    w.fired = false ∧ ¬EndsAsleep before ∧ Sleepless between ∧
      rollout.Borrows scope attachments (deedsOf none before) ∧
        ∀ i < (Canary.strategies attachments).length, Engaged (deedsOf (some i) before) := by
  obtain ⟨started, verified, u, tail, htrace, htail⟩ :=
    h.updates_once hstops (hfires.mem (.inr (by simp))) he
  obtain ⟨v, hsees⟩ := rollout.sees_begun scope env progress w attachments
  have hwaits := rollout.concerns_awaited scope env progress w attachments
  have hquiet := (rollout.unchanged_awaited scope env progress w attachments).events
  rw [htrace] at hfires
  have hverified := fires_before_update hfires (fun x hx => not_isUpdate (hquiet x hx)) htail he
  rw [hsees.follows.since_trans hwaits.follows] at hverified
  obtain ⟨v', results, hfirst, hwaited⟩ := awaited_heeds started verified
  rcases hsees.divide hverified with ⟨hfired, -⟩ | ⟨-, hunfired, pre, rfl, hlater⟩
  · -- The token had fired before any canary could pause, and so the first one gives up.
    have halready := FiresAt.already
      ((rollout.awaited scope env progress w attachments).world.since
        (rollout.begun scope env progress w attachments).world)
    rw [← hfired] at halready
    obtain ⟨-, -, hengaged⟩ := hwaited.engaged halready hfirst.symm hwaits.events
    obtain ⟨_, hlast, -⟩ := hengaged 0 (List.length_pos_iff.mpr (strategies_ne_nil attachments))
    cases hlast
  · obtain ⟨hsleepless, hawake, hengaged⟩ := hwaited.engaged hlater hfirst.symm hwaits.events
    have hbegun := (rollout.sleepless_begun scope env progress w attachments).not_endsAsleep
    refine ⟨hunfired, not_endsAsleep_append hbegun hawake, hsleepless, ?_, fun i hi => ?_⟩
    · rw [deedsOf_append]
      exact h.borrows_begun.append _
    · rw [deedsOf_append]
      exact (hengaged i hi).of_append

/-! ## Firing before the rollout -/

/-- Where the token had fired before, the body does nothing. -/
theorem Reaches.withheld (h : rollout.Reaches scope env progress w attachments body)
    (hfired : w.fired = true) :
    body.ending = .returned (.error (.startCanary (.wait .cancelled))) ∧
      body.world = (rollout.resolve env scope progress w).world := by
  obtain ⟨v, hresolves, -⟩ := (Abides.anything (rollout.resolveAttachments scope).run
    { progress with diagnostics := {} } _).run env none (World.sees_self w)
  have hresolved : (rollout.resolve env scope progress w).world.fired = true := by
    rw [show (rollout.resolve env scope progress w).world.fired = _ from hresolves.fired_eq, hfired]
    rfl
  obtain ⟨hending, hworld⟩ := start_withheld rollout.engine env _ rollout.taskDefinition attachments
    hresolved
  cases h.proceeds with
  | unstarted stopped body_eq =>
      rw [body_eq]
      dsimp only
      rw [hending]
      exact ⟨rfl, hworld⟩
  | unverified started => cases started.symm.trans hending
  | updating started => cases started.symm.trans hending

/-! ## The whole rollout -/

/-- A rollout has no canaries, or does nothing but stop them once their body has ended. -/
theorem rollOut_stops (rollout : Rollout) (scope : RolloutScope) (env : Environment controlPlane S)
    (progress : Progress) (w : World controlPlane S) :
    let out := rollout.rollOut env scope progress w
    out.world = (rollout.resolve env scope progress w).world ∨ ∃ attachments body,
      rollout.Reaches scope env progress w attachments body ∧
        World.Concerns Stops body.world out.world := by
  intro out
  cases rollout.finishes_rollOut scope env progress w with
  | early unresolved world_eq => exact .inl world_eq
  | stuck reached hung world_eq =>
      refine .inr ⟨_, _, reached, ?_⟩
      rw [show out.world = _ from world_eq]
      exact World.Concerns.refl _
  | cleaned reached world_eq =>
      refine .inr ⟨_, _, reached, ?_⟩
      rw [show out.world = _ from world_eq]
      exact concerns_cleanUp rollout env _ reached.staffs

theorem stops_resolve (rollout : Rollout) (scope : RolloutScope) (env : Environment controlPlane S)
    (progress : Progress) (w : World controlPlane S) :
    World.Concerns Stops w (rollout.resolve env scope progress w).world :=
  (concerns_resolve rollout scope env progress w).mono fun r hr => .inr (by rw [hr]; rfl)

/-- How a rollout took the firing of its token, before which and after which this was done. An
update is asked for afterwards only if the token fired while every canary was at a call of its
verification, and then before anybody pauses again. Where the token fired in a pause, or before the
rollout, at most the cleanup is left to do. -/
structure TakesFiring (rollout : Rollout) (scope : RolloutScope) (already : Bool)
    (before after : List (Entry controlPlane)) (ending : Ending (Except RolloutError Unit)) :
    Prop where
  updates : ∀ between e rest, after = between ++ e :: rest → IsUpdate e.event →
    already = false ∧ ¬EndsAsleep before ∧ Sleepless between ∧ ∃ attachments,
      rollout.Borrows scope attachments (deedsOf none before) ∧
        ∀ i < (Canary.strategies attachments).length, Engaged (deedsOf (some i) before)
  paused : InPause before → (∀ e ∈ before, e.event.Concerns Retains) →
    ∀ result, ending = .returned result → (∀ e ∈ after, e.event.Concerns Stops) ∧
      ∃ e, result = .error e ∧ (e.kind = .cancelled ∨ rollout.FailedBefore scope e before)
  withheld : already = true → (∀ e ∈ after, e.event.Concerns Stops) ∧
    ∀ result, ending = .returned result → ∃ e, result = .error e ∧
      (e.kind = .cancelled ∨ e.kind = .precondition ∨ e.kind = .controlPlane)

theorem rollOut_takesFiring :
    let out := rollout.rollOut env scope progress w
    FiresAt w.fired (out.world.since w) before after →
      rollout.TakesFiring scope w.fired before after out.ending := by
  intro out hfires
  have hresolves := rollout.stops_resolve scope env progress w
  refine ⟨fun between e rest hafter he => ?_, fun hpause hretains result hresult => ?_,
    fun hfired => ⟨fun e he => ?_, fun result hresult => ?_⟩⟩
  · rcases rollout.rollOut_stops scope env progress w with hworld | ⟨attachments, body, h, hstops⟩
    · have hmem : e ∈ out.world.since w := hfires.mem (.inr (by simp [hafter]))
      rw [show out.world = _ from hworld] at hmem
      exact absurd he (not_isUpdate ((hresolves.events e hmem).mono ne_changes_of_stops))
    · subst hafter
      obtain ⟨hunfired, hawake, hsleepless, hverified⟩ := h.updates_after hstops hfires he
      exact ⟨hunfired, hawake, hsleepless, attachments, hverified⟩
  · rcases rollOut_returned hresult with ⟨e, rfl, -, hout⟩ | ⟨attachments, body, h, hbody, hout⟩
    · rw [show out = _ from hout] at hfires
      exact absurd hpause.asleep
        ((rollout.sleepless_resolve scope env progress w).before hfires).not_endsAsleep
    · rw [show out = _ from hout, world_finish] at hfires
      exact h.paused hbody hfires hpause hretains
  · have hmem := hfires.mem (.inr he)
    rcases rollout.rollOut_stops scope env progress w with hworld | ⟨attachments, body, h, hstops⟩
    · rw [show out.world = _ from hworld] at hmem
      exact hresolves.events e hmem
    · rw [(h.withheld hfired).2] at hstops
      exact (hresolves.trans hstops).events e hmem
  · rcases rollOut_returned hresult with ⟨e, rfl, hending, -⟩ | ⟨attachments, body, h, hbody, -⟩
    · exact ⟨e, rfl, .inr (kind_of_unresolved hending)⟩
    · cases hbody.symm.trans (h.withheld hfired).1
      exact ⟨_, rfl, .inl rfl⟩

end GatedRollout.Rollout
