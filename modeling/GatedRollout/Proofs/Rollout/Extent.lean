import GatedRollout.Proofs.Canary.Extent
import GatedRollout.Proofs.Process.Token
import GatedRollout.Proofs.Rollout.Cleanup
import GatedRollout.Proofs.Rollout.Requests

/-!
# How far a rollout went

What a rollout returns tells how far it went: which of its calls it came to make, which canaries it
launched and waited for, and what became of the update. A caller can decide by the result alone
whether the service was left as it was.
-/

namespace GatedRollout.Rollout

open Canary

variable {S σ : Type} {rollout : Rollout} {scope : RolloutScope} {env : Environment controlPlane S}
  {progress : Progress} {w : World controlPlane S} {attachments : Attachments} {body : Body S}

/-! ## What a result tells -/

/-- The one description of the service, with its answer. -/
def described (rollout : Rollout) (answer : Except ClientError (Option Service)) :
    List (Option Nat × Event controlPlane) :=
  let r : ControlPlane.Request :=
    .describeService rollout.engine.cluster rollout.engine.service
  [(none, .issued r), (none, .returned r answer)]

/-- The one update of the service, with its answer. -/
def updated (rollout : Rollout) (scope : RolloutScope) (answer : Except ClientError Unit) :
    List (Option Nat × Event controlPlane) :=
  let r : ControlPlane.Request := .updateService (rollout.update scope)
  [(none, .issued r), (none, .returned r answer)]

/-- The history of a rollout with canaries, divided into its body, which lets go of nothing, and the
cleanup. -/
structure Divides (rollout : Rollout) (scope : RolloutScope) (attachments : Attachments)
    (trace body cleanup : List (Entry controlPlane)) : Prop where
  trace_eq : trace = body ++ cleanup
  borrowed : rollout.Borrows scope attachments (deedsOf none body)
  retains : ∀ e ∈ body, e.event.Concerns Retains
  stops : ∀ e ∈ cleanup, e.event.Concerns Stops

/-- Some canary was not launched: those before it were, and neither it nor those after it, of which
there may be none. -/
structure Unstarted (attachments : Attachments) (cancelled : Bool) (e : TaskError)
    (trace : List (Entry controlPlane)) : Prop where
  launches : ∃ k before failure, k < (Canary.strategies attachments).length ∧
    LaunchedInOrder 0 k before ∧ Unlaunched k cancelled e failure ∧
      callsFor .launches trace = before ++ failure
  registers : callsFor .registers trace = []
  changes : callsFor .changes trace = []

/-- Every canary was launched and waited for to its end, and some canary failed. -/
structure Unverified (rollout : Rollout) (attachments : Attachments) (e : TaskError)
    (trace body : List (Entry controlPlane)) : Prop where
  launches : LaunchedInOrder 0 (Canary.strategies attachments).length (callsFor .launches trace)
  concluded : ∀ i strategy, (Canary.strategies attachments)[i]? = some strategy → ∃ result,
    Concludes rollout.engine (.canary rollout.engine rollout.taskDefinition attachments) strategy
      result (deedsOf (some i) body)
  failed : ∃ i strategy, (Canary.strategies attachments)[i]? = some strategy ∧
    Concludes rollout.engine (.canary rollout.engine rollout.taskDefinition attachments) strategy
      (.error e) (deedsOf (some i) body)
  changes : callsFor .changes trace = []

/-- What its result tells of the history of a rollout, before which the token had fired or not. -/
def Extent (rollout : Rollout) (scope : RolloutScope) (fired : Bool)
    (trace : List (Entry controlPlane)) : Except RolloutError Unit → Prop
  | .error .missingServiceDefinition => calls (fun _ => true) trace = []
  | .error (.describeService _ e) =>
      calls (fun _ => true) trace = rollout.described (.error e)
  | .error (.serviceNotFound _) => calls (fun _ => true) trace = rollout.described (.ok none)
  | .error (.serviceInactive _) => ∃ live, live.isInactive = true ∧
      calls (fun _ => true) trace = rollout.described (.ok (some live))
  | .error (.startCanary e) => ∃ attachments body cleanup,
      rollout.Divides scope attachments trace body cleanup ∧
        Unstarted attachments (fired || body.any (·.event.isFired)) e trace
  | .error (.verifyCanary e) => ∃ attachments body cleanup,
      rollout.Divides scope attachments trace body cleanup ∧
        rollout.Unverified attachments e trace body
  | .error (.updateService _ e) => callsFor .changes trace = rollout.updated scope (.error e)
  | .error (.serviceStable _ _) => callsFor .changes trace = rollout.updated scope (.ok ())
  | .ok () => callsFor .changes trace = rollout.updated scope (.ok ())

/-! ## Before the canaries -/

theorem secures_unresolved (rollout : Rollout) (scope : RolloutScope) (fired : Bool) (s : σ) :
    Secures recorded (fun _ _ => True)
      (fun result _ y => ∀ e trace, result = .error e →
        calls (fun _ => true) trace = callsOf (fun _ => true) none y →
          rollout.Extent scope fired trace (.error e))
      (rollout.resolveAttachments scope).run s [] := by
  cases scope with
  | configuration =>
      unfold resolveAttachments
      cases rollout.pending with
      | none =>
          refine Secures.attempt_throw fun e trace he hcalls => ?_
          cases he
          exact hcalls
      | some definition => exact Secures.attempt_pure nofun
  | taskDefinition =>
      refine Secures.recorded_ask_then trivial (fun found => ?_) (fun c e trace he hcalls => ?_)
      · refine Secures.attempt_lift fun e trace he hcalls => ?_
        cases found with
        | none =>
            cases he
            exact hcalls
        | some live =>
            unfold liveAttachments at he
            dsimp only at he
            split at he
            · next hinactive =>
                cases he
                exact ⟨live, hinactive, hcalls⟩
            · cases he
      · cases he
        exact hcalls

theorem resolve_extent (rollout : Rollout) (scope : RolloutScope)
    (env : Environment controlPlane S) (progress : Progress) (w : World controlPlane S)
    {e : RolloutError}
    (h : (rollout.resolve env scope progress w).ending = .returned (.error e)) :
    rollout.Extent scope w.fired ((rollout.resolve env scope progress w).world.since w)
      (.error e) := by
  let begun : Progress := { progress with diagnostics := {} }
  have hcalls : calls (fun _ => true) (World.since _ w) = _ :=
    calls_run env .caller none (rollout.resolveAttachments scope).run begun w
  obtain ⟨y, hy, hsecured⟩ := (secures_unresolved rollout scope w.fired begun).run env .caller none
    (List.append_nil (w.deeds none)).symm
  rw [(run_follows ..).deedsOf_since hy] at hcalls
  have hending : (run env .caller none (rollout.resolveAttachments scope).run begun w).ending =
      .returned (.error e) := h
  rw [hending] at hsecured
  exact hsecured e _ rfl hcalls

/-! ## The update -/

/-- The changes among the deeds of the rollout itself. -/
abbrev ownChanges (y : Deeds) : List (Option Nat × Event controlPlane) :=
  callsOf (fun r : ControlPlane.Request => r.role == .changes) none y

theorem ownChanges_of_about {es : Deeds} {r : ControlPlane.Request} (hr : r.role ≠ .changes)
    (h : ∀ e ∈ es, e.IsAbout (ι := controlPlane) r) : ownChanges es = [] := by
  rw [ownChanges, callsOf, List.map_eq_nil_iff, List.filter_eq_nil_iff]
  intro e he
  have habout := h e he
  cases e with
  | issued r' =>
      obtain rfl : r' = r := habout
      simpa [Event.isCall] using hr
  | returned r' answer =>
      obtain rfl : r' = r := habout
      simpa [Event.isCall] using hr
  | slept d => simp [Event.isCall]
  | fired => simp [Event.isCall]

theorem secures_updated (rollout : Rollout) (scope : RolloutScope) (fired : Bool)
    (progress : Progress) :
    Secures recorded (fun _ _ => True)
      (fun result _ y => ∀ trace, callsFor .changes trace = ownChanges y →
        rollout.Extent scope fired trace result)
      (rollout.updateService scope).run progress [] := by
  refine Secures.recorded_ask_then trivial (fun accepted => ?_) (fun e trace hcalls => hcalls)
  let first : Deeds := [.issued (.updateService (rollout.update scope)),
    .returned (.updateService (rollout.update scope)) (.ok accepted)]
  have haccepted : ∀ es : Deeds,
      (∀ e ∈ es, e.IsAbout (ι := controlPlane)
        (.describeService rollout.engine.cluster rollout.engine.service)) →
      ∀ trace, callsFor .changes trace = ownChanges (first ++ es) →
        callsFor .changes trace = rollout.updated scope (.ok ()) := by
    intro es hes trace hcalls
    rw [ownChanges, callsOf_append, ← ownChanges, ← ownChanges,
      ownChanges_of_about (by exact nofun) hes, List.append_nil] at hcalls
    exact hcalls
  refine Secures.modify_then (Secures.attempt
    (Q := fun result _ y => ∀ trace, callsFor .changes trace = ownChanges y →
      rollout.Extent scope fired trace (result.map fun _ => ())) ?_ ?_ ?_)
  · refine Secures.attempt_within (Engine.secures_await_recorded _ _ _ (fun _ _ => trivial) ?_)
    intro es result hes trace hcalls
    cases result with
    | ok service => exact haccepted es hes.about trace hcalls
    | error e => exact haccepted es hes.about trace hcalls
  · exact fun _ _ _ hpost => Secures.attempt_pure hpost
  · exact fun _ _ _ hpost => hpost

theorem updateService_extent (rollout : Rollout) (scope : RolloutScope)
    (env : Environment controlPlane S) (progress : Progress) (w : World controlPlane S)
    (fired : Bool) {result : Except RolloutError Unit} :
    let out := run env .caller none (rollout.updateService scope).run progress w
    out.ending = .returned result → ∀ trace,
      callsFor .changes trace = callsFor .changes (out.world.since w) →
        rollout.Extent scope fired trace result := by
  intro out h trace htrace
  have hcalls : callsFor .changes (World.since _ w) = _ := calls_run env .caller none
    (rollout.updateService scope).run progress w
  obtain ⟨y, hy, hsecured⟩ := (secures_updated rollout scope fired progress).run env .caller none
    (List.append_nil (w.deeds none)).symm
  rw [(run_follows ..).deedsOf_since hy] at hcalls
  rw [show (run env .caller none _ progress w).ending = .returned result from h] at hsecured
  exact hsecured trace (htrace.trans hcalls)

/-! ## The whole rollout -/

theorem Reaches.divides (h : rollout.Reaches scope env progress w attachments body) :
    rollout.Divides scope attachments ((rollout.cleanUp env body).world.since w)
      (body.world.since w) ((rollout.cleanUp env body).world.since body.world) := by
  obtain ⟨hfollows, -, y, hy, -, hborrows⟩ := resolve_spec rollout scope env progress w
  have hresolved : World.Concerns Retains w (rollout.resolve env scope progress w).world :=
    (asks_resolve rollout scope).run env .caller none _ (World.Concerns.refl w)
  have hbody := hresolved.trans h.concerns
  have hcleaned := concerns_cleanUp rollout env body h.staffs
  refine ⟨hbody.follows.since_trans hcleaned.follows, ?_, hbody.events, hcleaned.events⟩
  rw [hfollows.since_trans h.concerns.follows, deedsOf_append, hfollows.deedsOf_since hy]
  exact (hborrows attachments h.resolved).append _

/-- Whatever does not read or let go is asked for between the resolution and the cleanup. -/
theorem Reaches.callsFor_eq (h : rollout.Reaches scope env progress w attachments body)
    (role : ControlPlane.Role) (hreads : role ≠ .reads) (hreleases : role ≠ .releases) :
    callsFor role ((rollout.cleanUp env body).world.since w) =
      callsFor role (body.world.since (rollout.resolve env scope progress w).world) := by
  have hresolved := concerns_resolve rollout scope env progress w
  have hcleaned := concerns_cleanUp rollout env body h.staffs
  have hbefore : callsFor role ((rollout.resolve env scope progress w).world.since w) = [] := by
    refine callsFor_eq_nil hresolved fun r hr hrole => ?_
    subst hr
    exact hreads hrole.symm
  have hafter : callsFor role ((rollout.cleanUp env body).world.since body.world) = [] := by
    refine callsFor_eq_nil hcleaned fun r hr hrole => ?_
    rcases hr with hr | hr <;> simp_all
  rw [h.divides.trace_eq, callsFor_append, hresolved.follows.since_trans h.concerns.follows,
    callsFor_append, hbefore, hafter, List.nil_append, List.append_nil]

/-- As long as canaries are only started, the history tells whether the token has fired. -/
theorem sees_begun (rollout : Rollout) (scope : RolloutScope) (env : Environment controlPlane S)
    (progress : Progress) (w : World controlPlane S) (attachments : Attachments) :
    ∃ v, World.Sees w (rollout.begun scope env progress w attachments).world v := by
  obtain ⟨v, hresolved, -⟩ := (Abides.anything (rollout.resolveAttachments scope).run
    { progress with diagnostics := {} } _).run env none (World.sees_self w)
  exact CanarySet.sees_startFrom _ 0 _ ⟨v, hresolved⟩

/-- A rollout that did not start its canaries. -/
theorem Reaches.extent_unstarted (h : rollout.Reaches scope env progress w attachments body)
    {e : TaskError} :
    let started := rollout.begun scope env progress w attachments
    started.ending = .returned (.error e) → body.world = started.world →
      rollout.Extent scope w.fired ((rollout.cleanUp env body).world.since w)
        (.error (.startCanary e)) := by
  intro started hending hworld
  have hconcerns := rollout.concerns_begun scope env progress w attachments
  obtain ⟨v, hsees⟩ := rollout.sees_begun scope env progress w attachments
  refine ⟨attachments, _, _, h.divides, ?_, ?_, ?_⟩
  · rw [h.callsFor_eq .launches nofun nofun, hworld, ← hsees.fired_eq]
    exact (start_extent env .caller rollout.engine rollout.taskDefinition attachments _).2 e hending
  · rw [h.callsFor_eq .registers nofun nofun, hworld]
    exact callsFor_eq_nil hconcerns fun r hr => by simp [show r.role = .launches from hr]
  · rw [h.callsFor_eq .changes nofun nofun, hworld]
    exact callsFor_eq_nil hconcerns ne_changes_of_launches

/-- A rollout that did not verify its canaries. -/
theorem Reaches.extent_unverified (h : rollout.Reaches scope env progress w attachments body)
    {e : TaskError} :
    let started := rollout.begun scope env progress w attachments
    let waited := rollout.awaited scope env progress w attachments
    started.ending = .returned (.ok ()) → waited.ending = .returned (.error e) →
      body.world = waited.world →
        rollout.Extent scope w.fired ((rollout.cleanUp env body).world.since w)
          (.error (.verifyCanary e)) := by
  intro started waited hstarted hwaited hworld
  have hconcerns := rollout.concerns_begun scope env progress w attachments
  have hconcerns' := rollout.concerns_awaited scope env progress w attachments
  have hsince : body.world.since (rollout.resolve env scope progress w).world =
      started.world.since (rollout.resolve env scope progress w).world ++
        waited.world.since started.world := by
    rw [hworld]
    exact hconcerns.follows.since_trans hconcerns'.follows
  -- Before the canaries were started, they have done nothing.
  have hdeeds : ∀ i, deedsOf (some i) (body.world.since w) =
      deedsOf (some i) (waited.world.since (rollout.resolve env scope progress w).world) := by
    intro i
    obtain ⟨hfollows, hothers, -⟩ := resolve_spec rollout scope env progress w
    rw [hfollows.since_trans h.concerns.follows, deedsOf_append, hworld,
      hfollows.deedsOf_since ((hothers i).trans (List.append_nil _).symm), List.nil_append]
  obtain ⟨results, -, hresult, hall, hconcludes⟩ := wait_extent hstarted hwaited
  refine ⟨attachments, _, _, h.divides, ?_, ?_, ?_, ?_⟩
  · rw [h.callsFor_eq .launches nofun nofun, hsince, callsFor_append,
      callsFor_eq_nil hconcerns' ne_launches_of_waits, List.append_nil]
    exact (start_extent env .caller rollout.engine rollout.taskDefinition attachments _).1 hstarted
  · intro i strategy hi
    obtain ⟨r, hr⟩ := hall i strategy hi
    obtain ⟨strategy', hi', hconcluded⟩ := hconcludes i r hr
    cases hi.symm.trans hi'
    exact ⟨r, (hdeeds i).symm ▸ hconcluded⟩
  · obtain ⟨i, hi⟩ := CanarySet.firstError_error hresult.symm
    obtain ⟨strategy, hstrategy, hconcluded⟩ := hconcludes i _ hi
    exact ⟨i, strategy, hstrategy, (hdeeds i).symm ▸ hconcluded⟩
  · rw [h.callsFor_eq .changes nofun nofun, hsince, callsFor_append,
      callsFor_eq_nil hconcerns ne_changes_of_launches,
      callsFor_eq_nil hconcerns' ne_changes_of_waits]
    rfl

/-- A rollout that came to the update. -/
theorem Reaches.extent_updating (h : rollout.Reaches scope env progress w attachments body)
    {result : Except RolloutError Unit} :
    let updated := rollout.renewed scope env progress w attachments
    updated.ending = .returned result → body.world = updated.world →
      rollout.Extent scope w.fired ((rollout.cleanUp env body).world.since w) result := by
  intro updated hending hworld
  have hstarted := rollout.concerns_begun scope env progress w attachments
  have hwaited := rollout.concerns_awaited scope env progress w attachments
  have hupdated := rollout.follows_renewed scope env progress w attachments
  refine updateService_extent rollout scope env _ _ w.fired hending _ ?_
  have hbefore : callsFor .changes ((rollout.awaited scope env progress w attachments).world.since
      (rollout.resolve env scope progress w).world) = [] := by
    rw [hstarted.follows.since_trans hwaited.follows, callsFor_append,
      callsFor_eq_nil hstarted ne_changes_of_launches, callsFor_eq_nil hwaited ne_changes_of_waits]
    rfl
  rw [h.callsFor_eq .changes nofun nofun, hworld,
    (hstarted.follows.trans hwaited.follows).since_trans hupdated, callsFor_append, hbefore]
  rfl

theorem Reaches.extent (h : rollout.Reaches scope env progress w attachments body)
    {result : Except RolloutError Unit} (hresult : body.ending = .returned result) :
    rollout.Extent scope w.fired ((rollout.cleanUp env body).world.since w) result := by
  cases h.proceeds with
  | unstarted stopped body_eq =>
      rw [body_eq] at hresult
      obtain ⟨inner, hinner, rfl⟩ := Ending.of_mapError hresult
      cases inner with
      | ok u => exact absurd hinner stopped
      | error e => exact h.extent_unstarted hinner (congrArg Body.world body_eq)
  | unverified started stopped body_eq =>
      rw [body_eq] at hresult
      obtain ⟨inner, hinner, rfl⟩ := Ending.of_mapError hresult
      cases inner with
      | ok u => exact absurd hinner stopped
      | error e => exact h.extent_unverified started hinner (congrArg Body.world body_eq)
  | updating started verified body_eq =>
      exact h.extent_updating ((congrArg Body.ending body_eq).symm.trans hresult)
        (congrArg Body.world body_eq)

/-- A rollout that returns has gone exactly as far as its result tells. -/
theorem rollOut_extent {result : Except RolloutError Unit}
    (h : (rollout.rollOut env scope progress w).ending = .returned result) :
    rollout.Extent scope w.fired ((rollout.rollOut env scope progress w).world.since w) result := by
  rcases rollOut_returned h with ⟨e, rfl, hending, hout⟩ | ⟨attachments, body, reached, hbody, hout⟩
  · rw [hout]
    exact resolve_extent rollout scope env progress w hending
  · rw [hout, world_finish]
    exact reached.extent hbody

theorem rollOut_extent_sample :
    let out := sample.rollOut Bench.environment .taskDefinition {} Bench.world
    let late : World controlPlane Bench := .start default true Bench.sample
    let withheld := sample.rollOut Bench.environment .taskDefinition {} late
    callsFor .changes (out.world.since Bench.world) = sample.updated .taskDefinition (.ok ()) ∧
      withheld.ending = .returned (.error (.startCanary (.wait .cancelled))) ∧
        sample.Extent .taskDefinition late.fired (withheld.world.since late)
          (.error (.startCanary (.wait .cancelled))) := by
  have hok : (sample.rollOut Bench.environment .taskDefinition {} Bench.world).ending =
      .returned (.ok ()) := by rfl
  have hwithheld : (sample.rollOut Bench.environment .taskDefinition {}
      (.start default true Bench.sample)).ending =
        .returned (.error (.startCanary (.wait .cancelled))) := by rfl
  exact ⟨rollOut_extent hok, hwithheld, rollOut_extent hwithheld⟩

end GatedRollout.Rollout
