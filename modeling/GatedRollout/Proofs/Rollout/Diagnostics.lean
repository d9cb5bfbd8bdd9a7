import GatedRollout.Proofs.Canary.Diagnosis
import GatedRollout.Proofs.Rollout.Cleanup

/-!
# What the diagnostics of a rollout say

A rollout that returns has empty diagnostics exactly if its cleanup kept to its budget and whatever
its canaries began was let go, which each canary's own trace shows. Otherwise the diagnostics begin
with what became of the cleanup as a whole, and then have the complaints of the canaries in their
order.
-/

namespace GatedRollout.Rollout

open Canary Process

variable {S σ : Type} {rollout : Rollout} {scope : RolloutScope} {env : Environment controlPlane S}
  {progress : Progress} {w : World controlPlane S} {attachments : Attachments} {body : Body S}

/-! ## Before the cleanup -/

theorem spares_updateService (rollout : Rollout) (scope : RolloutScope) :
    (rollout.updateService scope).run.Spares Progress.diagnostics :=
  .of_maintains fun _ => rollout.conforms_updateService scope trivial trivial fun _ h => h

/-- The diagnostics of a rollout start anew. -/
theorem resolve_diagnostics :
    (rollout.resolve env scope progress w).state.diagnostics = {} :=
  (spares_resolveAttachments rollout scope Progress.diagnostics).run env .caller none
    { progress with diagnostics := {} } w

/-- Until the cleanup, the canaries warn of nothing, and neither does the rollout. -/
theorem verifyAndUpdate_silent (rollout : Rollout) (scope : RolloutScope)
    (env : Environment controlPlane S) (progress : Progress) {engine : Engine} {spec : LaunchSpec}
    {strategies : List Strategy} {past : Nat → Deeds} {canaries : CanarySet controlPlane State}
    (h : Musters engine spec strategies past (fun _ => Silent) canaries w) :
    let body := rollout.verifyAndUpdate env scope progress canaries w
    Musters engine spec strategies past (fun _ => Silent) body.canaries body.world ∧
      body.progress.diagnostics = progress.diagnostics := by
  have hstarted := h.start_silent env .caller
  have hwaited := hstarted.wait_silent env .caller
  unfold verifyAndUpdate
  dsimp only
  split
  · exact ⟨hstarted, rfl⟩
  · exact ⟨hstarted, rfl⟩
  · exact ⟨hstarted, rfl⟩
  · split
    · exact ⟨hwaited, rfl⟩
    · exact ⟨hwaited, rfl⟩
    · exact ⟨hwaited, rfl⟩
    · refine ⟨⟨hwaited.length_eq, fun i strategy hi => ?_⟩,
        (spares_updateService rollout scope).run ..⟩
      obtain ⟨s, y, hs, hy, hsilent⟩ := hwaited.each i strategy hi
      exact ⟨s, y, hs, (run_others env .caller (Option.some_ne_none i).symm ..).trans hy, hsilent⟩

section Reached

variable (h : rollout.Reaches scope env progress w attachments body)

include h

theorem Reaches.silent :
    Musters rollout.engine (.canary rollout.engine rollout.taskDefinition attachments)
      (Canary.strategies attachments) (fun i => w.deeds (some i)) (fun _ => Silent) body.canaries
      body.world ∧ body.progress.diagnostics = {} := by
  obtain ⟨-, hothers, -⟩ := resolve_spec rollout scope env progress w
  obtain ⟨hsilent, hdiagnostics⟩ := verifyAndUpdate_silent rollout scope env
    (rollout.resolve env scope progress w).state
    ((musters_fresh rollout.engine rollout.taskDefinition attachments hothers).mono
      fun _ _ _ hfresh => hfresh.1 ▸ hfresh.2 ▸ silent_fresh rollout.engine.placement)
  rw [← h.body_eq] at hsilent hdiagnostics
  exact ⟨hsilent, hdiagnostics.trans resolve_diagnostics⟩

/-- What each actor has done in a rollout whose cleanup has ended. -/
theorem Reaches.deeds_since (actor : Option Nat) :
    (rollout.cleanUp env body).world.deeds actor = w.deeds actor ++
      deedsOf actor ((rollout.cleanUp env body).world.since w) :=
  (h.follows.trans h.cleanUp.follows).deeds_eq actor

theorem Reaches.idle_beyond {i : Nat} (hi : (Canary.strategies attachments).length ≤ i) :
    deedsOf (some i) ((rollout.cleanUp env body).world.since w) = [] :=
  (h.follows.trans h.cleanUp.follows).deedsOf_since
    ((h.deeds_beyond hi).trans (List.append_nil _).symm)

theorem Reaches.swept :
    Swept rollout.engine.cluster (Canary.strategies attachments).length
      (fun i => deedsOf (some i) ((rollout.cleanUp env body).world.since w)) body.world
      (rollout.cleanUp env body) := by
  exact h.ran.accounts.sweep h.silent.1 env _ (fun i _ => h.deeds_since (some i)) fun i hi =>
    h.idle_beyond hi

theorem Reaches.unique {attachments' : Attachments} {body' : Body S}
    (h' : rollout.Reaches scope env progress w attachments' body') : body' = body := by
  obtain ⟨hresolved, rfl⟩ := h
  obtain ⟨hresolved', rfl⟩ := h'
  cases hresolved.symm.trans hresolved'
  rfl

end Reached

/-! ## The cleanup as a whole -/

/-- The cleanup, if there is one, is over before its budget runs out, wherever in the stops of the
canaries that is. -/
def InBudget (rollout : Rollout) (scope : RolloutScope) (env : Environment controlPlane S)
    (progress : Progress) (w : World controlPlane S) : Prop :=
  ∀ attachments body, rollout.Reaches scope env progress w attachments body →
    (rollout.cleanUp env body).ending ≠ .hung

theorem Reaches.inBudget_iff (h : rollout.Reaches scope env progress w attachments body) :
    rollout.InBudget scope env progress w ↔ (rollout.cleanUp env body).ending ≠ .hung := by
  refine ⟨fun hbudget => hbudget attachments body h, fun hkept attachments' body' h' => ?_⟩
  rw [h.unique h']
  exact hkept

def unstoppedCanary (e : TaskError) : Warning :=
  ⟨.taskStop, s!"failed to stop canary task: {e.message}"⟩

def overdueCleanup (budget : Duration) : Warning :=
  ⟨.cleanupTimeout, s!"canary cleanup did not finish within {budget.seconds}s"⟩

/-- What is said first, of the cleanup as a whole: nothing, or which stop failed first, or that it
took too long. -/
inductive Opening (cluster : String) (budget : Duration) (inBudget : Prop)
    (trace : List (Entry controlPlane)) : List Warning → Prop
  | clean (kept : inBudget)
      (released : ∀ i arn, Mark.launched arn ∈ marks (deedsOf (some i) trace) →
        TaskReleased cluster arn (deedsOf (some i) trace)) :
      Opening cluster budget inBudget trace []
  | unstopped (kept : inBudget) (i : Nat) (e : TaskError)
      (first : FirstUnstopped cluster (fun i => deedsOf (some i) trace) trace i e) :
      Opening cluster budget inBudget trace [unstoppedCanary e]
  | overdue (late : ¬inBudget) : Opening cluster budget inBudget trace [overdueCleanup budget]

/-- What the diagnostics of a rollout with this trace say, in `first` of its cleanup as a whole, and
then in `own` of each of its canaries. -/
structure Reported (cluster : String) (budget : Duration) (inBudget : Prop)
    (trace : List (Entry controlPlane)) (first : List Warning) (own : List (List Warning)) :
    Prop where
  opening : Opening cluster budget inBudget trace first
  /-- Nobody but the canaries has begun anything. -/
  alone : Released cluster (deedsOf none trace)
  beyond : ∀ i, own.length ≤ i → deedsOf (some i) trace = []
  complains : ∀ i ws, own[i]? = some ws → Complains (deedsOf (some i) trace) ws
  places : inBudget → ∀ i ws, own[i]? = some ws →
    (ws = [] ↔ ∀ place, Mark.entered place ∈ marks (deedsOf (some i) trace) →
      PlaceReleased (deedsOf (some i) trace) place)

section Reported

variable {cluster : String} {budget : Duration} {inBudget : Prop}
  {trace : List (Entry controlPlane)} {first : List Warning} {own : List (List Warning)}

theorem released_of_marks {y : Deeds} (h : ∀ m ∈ marks y, ∃ update, m = .updated update) :
    Released cluster y := by
  refine ⟨fun arn hmem => ?_, fun place hmem => ?_⟩
  · obtain ⟨update, heq⟩ := h _ hmem
    cases heq
  · obtain ⟨update, heq⟩ := h _ hmem
    cases heq

theorem released_of_quiet {y : Deeds} (h : marks y = []) : Released cluster y :=
  released_of_marks (by simp [h])

theorem Opening.nil_iff (h : Opening cluster budget inBudget trace first) :
    first = [] ↔ inBudget ∧ ∀ i arn, Mark.launched arn ∈ marks (deedsOf (some i) trace) →
      TaskReleased cluster arn (deedsOf (some i) trace) := by
  cases h with
  | clean kept released => exact ⟨fun _ => ⟨kept, released⟩, fun _ => rfl⟩
  | unstopped kept i e hfirst =>
      obtain ⟨⟨arn, hlaunched, hkept, -⟩, -⟩ := hfirst
      exact ⟨nofun, fun hall => absurd (hall.2 i arn hlaunched) hkept⟩
  | overdue late => exact ⟨nofun, fun hall => absurd hall.1 late⟩

/-- Nothing is said exactly if whatever was begun was let go. -/
theorem Reported.nil_iff (h : Reported cluster budget inBudget trace first own) :
    first ++ own.flatten = [] ↔ inBudget ∧ ∀ actor, Released cluster (deedsOf actor trace) := by
  rw [List.append_eq_nil_iff, h.opening.nil_iff, List.flatten_eq_nil_iff]
  constructor
  · rintro ⟨⟨hkept, htasks⟩, hsilent⟩
    refine ⟨hkept, fun actor => ?_⟩
    cases actor with
    | none => exact h.alone
    | some i =>
        by_cases hi : i < own.length
        · have hown := List.getElem?_eq_getElem hi
          exact ⟨htasks i, (h.places hkept i _ hown).mp (hsilent _ (List.getElem_mem hi))⟩
        · rw [h.beyond i (Nat.le_of_not_lt hi)]
          exact released_of_quiet rfl
  · rintro ⟨hkept, hreleased⟩
    refine ⟨⟨hkept, fun i => (hreleased (some i)).tasks⟩, fun ws hmem => ?_⟩
    obtain ⟨i, hi, rfl⟩ := List.getElem_of_mem hmem
    exact (h.places hkept i _ (List.getElem?_eq_getElem hi)).mpr (hreleased (some i)).places

end Reported

/-! ## The diagnostics -/

/-- A rollout that returns after its cleanup says what that says. -/
theorem finish_warnings (rollout : Rollout) {result : Except RolloutError Unit}
    (h : (rollout.finish env body).ending = .returned result)
    (hnew : body.progress.diagnostics = {}) :
    (∀ message, (rollout.cleanUp env body).ending ≠ .panicked message) ∧
      (rollout.finish env body).state.diagnostics.warnings =
        cleanupWarnings rollout.engine.config.canary.cleanupTimeout
            (rollout.cleanUp env body).ending ++
          (ownWarnings (rollout.cleanUp env body).state).flatten := by
  unfold finish at h ⊢
  dsimp only at h ⊢
  split at h
  · cases h
  · next hending =>
      refine ⟨hending, ?_⟩
      rw [hnew, warnings_eq_flatten]
      rfl

theorem Reaches.opening (h : rollout.Reaches scope env progress w attachments body)
    (hreturns : ∀ message, (rollout.cleanUp env body).ending ≠ .panicked message) :
    Opening rollout.engine.cluster rollout.engine.config.canary.cleanupTimeout
      (rollout.InBudget scope env progress w) ((rollout.cleanUp env body).world.since w)
      (cleanupWarnings rollout.engine.config.canary.cleanupTimeout
        (rollout.cleanUp env body).ending) := by
  have hswept := h.swept
  have hbudget := h.inBudget_iff
  cases hending : (rollout.cleanUp env body).ending with
  | panicked message => exact absurd hending (hreturns message)
  | hung => exact .overdue fun hkept => hbudget.mp hkept hending
  | returned result =>
      have hkept := hbudget.mpr (by simp [hending])
      cases result with
      | error e =>
          obtain ⟨i, -, hfirst⟩ := hswept.failed e hending
          -- The sweep has ordered the deeds of the cleanup, and those of the body come before.
          have hfirst := hfirst.extend (body.world.since w)
          rw [← h.follows.since_trans h.cleanUp.follows] at hfirst
          exact .unstopped hkept i e hfirst
      | ok u =>
          refine .clean hkept fun i arn hlaunched => ?_
          by_cases hi : i < (ownWarnings (rollout.cleanUp env body).state).length
          · obtain ⟨a, hdiagnosed, hok⟩ := hswept.returned _ hending i _
              (List.getElem?_eq_getElem hi)
            exact hdiagnosed.tasks.mp (hok rfl) arn hlaunched
          · rw [h.idle_beyond (hswept.length_eq ▸ Nat.le_of_not_lt hi)] at hlaunched
            cases hlaunched

theorem Reaches.reported (h : rollout.Reaches scope env progress w attachments body)
    (hreturns : ∀ message, (rollout.cleanUp env body).ending ≠ .panicked message) :
    Reported rollout.engine.cluster rollout.engine.config.canary.cleanupTimeout
      (rollout.InBudget scope env progress w) ((rollout.cleanUp env body).world.since w)
      (cleanupWarnings rollout.engine.config.canary.cleanupTimeout
        (rollout.cleanUp env body).ending)
      (ownWarnings (rollout.cleanUp env body).state) where
  opening := h.opening hreturns
  alone := by
    obtain ⟨y, hy, hmarks⟩ := h.own_marks
    rw [(h.follows.trans h.cleanUp.follows).deedsOf_since (h.deeds_none.trans hy)]
    rcases hmarks with hnone | hupdated
    · exact released_of_quiet hnone
    · refine released_of_marks fun m hm => ?_
      rw [hupdated] at hm
      exact ⟨_, List.mem_singleton.mp hm⟩
  beyond := fun i hi => h.idle_beyond (h.swept.length_eq ▸ hi)
  complains := h.swept.complains
  places := by
    intro hkept i ws hws
    cases hending : (rollout.cleanUp env body).ending with
    | panicked message => exact absurd hending (hreturns message)
    | hung => exact absurd hending (h.inBudget_iff.mp hkept)
    | returned result =>
        obtain ⟨a, hdiagnosed, -⟩ := h.swept.returned _ hending i ws hws
        exact hdiagnosed.places

/-- A rollout without canaries has begun nothing. -/
theorem reported_unresolved
    (h : ∀ attachments,
      (rollout.resolve env scope progress w).ending ≠ .returned (.ok attachments)) :
    Reported rollout.engine.cluster rollout.engine.config.canary.cleanupTimeout
      (rollout.InBudget scope env progress w)
      ((rollout.resolve env scope progress w).world.since w) [] [] := by
  obtain ⟨hfollows, hothers, y, hy, hquiet, -⟩ := resolve_spec rollout scope env progress w
  have hidle : ∀ i, deedsOf (some i) ((rollout.resolve env scope progress w).world.since w) = [] :=
    fun i => hfollows.deedsOf_since ((hothers i).trans (List.append_nil _).symm)
  refine ⟨.clean (fun attachments body hreached => absurd hreached.resolved (h attachments)) ?_, ?_,
    fun i _ => hidle i, nofun, nofun⟩
  · intro i arn hlaunched
    rw [hidle] at hlaunched
    cases hlaunched
  · rw [hfollows.deedsOf_since hy]
    exact released_of_quiet hquiet

/-- The diagnostics of a rollout that returns are empty exactly if its cleanup kept to its budget
and whatever was begun was let go. They begin with what became of the cleanup as a whole, go on with
the complaints of the canaries in their order, and have nothing from before the rollout. -/
theorem rollOut_diagnoses (rollout : Rollout) (scope : RolloutScope)
    (env : Environment controlPlane S) (progress : Progress) (w : World controlPlane S)
    {result : Except RolloutError Unit}
    (h : (rollout.rollOut env scope progress w).ending = .returned result) :
    let out := rollout.rollOut env scope progress w
    let trace := out.world.since w
    let inBudget := rollout.InBudget scope env progress w
    (out.state.diagnostics.warnings = [] ↔
      inBudget ∧ ∀ actor, Released rollout.engine.cluster (deedsOf actor trace)) ∧
    (∃ first own, out.state.diagnostics.warnings = first ++ own.flatten ∧
      Reported rollout.engine.cluster rollout.engine.config.canary.cleanupTimeout inBudget trace
        first own) ∧
    ∀ earlier, rollout.rollOut env scope { progress with diagnostics := earlier } w = out := by
  intro out trace inBudget
  have hreported : ∃ first own, out.state.diagnostics.warnings = first ++ own.flatten ∧
      Reported rollout.engine.cluster rollout.engine.config.canary.cleanupTimeout inBudget trace
        first own := by
    rcases rollOut_returned h with ⟨e, -, hresolved, hout⟩ | ⟨attachments, body, hreached, -, hout⟩
    · have hunresolved : ∀ attachments,
          (rollout.resolve env scope progress w).ending ≠ .returned (.ok attachments) := by
        simp [hresolved]
      refine ⟨[], [], ?_, ?_⟩
      · rw [show out.state = _ from congrArg Aftermath.state hout, resolve_diagnostics]
        rfl
      · rw [show trace = _ from congrArg (·.world.since w) hout]
        exact reported_unresolved hunresolved
    · rw [hout] at h
      obtain ⟨hreturns, hwarnings⟩ := finish_warnings rollout h hreached.silent.2
      refine ⟨_, _, (congrArg (·.state.diagnostics.warnings) hout).trans hwarnings, ?_⟩
      rw [show trace = _ from congrArg (·.world.since w) hout, world_finish]
      exact hreached.reported hreturns
  refine ⟨?_, hreported, fun _ => rfl⟩
  obtain ⟨first, own, hwarnings, hfirst⟩ := hreported
  rw [hwarnings]
  exact hfirst.nil_iff

/-- It refuses to let go of what a canary began. -/
def Bench.holding : Environment controlPlane Bench where
  react bench now
    | .deregisterTarget .. | .stopTask .. =>
        (⟨.zero, false, 0, .answer (.error (.rejected "AccessDenied" "not allowed"))⟩, bench)
    | r => Bench.environment.react bench now r
  wake := Bench.environment.wake

/-- It takes a while over every answer, and a budget runs out in the meantime. -/
def Bench.slow : Environment controlPlane Bench where
  react bench now r :=
    let (reaction, bench) := Bench.environment.react bench now r
    ({ reaction with yields := 2 }, bench)
  wake := Bench.environment.wake
  expires _ _ _ := some 4

/-- What an earlier rollout may have left. -/
def stale : Progress := { diagnostics := ⟨[overdueCleanup .zero]⟩ }

theorem rollOut_diagnoses_sample :
    let out := sample.rollOut Bench.environment .taskDefinition stale Bench.world
    let held := sample.rollOut Bench.holding .taskDefinition stale Bench.world
    let cut := sample.rollOut Bench.slow .taskDefinition stale Bench.world
    (out.state.diagnostics.warnings = [] ∧
      sample.InBudget .taskDefinition Bench.environment stale Bench.world ∧
        ∀ actor, Released "prod" (deedsOf actor (out.world.since Bench.world))) ∧
    (held.state.diagnostics.warnings.map (·.kind) = [.taskStop, .targetDeregistration] ∧
      ¬(sample.InBudget .taskDefinition Bench.holding stale Bench.world ∧
        ∀ actor, Released "prod" (deedsOf actor (held.world.since Bench.world)))) ∧
    cut.state.diagnostics.warnings.map (·.kind) = [.cleanupTimeout] ∧
      ¬(sample.InBudget .taskDefinition Bench.slow stale Bench.world ∧
        ∀ actor, Released "prod" (deedsOf actor (cut.world.since Bench.world))) := by
  have hout : (sample.rollOut Bench.environment .taskDefinition stale Bench.world).ending =
      .returned (.ok ()) := by rfl
  have hsilent : (sample.rollOut Bench.environment .taskDefinition stale
      Bench.world).state.diagnostics.warnings = [] := by rfl
  have hheld : (sample.rollOut Bench.holding .taskDefinition stale Bench.world).ending =
      .returned (.ok ()) := by rfl
  have hwarned : (sample.rollOut Bench.holding .taskDefinition stale
      Bench.world).state.diagnostics.warnings.map (·.kind) =
        [.taskStop, .targetDeregistration] := by rfl
  have hcut : (sample.rollOut Bench.slow .taskDefinition stale Bench.world).ending =
      .returned (.ok ()) := by rfl
  have hlate : (sample.rollOut Bench.slow .taskDefinition stale
      Bench.world).state.diagnostics.warnings.map (·.kind) = [.cleanupTimeout] := by rfl
  intro out held cut
  refine ⟨⟨hsilent, (rollOut_diagnoses _ _ _ _ _ hout).1.mp hsilent⟩,
    ⟨hwarned, fun hreleased => ?_⟩, hlate, fun hreleased => ?_⟩
  · rw [(rollOut_diagnoses _ _ _ _ _ hheld).1.mpr hreleased] at hwarned
    cases hwarned
  · rw [(rollOut_diagnoses _ _ _ _ _ hcut).1.mpr hreleased] at hlate
    cases hlate

end GatedRollout.Rollout
