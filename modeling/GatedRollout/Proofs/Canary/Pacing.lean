import GatedRollout.Proofs.Canary.Requests
import GatedRollout.Proofs.Process.Pacing
import GatedRollout.Proofs.Rollout.Canaries

/-!
# The pace of a cleanup

The stop of a canary waits for its task to stop, and before that for its target to leave, as long as
the deregistration delay that it reads allows. Nothing but its own calls and pauses holds it up,
whatever the stops beside it do to the clock.
-/

namespace GatedRollout

theorem Engine.spends_await {σ β : Type} {grants : Grants controlPlane} {gap : Duration}
    (engine : Engine) (what : String) (watch : Watch controlPlane (Except WaitError β) String)
    (hinterval : 0 < watch.interval.nanos) (hgap : watch.interval.nanos ≤ gap.nanos) :
    (engine.await what watch : Activity σ WaitError β).run.Spends grants gap watch.limit.nanos
      fun _ => 0 := by
  refine .bind (.watch watch engine.patience hinterval hgap) fun watched => ?_
  cases watched <;> exact .pure (Nat.zero_le _)

namespace Canary

variable (engine : Engine) (spec : LaunchSpec)

/-! ## Leaving -/

/-- How long the answer to a request lets a stop wait for its target to leave. -/
def drainTime : Grants controlPlane
  | .deregistrationDelay _, .ok delay =>
      (delay.getD defaultDeregistrationDelay).nanos + deregistrationMargin.nanos
  | .deregistrationDelay _, .error _ =>
      defaultDeregistrationDelay.nanos + deregistrationMargin.nanos
  | _, _ => 0

theorem spends_waitTargetGone (target : Target) (limit : Duration) :
    (waitTargetGone engine target limit).run.Spends drainTime healthPollInterval limit.nanos
      fun _ => 0 := by
  refine .attempt (.run_attempt (.watch (targetGoneWatch target limit) engine.patience
    healthPollInterval_pos (Nat.le_refl _))) fun watched => ?_
  cases watched <;> exact .known _

theorem spends_groupDelay (group : TargetGroupArn) :
    (groupDelay group).Spends drainTime healthPollInterval 0
      fun delay => delay.nanos + deregistrationMargin.nanos := by
  have hasked : (Process.ask (ι := controlPlane) (.deregistrationDelay group) :
      Process controlPlane State _).Spends drainTime healthPollInterval 0
        (drainTime (.deregistrationDelay group)) :=
    .ask fun answer => Nat.le_add_left _ _
  refine .bind hasked fun answer => ?_
  cases answer with
  | ok delay => exact .pure (Nat.le_refl _)
  | error e => exact .pure (Nat.le_refl _)

theorem spends_leaveGroup (target : Target) :
    (leaveGroup engine target).Spends drainTime healthPollInterval 0 fun _ => 0 := by
  refine .bind (spends_groupDelay target.group) fun delay => ?_
  have hasked : (Process.ask (ι := controlPlane)
      (.deregisterTarget target.group target.description) :
        Process controlPlane State _).Spends drainTime healthPollInterval
          (delay.nanos + deregistrationMargin.nanos)
          fun _ => delay.nanos + deregistrationMargin.nanos :=
    .ask fun _ => Nat.le_add_right _ _
  refine .bind hasked fun answer => ?_
  cases answer with
  | error e => exact .modify _ (Nat.zero_le _)
  | ok accepted =>
      have hsum := @Duration.nanos_checkedAdd delay deregistrationMargin
      generalize delay.checkedAdd deregistrationMargin = sum at hsum
      cases sum with
      | none => exact fun _ _ => trivial
      | some limit =>
          rw [← hsum rfl]
          refine .bind (spends_waitTargetGone engine target limit) fun result => ?_
          cases result with
          | ok u => exact .pure (Nat.le_refl _)
          | error e => exact .modify _ (Nat.zero_le _)

theorem spends_leaveRegistry (member : RegisteredInstance) :
    (leaveRegistry member).Spends drainTime healthPollInterval 0 fun _ => 0 := by
  refine .bind (.ask fun _ => Nat.le_add_right _ _) fun answer => ?_
  cases answer with
  | ok accepted => exact .pure (Nat.le_refl _)
  | error e => exact .modify _ (Nat.zero_le _)

theorem spends_deregister (strategy : Strategy) :
    (deregister engine strategy).Spends drainTime healthPollInterval 0 fun _ => 0 := by
  cases strategy with
  | standalone => exact .pure (Nat.le_refl _)
  | loadBalanced balancer =>
      refine .bind .state fun s => ?_
      split
      · exact .bind (.modify _ (Nat.le_refl _)) fun _ => spends_leaveGroup engine _
      · exact .pure (Nat.le_refl _)
  | registry registry =>
      refine .bind .state fun s => ?_
      split
      · exact .bind (.modify _ (Nat.le_refl _)) fun _ => spends_leaveRegistry _
      · exact .pure (Nat.le_refl _)

/-! ## Stopping -/

theorem spends_stopTask :
    (stopTask engine).run.Spends drainTime healthPollInterval (engine.limit .taskStopped).nanos
      fun _ => 0 := by
  refine .attempt .attempt_state fun s => ?_
  dsimp only
  split
  · exact .pure (Nat.zero_le _)
  · split
    · exact .attempt_modify _ (Nat.zero_le _)
    · refine .attempt (.attempt_modify _ (Nat.le_refl _)) fun _ => ?_
      refine .attempt (.attempt_ask _ _) fun _ => ?_
      refine .attempt (.within (engine.spends_await _ _ ?_ ?_) _) fun _ => ?_
      · exact taskPollInterval_pos
      · exact taskPollInterval_le
      · exact .attempt_modify _ (Nat.le_refl _)

/-- A stop pays for its pauses with the limit on the stop of its task, and with the time that its
target has to leave. -/
theorem spends_stop (strategy : Strategy) :
    (task engine spec strategy).stop.run.Spends drainTime healthPollInterval
      (engine.limit .taskStopped).nanos fun _ => 0 := by
  have hleave := (spends_deregister engine strategy).frame (engine.limit .taskStopped).nanos
  rw [Nat.zero_add] at hleave
  exact .attempt (.run_attempt hleave) fun _ => spends_stopTask engine

end Canary

/-! ## Cleaning up a set -/

namespace Canary

variable {S : Type} {engine : Engine} {spec : LaunchSpec} {strategies : List Strategy}
  {past : Nat → Deeds} {set : CanarySet controlPlane State} {w : World controlPlane S}

theorem Staffs.spends_stop (h : Staffs engine spec set) :
    ∀ e ∈ set.entries, e.task.stop.run.Spends drainTime healthPollInterval
      (engine.limit .taskStopped).nanos fun _ => 0 := by
  intro e he
  obtain ⟨strategy, htask⟩ := h e he
  rw [htask]
  exact Canary.spends_stop engine spec strategy

variable (env : Environment controlPlane S) (token : Token)

/-- The crew of a cleanup on its way: each stop ends what its canary holds, and all of them keep
their pace. -/
structure Cleans (engine : Engine) (past : Nat → Deeds) (set : CanarySet controlPlane State)
    (earlier : World controlPlane S) (crew : Crew controlPlane State (Except TaskError Unit))
    (w : World controlPlane S) : Prop where
  holds : Crew.Holds
    (fun i _ y => ∀ e, set.entries[i]? = some e → marks y <+: e.state.held ++ e.state.released)
    (fun i _ _ y => ∀ e, set.entries[i]? = some e → marks y = e.state.held ++ e.state.released)
    past earlier set.entries.length crew w
  paced : Crew.Paced env drainTime healthPollInterval earlier set.entries.length
    (set.entries.length * (engine.limit .taskStopped).nanos) crew w

theorem Cleans.sustained :
    Crew.Sustained env token (Cleans env engine past set w) :=
  fun before m after results v hcleans hpanic =>
    ⟨Crew.Holds.steady.sustained before m after results v hcleans.holds hpanic,
      Crew.Paced.sustained before m after results v hcleans.paced hpanic⟩

theorem Musters.cleans_assemble (h : Musters engine spec strategies past Account set w)
    (hstaffs : Staffs engine spec set) :
    Cleans env engine past set w
      (Crew.assemble (set.entries.map fun e => (e.task.stop.run, e.state))) w := by
  let stops := set.entries.map fun e => (e.task.stop.run, e.state)
  have hspends : ∀ p ∈ stops, p.1.Spends drainTime healthPollInterval
      (engine.limit .taskStopped).nanos fun _ => 0 := by
    intro p hp
    obtain ⟨e, he, rfl⟩ := List.mem_map.mp hp
    exact hstaffs.spends_stop e he
  have hpaced : Crew.Paced env drainTime healthPollInterval w stops.length
      (stops.length * (engine.limit .taskStopped).nanos) (Crew.assemble stops) w :=
    Crew.paced_assemble hspends
  have hlength : stops.length = set.entries.length := List.length_map _
  rw [hlength] at hpaced
  exact ⟨hlength ▸ h.stops.assemble, hpaced⟩

/-- A cleanup that does not panic leaves such a crew behind, and is cut off unless every stop of
the crew has finished. -/
theorem Musters.cleans (h : Musters engine spec strategies past Account set w)
    (hstaffs : Staffs engine spec set) (budget : Duration)
    (hpanic : ∀ message, (set.cleanupWithin env token budget w).ending ≠ .panicked message) :
    let out := set.cleanupWithin env token budget w
    ∃ crew,
      Crew.Abandoned (w.roundsWithin env budget) (Cleans env engine past set w) crew out.world ∧
        (out.ending = .hung ∨ ∀ m ∈ crew.members, m.stage.isFinished = true) := by
  have hcloses := (Cleans.sustained env token).fanOutWithin (w.roundsWithin env budget) _ w
    (h.cleans_assemble env hstaffs)
  cases hcloses with
  | panicked message crew ending states panics =>
      exact absurd (by simp [CanarySet.cleanupWithin, CanarySet.gather, ending]) (hpanic message)
  | passed crew ending states holds =>
      refine ⟨crew, holds, ?_⟩
      by_cases hall : crew.members.all (·.stage.isFinished) = true
      · exact .inr (List.all_eq_true.mp hall)
      · rw [if_neg hall] at ending
        exact .inl (by simp [CanarySet.cleanupWithin, CanarySet.gather, ending])

/-- How the stop of one canary stands after a cleanup that did not panic: it has let go of all that
its canary held, or it is in a call, or its budget has run out in a pause, or the clock has come to
its end. -/
theorem Musters.stands (h : Musters engine spec strategies past Account set w)
    (hstaffs : Staffs engine spec set) (budget : Duration)
    (hpanic : ∀ message, (set.cleanupWithin env token budget w).ending ≠ .panicked message)
    {i : Nat} {e : CanarySet.Entry controlPlane State} (he : set.entries[i]? = some e) :
    let out := set.cleanupWithin env token budget w
    let deeds := deedsOf (some i) (out.world.since w)
    marks deeds = e.state.released ∨
      (out.ending = .hung ∧ ∃ r, deeds.getLast? = some (.issued r)) ∨
        (out.ending = .hung ∧ w.roundsWithin env budget ≠ none ∧
          ∃ d, deeds.getLast? = some (.slept d)) ∨
          ¬out.world.clock.HasRoom healthPollInterval := by
  obtain ⟨crew, ⟨⟨hholds, hpaced⟩, hends⟩, hending⟩ := h.cleans env token hstaffs budget hpanic
  obtain ⟨hi, -⟩ := List.getElem?_eq_some_iff.mp he
  obtain ⟨m, hm⟩ : ∃ m, crew.members[i]? = some m :=
    ⟨_, List.getElem?_eq_getElem (hholds.length_eq.symm ▸ hi)⟩
  have hmem := List.mem_of_getElem? hm
  obtain ⟨hbegun, hsettled⟩ := hends _ hmem
  obtain ⟨hactor, x, hx, hstage⟩ := hholds.members i _ hm
  have hstands := hpaced.stands hmem hbegun
  rw [hactor] at hstands hx
  by_cases hfinished : m.stage.isFinished = true
  · left
    obtain ⟨a, ha⟩ := Stage.isFinished_iff.mp hfinished
    rw [ha] at hstage
    obtain ⟨s, y, hs, hy, haccount⟩ :=
      h.each i _ (List.getElem?_eq_getElem (h.length_eq ▸ hi))
    obtain rfl := Option.some.inj (he.symm.trans hs)
    have hwhole := hholds.follows.deeds_eq (some i)
    rw [hx, hy, List.append_assoc] at hwhole
    obtain rfl := List.append_cancel_left hwhole
    have hmarks : marks (y ++ _) = s.held ++ s.released := hstage _ he
    rw [marks_append, haccount.marks_eq] at hmarks
    exact List.append_cancel_left hmarks
  · have hcut := hending.resolve_right fun hall => hfinished (hall _ hmem)
    rcases hstands.resolve_left hfinished with hissued | ⟨hunsettled, hslept⟩ | hfull
    · exact .inr (.inl ⟨hcut, hissued⟩)
    · refine .inr (.inr (.inl ⟨hcut, fun hnone => ?_, hslept⟩))
      exact absurd ((hsettled hnone).symm.trans hunsettled) nofun
    · exact .inr (.inr (.inr hfull))

/-- The clock of a cleanup moves by no more than all of its waits together, where answers take no
time. -/
theorem Musters.clock_cleanup_le (h : Musters engine spec strategies past Account set w)
    (hstaffs : Staffs engine spec set) (budget : Duration) (hpunctual : env.Punctual)
    (hpanic : ∀ message, (set.cleanupWithin env token budget w).ending ≠ .panicked message) :
    let out := set.cleanupWithin env token budget w
    out.world.clock.nanos ≤ w.clock.nanos +
      (strategies.length * (engine.limit .taskStopped).nanos : Nat) +
        ((out.world.since w).map fun e => e.event.granted drainTime).sum := by
  obtain ⟨crew, ⟨⟨-, hpaced⟩, -⟩, -⟩ := h.cleans env token hstaffs budget hpanic
  have hclock := hpaced.clock_le hpunctual
  rw [h.length_eq] at hclock
  exact hclock

end Canary

end GatedRollout
