import GatedRollout.Creation
import GatedRollout.Proofs.Canary.Panics
import GatedRollout.Proofs.Naming.Names
import GatedRollout.Proofs.Rollout.Cleanup
import GatedRollout.Proofs.Rollout.Requests
import GatedRollout.Recreate.Basic
import GatedRollout.RunOnce

/-!
# Panics

Where no call crashes, nothing panics but the stop of a canary, and with it the cleanup of a
rollout: a deregistration delay may be read that is too long for the margin to be added to it. No
other sum, difference, count or slice goes out of range.
-/

namespace GatedRollout

variable {S σ : Type} {replies : (r : ControlPlane.Request) →
  Except ClientError (controlPlane.Reply r) → Prop} {allowed : String → Prop}

/-! ## Differences and counts -/

/-- Any two instants are closer to each other than a clock can step. -/
theorem Instant.distance_le (t u : Instant) :
    (t.nanos - u.nanos).natAbs ≤ Instant.longestStep := by
  have := t.earliest_le
  have := t.le_latest
  have := u.earliest_le
  have := u.le_latest
  simp only [Instant.longestStep, UInt64.size, nanosPerMilli]
  omega

/-- What a watch may carry from one reply to the next. -/
inductive Watch.Carries {ι : Interface} {β γ : Type} (watch : Watch ι β γ) : γ → Prop
  | unseen : watch.Carries watch.unseen
  | pending {seen seen' : γ} {reply : ι.Reply watch.request} (carried : watch.Carries seen)
      (judged : watch.judge seen reply = .pending seen') : watch.Carries seen'

/-- Judgements that agree on what is carried make the same watch. -/
theorem Watch.run_congr {ι : Interface} {σ β γ : Type} (watch : Watch ι β γ)
    {judge : γ → ι.Reply watch.request → Judgement β γ}
    (h : ∀ seen, watch.Carries seen → judge seen = watch.judge seen) (patience : Nat) :
    ({ watch with judge } : Watch ι β γ).run patience =
      (watch.run patience : Process ι σ (Watched β γ)) := by
  have hpoll : ∀ deadline n seen, watch.Carries seen →
      ({ watch with judge } : Watch ι β γ).poll deadline n seen =
        (watch.poll deadline n seen : Process ι σ (Watched β γ)) := by
    intro deadline n
    induction n with
    | zero => exact fun _ _ => rfl
    | succ n ih =>
        intro seen hseen
        refine congrArg (Process.call watch.request) (funext fun answer => ?_)
        cases answer with
        | error e => rfl
        | ok reply =>
            dsimp only
            rw [h seen hseen]
            cases hjudged : watch.judge seen reply with
            | settled b => rfl
            | pending seen' =>
                have hpolled := ih seen' (.pending hseen hjudged)
                dsimp only
                simp only [hpolled]
  exact congrArg Process.look (funext fun glimpse => hpoll _ _ _ .unseen)

namespace Canary

/-- The number of unused reads that are carried stays below the number at which a target fails. -/
theorem unusedReads_lt {engine : Engine} {target : Target} {tracker : HealthTracker}
    (h : (targetHealthWatch engine target).Carries tracker) :
    tracker.unusedReads < maxUnusedReads := by
  induction h with
  | unseen => exact Nat.zero_lt_succ 4
  | @pending tracker tracker' read carried judged ih =>
      change judgeTarget target tracker read = .pending tracker' at judged
      cases read with
      | none => cases judged
      | some health =>
          obtain ⟨state, reason, description⟩ := health
          cases state with
          | unused =>
              by_cases hreads : maxUnusedReads ≤ tracker.counted.unusedReads
              · simp [judgeTarget, HealthTracker.observe, hreads] at judged
              · simp only [judgeTarget, HealthTracker.observe, if_neg hreads] at judged
                cases judged
                exact Nat.lt_of_not_le hreads
          | initial =>
              cases judged
              decide
          | _ => cases judged

/-- What a judgement of targets does at higher counts is never seen. -/
theorem targetHealthWatch_run_congr (engine : Engine) (target : Target)
    {judge : HealthTracker → Option TargetHealth → Judgement (Except TaskError Unit) HealthTracker}
    (h : ∀ tracker : HealthTracker, tracker.unusedReads < maxUnusedReads →
      judge tracker = judgeTarget target tracker) (patience : Nat) :
    ({ targetHealthWatch engine target with judge } : Watch controlPlane _ _).run patience =
      ((targetHealthWatch engine target).run patience : Process controlPlane σ _) :=
  Watch.run_congr _ (fun tracker carried => h tracker (unusedReads_lt carried)) patience

end Canary

/-! ## The processes -/

theorem World.not_explains {ι : Interface} {earlier w : World ι S} {message : String} :
    ¬World.Explains (fun _ _ => True) (fun _ => False) earlier w message := by
  rintro (hallowed | ⟨e, -, r, answer, -, hreply⟩)
  · exact hallowed
  · exact hreply trivial

theorem Ending.mapError_eq_panicked {ε ε' α : Type} {wrap : ε → ε'}
    {ending : Ending (Except ε α)} {message : String} :
    ending.mapError wrap = .panicked message ↔ ending = .panicked message := by
  cases ending <;> simp [mapError]

namespace Process.Alarms

variable {ι : Interface} {α : Type}

/-- A process that raises no alarm of its own does not panic. -/
theorem unpanicked {env : Environment ι S} (sound : env.Sound) {p : Process ι σ α}
    (h : p.Alarms (fun _ _ => True) fun _ => False) (token : Token) (actor : Option Nat) (s : σ)
    (w : World ι S) (message : String) :
    (GatedRollout.run env token actor p s w).ending ≠ .panicked message :=
  fun hpanicked => World.not_explains (h.run sound (World.Follows.refl w) hpanicked)

end Process.Alarms

theorem Creation.alarms_create (creation : Creation) :
    (creation.create : Activity σ _ _).run.Alarms replies allowed := by
  refine .attempt (.attempt_ask trivial _) fun existing => ?_
  dsimp only
  split
  · exact .known (.error _)
  · refine .attempt (.attempt_ask trivial _) fun _ => ?_
    exact .within (creation.engine.conforms_await _ trivial) _

theorem RunOnce.alarms_run (once : RunOnce) (input : RunOnce.Input) :
    (once.run input).run.Alarms replies allowed := by
  unfold RunOnce.run
  dsimp only
  split
  · exact .known (.error _)
  · refine .attempt (.within (Canary.conforms_launch _ _ (fun _ _ _ => trivial)
      (Canary.conforms_launchOn _ _ (fun _ _ => trivial) _) fun _ _ _ => trivial) _) fun arn => ?_
    refine .attempt (.within (Canary.conforms_waitRunning _ (fun _ _ => trivial)
      fun _ _ _ => trivial) _) fun _ => ?_
    refine .attempt (.within (once.engine.conforms_await _ trivial) _) fun stopped => ?_
    split
    · exact .known (.ok _)
    · exact .known (.error _)

namespace Recreation

variable (recreation : Recreation) (step : RecreateStep) (name : ServiceName)

theorem alarms_confirmStable (desiredCount : UInt32) :
    (recreation.confirmStable step name desiredCount).run.Alarms replies allowed := by
  refine .attempt (.within (recreation.engine.conforms_await _ trivial) _) fun service => ?_
  exact .attempt (.attempt_modify fun _ _ => trivial) fun _ => .known (.ok _)

theorem alarms_create : (recreation.create step name).run.Alarms replies allowed :=
  .attempt (.attempt_ask trivial _) fun _ => alarms_confirmStable recreation step name 1

theorem alarms_scale (desiredCount : UInt32) :
    (recreation.scale step name desiredCount).run.Alarms replies allowed :=
  .attempt (.attempt_ask trivial _) fun _ => alarms_confirmStable recreation step name desiredCount

theorem alarms_delete : (recreation.delete step name).run.Alarms replies allowed := by
  refine .attempt (.attempt_ask trivial _) fun _ => ?_
  exact .attempt (.within (recreation.engine.conforms_await _ trivial) _) fun _ =>
    .attempt_modify fun _ _ => trivial

theorem alarms_transition (old transit : ServiceName) (desiredCount : UInt32) :
    (recreation.transition old transit desiredCount).run.Alarms replies allowed := by
  refine .attempt (alarms_create recreation .createTransit transit) fun _ => ?_
  refine .attempt (alarms_scale recreation .scaleTransit transit desiredCount) fun _ => ?_
  refine .attempt (alarms_scale recreation .drainOld old 0) fun _ => ?_
  refine .attempt (alarms_delete recreation .deleteOld old) fun _ => ?_
  refine .attempt (alarms_create recreation .createFinal old) fun _ => ?_
  refine .attempt (alarms_scale recreation .scaleFinal old desiredCount) fun service => ?_
  refine .attempt (alarms_scale recreation .drainTransit transit 0) fun _ => ?_
  exact .attempt (alarms_delete recreation .deleteTransit transit) fun _ => .known (.ok _)

theorem alarms_recreate : recreation.recreate.run.Alarms replies allowed := by
  refine .attempt (.attempt_modify fun _ _ => trivial) fun _ => ?_
  refine .attempt (.attempt_ask trivial _) fun found => ?_
  refine .attempt (.known _) fun old => .attempt .attempt_now fun now => ?_
  refine .attempt (alarms_transition recreation _ _ _) fun service => ?_
  exact .attempt .attempt_state fun steps => .known (.ok _)

end Recreation

/-! ## Rollouts -/

namespace Rollout

open Canary

variable {rollout : Rollout} {scope : RolloutScope} {env : Environment controlPlane S}
  {progress : Progress} {earlier w : World controlPlane S} {message : String}
  {attachments : Attachments} {body : Body S}

theorem alarms_resolveAttachments (rollout : Rollout) (scope : RolloutScope) :
    (rollout.resolveAttachments scope : Activity σ _ _).run.Alarms replies allowed :=
  rollout.conforms_resolveAttachments scope trivial

theorem alarms_updateService (rollout : Rollout) (scope : RolloutScope) :
    (rollout.updateService scope).run.Alarms replies allowed :=
  rollout.conforms_updateService scope trivial trivial fun _ _ => trivial

theorem resolve_unpanicked (sound : env.Sound) (message : String) :
    (rollout.resolve env scope progress w).ending ≠ .panicked message :=
  Process.Alarms.unpanicked sound (alarms_resolveAttachments rollout scope) _ _ _ _ message

/-- A body that is reached does not panic. -/
theorem Reaches.unpanicked (sound : env.Sound)
    (h : rollout.Reaches scope env progress w attachments body) (message : String) :
    body.ending ≠ .panicked message := by
  have hstaffs := staffs_set rollout.engine rollout.taskDefinition attachments
  intro hpanicked
  cases h.proceeds with
  | unstarted _ body_eq =>
      subst body_eq
      exact World.not_explains (CanarySet.explains_start sound hstaffs.alarms_start
        (World.Follows.refl _) (Ending.mapError_eq_panicked.mp hpanicked))
  | unverified _ _ body_eq =>
      subst body_eq
      exact World.not_explains (CanarySet.explains_wait sound (hstaffs.start _ _ _).alarms_wait
        (World.Follows.refl _) (Ending.mapError_eq_panicked.mp hpanicked))
  | updating _ _ body_eq =>
      subst body_eq
      exact Process.Alarms.unpanicked sound (alarms_updateService rollout scope) _ _ _ _ message
        hpanicked

/-- A rollout that panics does so in its cleanup. -/
theorem rollOut_panicked (sound : env.Sound)
    (h : (rollout.rollOut env scope progress w).ending = .panicked message) :
    ∃ attachments body, rollout.Reaches scope env progress w attachments body ∧
      (rollout.cleanUp env body).ending = .panicked message ∧
        (rollout.rollOut env scope progress w).world = (rollout.cleanUp env body).world := by
  unfold rollOut at h ⊢
  dsimp only at h ⊢
  split at h
  · next hending => exact absurd hending (resolve_unpanicked sound _)
  · cases h
  · cases h
  · next attachments hending =>
      have hreached : rollout.Reaches scope env progress w attachments _ := ⟨hending, rfl⟩
      split at h
      · cases h
      · refine ⟨attachments, _, hreached, ?_, rollout.world_finish env _⟩
        unfold finish at h
        dsimp only at h
        split at h
        · next hcleaned => rwa [Ending.panicked.inj h] at hcleaned
        · exact absurd h (hreached.unpanicked sound message)

end Rollout

/-! ## The engine -/

/-- Since an earlier world, a deregistration delay was read that has no sum with the margin. -/
def World.Overlong (earlier w : World controlPlane S) : Prop :=
  ∃ e ∈ w.since earlier, ∃ group delay,
    e.event = .returned (.deregistrationDelay group) (.ok (some delay)) ∧ Canary.Overlong delay

/-- No deregistration delay that has no sum with the margin. -/
def Canary.Summable (r : ControlPlane.Request)
    (answer : Except ClientError (controlPlane.Reply r)) : Prop :=
  ∀ group delay, Event.returned (ι := controlPlane) r answer =
    .returned (.deregistrationDelay group) (.ok (some delay)) → ¬Canary.Overlong delay

theorem World.Heard.overlong {earlier w : World controlPlane S}
    (h : World.Heard Canary.Summable earlier w) : World.Overlong earlier w := by
  obtain ⟨e, he, r, answer, hevent, hreply⟩ := h
  simp only [Canary.Summable, Classical.not_forall, Classical.not_not] at hreply
  obtain ⟨group, delay, hread, hoverlong⟩ := hreply
  exact ⟨e, he, group, delay, hevent.trans hread, hoverlong⟩

/-- What every account of the replies explains is the message of the sum, after a delay that has
none. -/
theorem World.overlong_of_explains {earlier w : World controlPlane S} {message : String}
    (h : ∀ replies allowed, Canary.Admits replies allowed →
      World.Explains replies allowed earlier w message) :
    message = "overflow when adding durations" ∧ World.Overlong earlier w := by
  constructor
  · rcases h (fun _ _ => True) (· = "overflow when adding durations") fun _ _ _ _ => rfl with
      hallowed | ⟨e, -, r, answer, -, hreply⟩
    · exact hallowed
    · exact absurd trivial hreply
  · rcases h Canary.Summable (fun _ => False) fun group delay hsummable hoverlong =>
      hsummable group delay rfl hoverlong with hallowed | hheard
    · exact hallowed.elim
    · exact hheard.overlong

theorem Rollout.rollOut_overlong {env : Environment controlPlane S} (sound : env.Sound)
    {rollout : Rollout} {scope : RolloutScope} {progress : Progress} {w : World controlPlane S}
    {message : String} (h : (rollout.rollOut env scope progress w).ending = .panicked message) :
    message = "overflow when adding durations" ∧
      World.Overlong w (rollout.rollOut env scope progress w).world := by
  obtain ⟨attachments, body, hreached, hpanicked, hworld⟩ := rollOut_panicked sound h
  rw [hworld]
  refine World.overlong_of_explains fun replies allowed admits => ?_
  exact CanarySet.explains_cleanupWithin sound (hreached.staffs.alarms_stop admits)
    hreached.follows hpanicked

/-- Where no call of the environment crashes, only the stop of a canary panics, and with it a
rollout in its cleanup, once a deregistration delay was read that has no sum with the margin. Nor
does a difference of instants, a count of reads or a slice of a name ever go out of range. -/
theorem panics_require_overlong_delay (env : Environment controlPlane S) (sound : env.Sound)
    (w : World controlPlane S) :
    (∀ (rollout : Rollout) (scope : RolloutScope) (progress : Rollout.Progress)
      (message : String),
      let out := rollout.rollOut env scope progress w
      out.ending = .panicked message →
        message = "overflow when adding durations" ∧ World.Overlong w out.world) ∧
      (∀ (token : Token) (actor : Option Nat) (message : String),
        (∀ (recreation : Recreation) (steps : Recreation.Steps),
          (run env token actor recreation.recreate.run steps w).ending ≠ .panicked message) ∧
        (∀ (creation : Creation) (s : σ),
          (run env token actor creation.create.run s w).ending ≠ .panicked message) ∧
        (∀ (once : RunOnce) (input : RunOnce.Input) (s : Canary.State),
          (run env token actor (once.run input).run s w).ending ≠ .panicked message) ∧
        ∀ (engine : Engine) (spec : Canary.LaunchSpec) (strategy : Canary.Strategy)
          (s : Canary.State),
          let task := Canary.task engine spec strategy
          let stopped := run env token actor task.stop.run s w
          (run env token actor task.start.run s w).ending ≠ .panicked message ∧
            (run env token actor task.wait.run s w).ending ≠ .panicked message ∧
            (stopped.ending = .panicked message →
              message = "overflow when adding durations" ∧ World.Overlong w stopped.world)) ∧
      (∀ t u : Instant, (t.nanos - u.nanos).natAbs ≤ Instant.longestStep) ∧
      (∀ (engine : Engine) (target : Canary.Target) (patience : Nat)
        (judge : Canary.HealthTracker → Option TargetHealth →
          Judgement (Except TaskError Unit) Canary.HealthTracker),
        (∀ tracker, tracker.unusedReads < Canary.maxUnusedReads →
          judge tracker = Canary.judgeTarget target tracker) →
        ({ Canary.targetHealthWatch engine target with judge } : Watch controlPlane _ _).run
            patience =
          ((Canary.targetHealthWatch engine target).run patience : Process controlPlane σ _)) ∧
      ∀ (name : ServiceName) (suffix : String), name.isValid = true →
        ∃ front back, name.text = front ++ back ∧
          name.transit suffix = ⟨front ++ ServiceName.transitTail suffix⟩ ∧
            front.utf8ByteSize =
              min (ServiceName.maxLength - (ServiceName.transitTail suffix).utf8ByteSize)
                name.text.utf8ByteSize := by
  refine ⟨fun rollout scope progress message hpanicked => ?_, fun token actor message => ?_,
    Instant.distance_le, fun engine target patience judge hjudge => ?_,
    fun name suffix hvalid => ?_⟩
  · exact Rollout.rollOut_overlong sound hpanicked
  · refine ⟨fun recreation steps => ?_, fun creation s => ?_, fun once input s => ?_,
      fun engine spec strategy s => ⟨?_, ?_, fun hpanicked => ?_⟩⟩
    · exact Process.Alarms.unpanicked sound recreation.alarms_recreate _ _ _ _ message
    · exact Process.Alarms.unpanicked sound creation.alarms_create _ _ _ _ message
    · exact Process.Alarms.unpanicked sound (once.alarms_run input) _ _ _ _ message
    · exact Process.Alarms.unpanicked sound (Canary.alarms_start engine spec) _ _ _ _ message
    · exact Process.Alarms.unpanicked sound (Canary.alarms_wait engine spec strategy) _ _ _ _
        message
    · refine World.overlong_of_explains fun replies allowed admits => ?_
      exact (Canary.alarms_stop engine spec admits strategy).run sound (World.Follows.refl w)
        hpanicked
  · exact Canary.targetHealthWatch_run_congr engine target hjudge patience
  · exact ServiceName.transit_slices hvalid suffix

/-! ## A delay without a sum -/

/-- The same control plane, with a target group that names this delay. -/
def Rollout.Bench.delaying (delay : Duration) : Environment controlPlane Bench where
  react bench now
    | .deregistrationDelay _ => (⟨.zero, false, 0, .answer (.ok (some delay))⟩, bench)
    | r => Bench.environment.react bench now r
  wake := Bench.environment.wake

theorem Rollout.Bench.delaying_sound (delay : Duration) : (delaying delay).Sound := by
  intro bench now r message
  cases r <;> exact nofun

/-- The longest delay of whole seconds. -/
def Duration.longestSeconds : Duration := ⟨(UInt64.size - 1) * nanosPerSecond, by decide⟩

theorem Rollout.sample_overlong_ending :
    (sample.rollOut (Bench.delaying .longestSeconds) .taskDefinition {} Bench.world).ending =
      .panicked "overflow when adding durations" := rfl

/-- The rollout reads the delay and comes to its panic. -/
theorem panics_require_overlong_delay_sample :
    let env := Rollout.Bench.delaying .longestSeconds
    env.Sound ∧ World.Overlong Rollout.Bench.world
      (Rollout.sample.rollOut env .taskDefinition {} Rollout.Bench.world).world := by
  intro env
  have hsound := Rollout.Bench.delaying_sound .longestSeconds
  obtain ⟨hrollout, -⟩ := panics_require_overlong_delay (σ := Unit) env hsound Rollout.Bench.world
  exact ⟨hsound, (hrollout _ _ _ _ Rollout.sample_overlong_ending).2⟩

/-- With that delay a rollout panics after its canary was verified and the service was updated, and
the canary is not stopped. -/
theorem rollOut_panics_on_overlong_delay :
    let env := Rollout.Bench.delaying .longestSeconds
    let out := Rollout.sample.rollOut env .taskDefinition {} Rollout.Bench.world
    let place := Canary.Place.group ⟨"targetgroup/api"⟩ ⟨"10.0.0.1", 80, some "zone-a"⟩
    env.Sound ∧ out.ending = .panicked "overflow when adding durations" ∧
      Canary.marksOf (out.world.since Rollout.Bench.world) =
        [.launched ⟨"task/prod/1"⟩, .entered place,
          .updated (Rollout.sample.update .taskDefinition), .left place] :=
  ⟨Rollout.Bench.delaying_sound _, Rollout.sample_overlong_ending, by decide⟩

end GatedRollout
