import GatedRollout.Proofs.Canary.Clearance
import GatedRollout.Proofs.Canary.Handling
import GatedRollout.Proofs.Canary.Schedule
import GatedRollout.Proofs.Process.Calm
import GatedRollout.Proofs.Wait.Reads

/-!
# Deregistration on the way to a stop

A canary behind a load balancer is taken out of its target group before its task is stopped. That
comes first, takes no longer than the delay of the group and a margin, and has no say in what the
stop returns: `Release` is the course of such a stop, and its result is a function of how the stop
itself and the reads of the task were answered.
-/

namespace GatedRollout.Canary

variable {S : Type} {engine : Engine} {env : Environment controlPlane S} {token : Token}
  {actor : Option Nat} {w w₁ w₂ w₃ : World controlPlane S} {s : State} {target : Target}
  {arn : TaskArn} {limit : Duration}

/-- The call is answered so, which leaves this world. -/
def Answered (env : Environment controlPlane S) (actor : Option Nat) (w : World controlPlane S)
    (r : ControlPlane.Request) (answer : Except ClientError r.Reply) (w' : World controlPlane S) :
    Prop :=
  w.Tells (ι := controlPlane) env actor r answer ∧
    w' = w.told (ι := controlPlane) env actor r answer

theorem Answered.unfired {r : ControlPlane.Request} {answer : Except ClientError r.Reply}
    (h : Answered env actor w r answer w₁) (calm : env.Calm) (unfired : w.cancelled token = false) :
    w₁.cancelled token = false := by
  rw [h.2]
  exact (calm.cancelled_told ..).trans unfired

theorem Answered.follows {r : ControlPlane.Request} {answer : Except ClientError r.Reply}
    (h : Answered env actor w r answer w₁) : w₁.Follows w := by
  rw [h.2]
  exact World.follows_told ..

theorem Answered.since_eq {r : ControlPlane.Request} {answer : Except ClientError r.Reply}
    (h : Answered env actor w r answer w₁) (calm : env.Calm) :
    w₁.since w = [⟨w.clock, actor, .issued r⟩, ⟨w₁.clock, actor, .returned r answer⟩] := by
  rw [h.2]
  exact calm.since_told ..

theorem exists_answered (calm : env.Calm) (actor : Option Nat)
    (w : World controlPlane S) (r : ControlPlane.Request) :
    ∃ answer w', Answered env actor w r answer w' := by
  obtain ⟨answer, htells⟩ := calm.tells w actor r
  exact ⟨answer, _, htells, rfl⟩

/-! ## Leaving the group -/

/-- The delay that a group is taken to have by what its look-up is answered. -/
def knownDelay : Except ClientError (Option Duration) → Duration
  | .ok delay => delay.getD defaultDeregistrationDelay
  | .error _ => defaultDeregistrationDelay

theorem run_groupDelay {group : TargetGroupArn} {delay : Except ClientError (Option Duration)}
    (h : Answered env actor w (.deregistrationDelay group) delay w₁) :
    run env token actor (groupDelay group) s w = ⟨.returned (knownDelay delay), s, w₁⟩ := by
  obtain ⟨htells, rfl⟩ := h
  refine (run_call_told htells).trans ?_
  cases delay <;> rfl

/-- What the wait for a target to leave adds to the warnings. -/
def goneWarnings (target : Target) : Except TaskError Unit → List Warning
  | .ok _ => []
  | .error e => [unconfirmedTarget target e]

/-- The canary no longer counts as registered, and has these new warnings. -/
def State.letGo (s : State) (new : List Warning) : State :=
  { s with registration := none, warnings := s.warnings ++ new }

section Deregistering

variable {delay : Except ClientError (Option Duration)}
  (hs : s.registration = some (.target target))
  (hdelay : Answered env actor w (.deregistrationDelay target.group) delay w₁)

include hs hdelay

theorem run_deregisterTarget_refused {e : ClientError}
    (hleft : Answered env actor w₁ (leavesGroup target) (.error e) w₂) :
    run env token actor (deregisterTarget engine) s w =
      ⟨.returned (), s.letGo [refusedTarget target e], w₂⟩ := by
  obtain ⟨hleft, rfl⟩ := hleft
  obtain ⟨handle, _, warnings⟩ := s
  cases hs
  show run env token actor (Process.bind (groupDelay target.group) _) _ w = _
  refine run_bind_returned_iff.mpr ⟨_, _, _, run_groupDelay hdelay, ?_⟩
  exact run_call_told hleft

theorem run_deregisterTarget_accepted {gone : Except TaskError Unit}
    (hleft : Answered env actor w₁ (leavesGroup target) (.ok ()) w₂)
    (hlimit : (knownDelay delay).checkedAdd deregistrationMargin = some limit)
    (hgone : run env token actor (waitTargetGone engine target limit).run (s.letGo []) w₂ =
      ⟨.returned gone, s.letGo [], w₃⟩) :
    run env token actor (deregisterTarget engine) s w =
      ⟨.returned (), s.letGo (goneWarnings target gone), w₃⟩ := by
  obtain ⟨hleft, rfl⟩ := hleft
  have hreleased : s.letGo [] = s.setRegistration none := by
    simp [State.letGo, State.setRegistration]
  have hconfirmed : s.letGo (goneWarnings target (.ok ())) = s.setRegistration none := hreleased
  rw [hreleased] at hgone
  obtain ⟨handle, _, warnings⟩ := s
  cases hs
  show run env token actor (Process.bind (groupDelay target.group) _) _ w = _
  refine run_bind_returned_iff.mpr ⟨_, _, _, run_groupDelay hdelay, ?_⟩
  refine (run_call_told hleft).trans ?_
  -- The sum is left as it is: to compare it with itself, the kernel would count it up.
  generalize (knownDelay delay).checkedAdd deregistrationMargin = sum at hlimit ⊢
  subst hlimit
  show run env token actor (Process.bind (waitTargetGone engine target limit).run _) _ _ = _
  refine run_bind_returned_iff.mpr ⟨gone, _, _, hgone, ?_⟩
  cases gone with
  | ok u =>
      rw [hconfirmed]
      rfl
  | error e => rfl

end Deregistering

/-- The request that reads the health of the target. -/
def healthRead (target : Target) : ControlPlane.Request :=
  .describeTargetHealth target.group target.description

theorem waitTargetGone_lasts (engine : Engine) (target : Target) (s : State) (calm : env.Calm)
    (unfired : w.cancelled token = false)
    (hend : w.clock.nanos + limit.nanos ≤ Instant.latest) :
    ∃ gone w' answers, run env token actor (waitTargetGone engine target limit).run s w =
        ⟨.returned gone, s, w'⟩ ∧
      (goneRules target limit).Lasts (ι := controlPlane) (r := healthRead target) env actor w w'
        gone answers :=
  (gone_describe target limit).run_lasts (waitTargetGone_run engine target limit)
    healthPollInterval_pos calm unfired hend

theorem decides_gone_iff {earlier : List (Option TargetHealth)} {read : Option TargetHealth} :
    (goneRules target limit).decides earlier read = some (.ok ()) ↔
      ∀ health, read = some health → health.state = .unused := by
  cases read with
  | none => simp [goneRules]
  | some health => simp [goneRules]

theorem decides_gone_none_iff {earlier : List (Option TargetHealth)} {read : Option TargetHealth} :
    (goneRules target limit).decides earlier read = none ↔
      ∃ health, read = some health ∧ health.state ≠ .unused := by
  cases read with
  | none => simp [goneRules]
  | some health => simp [goneRules]

/-- The wait succeeds exactly if a read shows the target gone. -/
theorem gone_ok_iff {gone : Except TaskError Unit}
    {answers : List (Except ClientError (Option TargetHealth))}
    (h : (goneRules target limit).Lasts (ι := controlPlane) (r := healthRead target) env actor w w₁
      gone answers) :
    gone = .ok () ↔
      ∃ e ∈ w₁.since w, SeenGone target.group target.description e.event := by
  have hforgets : (goneRules target limit).Forgets := fun _ _ => rfl
  constructor
  · rintro rfl
    by_contra hunseen
    have hundecided : ∀ read, .ok read ∈ answers →
        (goneRules target limit).decides [] read = none := by
      intro read hread
      obtain ⟨e, he, hevent⟩ := h.reads.mem_answers.mp hread
      rw [decides_gone_none_iff]
      by_contra hused
      refine hunseen ⟨e, he, read, hevent, fun health hhealth => ?_⟩
      by_contra hstate
      exact hused ⟨health, hhealth, hstate⟩
    rcases Rules.upshot_of_undecided hforgets h.reads.comes hundecided with ⟨e, he⟩ | ⟨earlier, he⟩
    · cases he
    · cases he
  · rintro ⟨e, he, read, hevent, hgone⟩
    exact Rules.upshot_of_decided hforgets h.reads.comes
      (h.reads.mem_answers.mpr ⟨e, he, hevent⟩) (decides_gone_iff.mpr hgone)

/-- How a target leaves its group from the answer to its deregistration on, and what is warned of.
Nothing is read unless the deregistration is accepted. -/
structure Departs (env : Environment controlPlane S) (target : Target) (limit : Duration)
    (left : Except ClientError Unit) (w w' : World controlPlane S) (new : List Warning) : Prop where
  follows : w'.Follows w
  about : ∀ e ∈ w'.since w, e.event.IsAbout (ι := controlPlane) (healthRead target)
  refused : ∀ e, left = .error e → w'.since w = []
  clock_le : env.Punctual → w'.clock.nanos ≤ w.clock.nanos + limit.nanos
  clock_eq : env.Punctual → left = .ok () →
    (∀ e ∈ w'.since w, ∀ answer,
      e.event = .returned (.describeTargetHealth target.group target.description) answer →
        ∃ health, answer = .ok (some health) ∧ health.state ≠ .unused) →
      w'.clock.nanos = w.clock.nanos + limit.nanos
  confirmed : (∃ e ∈ w'.since w, SeenGone target.group target.description e.event) → new = []
  unconfirmed : (¬∃ e ∈ w'.since w, SeenGone target.group target.description e.event) →
    ∃ message, new = [⟨.targetDeregistration, message⟩]

theorem departs_refused (e : ClientError) :
    Departs env target limit (.error e) w w [refusedTarget target e] where
  follows := World.Follows.refl w
  about := by simp
  refused _ _ := World.since_self w
  clock_le _ := by omega
  clock_eq _ hleft := nomatch hleft
  confirmed := by simp
  unconfirmed _ := ⟨_, rfl⟩

theorem departs_accepted {gone : Except TaskError Unit}
    {answers : List (Except ClientError (Option TargetHealth))}
    (h : (goneRules target limit).Lasts (ι := controlPlane) (r := healthRead target) env actor w w₁
      gone answers) :
    Departs env target limit (.ok ()) w w₁ (goneWarnings target gone) where
  follows := h.reads.follows
  about e he := (h.reads.about e he).2
  refused _ he := nomatch he
  clock_le := h.clock_le
  clock_eq punctual _ hstays := by
    refine h.clock_eq punctual fun e he answer hanswer => ?_
    obtain ⟨health, hread, hused⟩ := hstays e he answer hanswer
    exact ⟨some health, hread, fun _ => decides_gone_none_iff.mpr ⟨health, rfl, hused⟩⟩
  confirmed hgone := by rw [(gone_ok_iff h).mpr hgone, goneWarnings]
  unconfirmed hnot := by
    cases gone with
    | ok u => exact absurd ((gone_ok_iff h).mp rfl) hnot
    | error e => exact ⟨_, rfl⟩

/-- Whatever the load balancer answers, the target is let go of. -/
theorem run_deregisterTarget_departs (engine : Engine) (calm : env.Calm)
    (unfired : w.cancelled token = false)
    {delay : Except ClientError (Option Duration)} {left : Except ClientError Unit}
    (hs : s.registration = some (.target target))
    (hdelay : Answered env actor w (.deregistrationDelay target.group) delay w₁)
    (hleft : Answered env actor w₁ (leavesGroup target) left w₂)
    (hlimit : (knownDelay delay).checkedAdd deregistrationMargin = some limit)
    (hend : left = .ok () → w₂.clock.nanos + limit.nanos ≤ Instant.latest) :
    ∃ w₃ new, run env token actor (deregisterTarget engine) s w =
        ⟨.returned (), s.letGo new, w₃⟩ ∧ Departs env target limit left w₂ w₃ new := by
  cases left with
  | error e => exact ⟨w₂, _, run_deregisterTarget_refused hs hdelay hleft, departs_refused e⟩
  | ok u =>
      have hunfired := hleft.unfired calm (hdelay.unfired calm unfired)
      obtain ⟨gone, w₃, answers, hgone, hlasts⟩ :=
        waitTargetGone_lasts engine target (s.letGo []) calm hunfired (hend rfl)
      exact ⟨w₃, _, run_deregisterTarget_accepted hs hdelay hleft hlimit hgone,
        departs_accepted hlasts⟩

/-! ## Stopping the task -/

/-- What a stop of a task comes to by how the stop itself is answered, and then the reads of the
task. -/
def haltResult (engine : Engine) (arn : TaskArn) (accepted : Except ClientError Unit)
    (answers : List (Except ClientError (List Task))) : Option (Except TaskError Unit) :=
  match accepted with
  | .error e => some (.error (.client e))
  | .ok _ =>
      ((Engine.stoppedRules arn (engine.limit .taskStopped)).upshot [] answers).map fun stopped =>
        (stopped.map fun _ => ()).mapError TaskError.wait

theorem run_stopTask_refused {e : ClientError} (hs : s.handle.taskArn = some arn)
    (hgoing : s.handle.phase ≠ .stopped)
    (hstop : Answered env actor w (stops engine arn) (.error e) w₁) :
    run env token actor (stopTask engine).run s w =
      ⟨.returned (.error (.client e)), s.setPhase .stopping, w₁⟩ := by
  obtain ⟨hstop, rfl⟩ := hstop
  rw [stopTask, run_state_then, if_neg hgoing]
  simp only [hs]
  exact run_call_told hstop

theorem run_stopTask_accepted {stopped : Except WaitError (Option Task)}
    (hs : s.handle.taskArn = some arn) (hgoing : s.handle.phase ≠ .stopped)
    (hstop : Answered env actor w (stops engine arn) (.ok ()) w₁)
    (hstopped : run env token actor (engine.taskStopped arn (engine.limit .taskStopped)).run
      (s.setPhase .stopping) w₁ = ⟨.returned stopped, s.setPhase .stopping, w₂⟩) :
    ∃ phase, run env token actor (stopTask engine).run s w =
      ⟨.returned ((stopped.map fun _ => ()).mapError TaskError.wait), s.setPhase phase, w₂⟩ := by
  obtain ⟨hstop, rfl⟩ := hstop
  rw [stopTask, run_state_then, if_neg hgoing]
  simp only [hs]
  cases stopped with
  | error e =>
      refine ⟨.stopping, (run_call_told hstop).trans ?_⟩
      exact run_attempt_returned_iff.mpr
        (.inl ⟨_, rfl, run_within_returned_iff.mpr ⟨_, hstopped, rfl⟩⟩)
  | ok seen =>
      refine ⟨.stopped, (run_call_told hstop).trans ?_⟩
      exact run_attempt_returned_iff.mpr (.inr ⟨_, _, _, run_within_ok_iff.mpr hstopped, rfl⟩)

theorem taskStopped_lasts (engine : Engine) (arn : TaskArn) (s : State) (calm : env.Calm)
    (unfired : w.cancelled token = false)
    (hend : w.clock.nanos + limit.nanos ≤ Instant.latest) :
    ∃ stopped w' answers, run env token actor (engine.taskStopped arn limit).run s w =
        ⟨.returned stopped, s, w'⟩ ∧
      (Engine.stoppedRules arn limit).Lasts (ι := controlPlane) (r := engine.taskRead arn) env actor
        w w' stopped answers :=
  (engine.stopped_describe arn limit).run_lasts (engine.taskStopped_run arn limit)
    taskPollInterval_pos calm unfired hend

/-- How the stop of a task goes from its answer on, and what it returns. -/
structure Halts (engine : Engine) (actor : Option Nat) (arn : TaskArn)
    (accepted : Except ClientError Unit) (w w' : World controlPlane S)
    (result : Except TaskError Unit) (answers : List (Except ClientError (List Task))) : Prop where
  follows : w'.Follows w
  about : ∀ e ∈ w'.since w, e.event.IsAbout (ι := controlPlane) (engine.taskRead arn)
  returns : returnsIn (w'.since w) =
    answers.map (Event.returned (ι := controlPlane) (engine.taskRead arn))
  result : haltResult engine arn accepted answers = some result

theorem run_stopTask_halts (calm : env.Calm) (unfired : w.cancelled token = false)
    {accepted : Except ClientError Unit} (hs : s.handle.taskArn = some arn)
    (hgoing : s.handle.phase ≠ .stopped)
    (hstop : Answered env actor w (stops engine arn) accepted w₁)
    (hend : accepted = .ok () →
      w₁.clock.nanos + (engine.limit .taskStopped).nanos ≤ Instant.latest) :
    ∃ result phase w₂ answers, run env token actor (stopTask engine).run s w =
        ⟨.returned result, s.setPhase phase, w₂⟩ ∧
      Halts engine actor arn accepted w₁ w₂ result answers := by
  cases accepted with
  | error e =>
      have hrun : run env token actor (stopTask engine).run s w = _ :=
        run_stopTask_refused hs hgoing hstop
      refine ⟨_, _, w₁, [], hrun, World.Follows.refl w₁, ?_, ?_, rfl⟩
      · simp
      · rw [World.since_self]
        rfl
  | ok u =>
      obtain ⟨stopped, w₂, answers, hstopped, hlasts⟩ :=
        taskStopped_lasts engine arn (s.setPhase .stopping) calm (hstop.unfired calm unfired)
          (hend rfl)
      obtain ⟨phase, hrun⟩ := run_stopTask_accepted hs hgoing hstop hstopped
      refine ⟨_, phase, w₂, answers, hrun, hlasts.reads.follows,
        fun e he => (hlasts.reads.about e he).2, hlasts.reads.returns, ?_⟩
      have hcomes : (Engine.stoppedRules arn (engine.limit .taskStopped)).upshot [] answers =
          some stopped := hlasts.reads.comes
      show Option.map _ _ = _
      rw [hcomes]
      rfl

/-! ## The course of a stop -/

/-- The course of a stop: how the look-up of the delay, the deregistration and the stop of the task
were answered and when, when the task was asked to stop, and what was read before and after that. -/
structure Release where
  delay : Except ClientError (Option Duration)
  delayAt : Instant
  left : Except ClientError Unit
  leftAt : Instant
  healthReads : List (Entry controlPlane)
  stopsAt : Instant
  accepted : Except ClientError Unit
  acceptedAt : Instant
  taskReads : List (Entry controlPlane)

/-- What such a stop adds to the history. -/
def Release.trace (release : Release) (engine : Engine) (actor : Option Nat) (target : Target)
    (arn : TaskArn) (start : Instant) : List (Entry controlPlane) :=
  [⟨start, actor, .issued (.deregistrationDelay target.group)⟩,
    ⟨release.delayAt, actor, .returned (.deregistrationDelay target.group) release.delay⟩,
    ⟨release.delayAt, actor, .issued (leavesGroup target)⟩,
    ⟨release.leftAt, actor,
      .returned (.deregisterTarget target.group target.description) release.left⟩] ++
  release.healthReads ++
  [⟨release.stopsAt, actor, .issued (stops engine arn)⟩,
    ⟨release.acceptedAt, actor,
      .returned (.stopTask engine.cluster arn stopReason) release.accepted⟩] ++
  release.taskReads

/-- The course of a stop that led from one world to another, with these new warnings. -/
structure Release.Describes (release : Release) (engine : Engine) (env : Environment controlPlane S)
    (actor : Option Nat) (target : Target) (arn : TaskArn) (limit : Duration)
    (w w' : World controlPlane S) (new : List Warning) : Prop where
  /-- The look-up of the delay comes first, then the deregistration, the reads of the health, the
  stop of the task, and the reads of the task. -/
  trace : w'.since w = release.trace engine actor target arn w.clock
  healthReads : ∀ e ∈ release.healthReads,
    e.event.IsAbout (ι := controlPlane) (.describeTargetHealth target.group target.description)
  taskReads : ∀ e ∈ release.taskReads, e.event.IsAbout (ι := controlPlane) (engine.taskRead arn)
  /-- The health is read only if the deregistration is accepted. -/
  refused : ∀ e, release.left = .error e → release.healthReads = []
  limited : (knownDelay release.delay).checkedAdd deregistrationMargin = some limit
  /-- Where only the pauses take time, the reads of the health take no longer than the limit. -/
  clock_le : env.Punctual → release.stopsAt.nanos ≤ release.leftAt.nanos + limit.nanos
  /-- They take all of it if each of them is answered and shows the target in its group and used. -/
  clock_eq : env.Punctual → release.left = .ok () →
    (∀ e ∈ release.healthReads, ∀ answer,
      e.event = .returned (.describeTargetHealth target.group target.description) answer →
        ∃ health, answer = .ok (some health) ∧ health.state ≠ .unused) →
      release.stopsAt.nanos = release.leftAt.nanos + limit.nanos
  confirmed : (∃ e ∈ release.healthReads, SeenGone target.group target.description e.event) →
    new = []
  /-- A deregistration that failed or was not confirmed is warned of, once. -/
  unconfirmed : (¬∃ e ∈ release.healthReads, SeenGone target.group target.description e.event) →
    ∃ message, new = [⟨.targetDeregistration, message⟩]

/-- A canary is stopped that is launched, registered and not stopped: in a calm environment, with a
delay that makes a limit with the margin, and by a clock that can come to the end of both waits. -/
structure Releasing (engine : Engine) (env : Environment controlPlane S) (token : Token)
    (actor : Option Nat) (w : World controlPlane S) (s : State) (arn : TaskArn) (target : Target)
    (limit : Duration) : Prop where
  calm : env.Calm
  unfired : w.cancelled token = false
  launched : s.handle.taskArn = some arn
  registered : s.registration = some (.target target)
  going : s.handle.phase ≠ .stopped
  limited : ∀ delay w₁, Answered env actor w (.deregistrationDelay target.group) delay w₁ →
    (knownDelay delay).checkedAdd deregistrationMargin = some limit
  leaveRoom : ∀ delay w₁ w₂, Answered env actor w (.deregistrationDelay target.group) delay w₁ →
    Answered env actor w₁ (leavesGroup target) (.ok ()) w₂ →
      w₂.clock.nanos + limit.nanos ≤ Instant.latest
  stopRoom : ∀ t w₃ w₄, run env token actor (deregisterTarget engine) s w = ⟨.returned (), t, w₃⟩ →
    Answered env actor w₃ (stops engine arn) (.ok ()) w₄ →
      w₄.clock.nanos + (engine.limit .taskStopped).nanos ≤ Instant.latest

/-- On a clock that only the pauses move, there is room if both limits fit one after the other. -/
theorem Releasing.of_punctual (calm : env.Calm) (punctual : env.Punctual)
    (unfired : w.cancelled token = false) (launched : s.handle.taskArn = some arn)
    (registered : s.registration = some (.target target)) (going : s.handle.phase ≠ .stopped)
    (limited : ∀ delay w₁, Answered env actor w (.deregistrationDelay target.group) delay w₁ →
      (knownDelay delay).checkedAdd deregistrationMargin = some limit)
    (room : w.clock.nanos + limit.nanos + (engine.limit .taskStopped).nanos ≤ Instant.latest) :
    Releasing engine env token actor w s arn target limit := by
  have hstill : ∀ {r answer} {v v' : World controlPlane S}, Answered env actor v r answer v' →
      v'.clock = v.clock := fun h => by rw [h.2, punctual.clock_told]
  refine ⟨calm, unfired, launched, registered, going, limited, ?_, ?_⟩
  · intro delay w₁ w₂ hdelay hleft
    rw [hstill hleft, hstill hdelay]
    omega
  · intro t w₃ w₄ hrun hstop
    obtain ⟨delay, w₁, hdelay⟩ := exists_answered calm actor w (.deregistrationDelay target.group)
    obtain ⟨left, w₂, hleft⟩ := exists_answered calm actor w₁ (leavesGroup target)
    have hstart : w₂.clock = w.clock := (hstill hleft).trans (hstill hdelay)
    obtain ⟨v, new, hderegister, hdeparts⟩ := run_deregisterTarget_departs engine calm unfired
      registered hdelay hleft (limited delay w₁ hdelay) fun _ => by rw [hstart]; omega
    obtain rfl : w₃ = v := congrArg Aftermath.world (hrun.symm.trans hderegister)
    have hend := hdeparts.clock_le punctual
    rw [hstill hstop]
    rw [hstart] at hend
    omega

/-- A stop returns after a course of this kind, with what its answers about the task come to. -/
theorem Releasing.course (h : Releasing engine env token actor w s arn target limit)
    (spec : LaunchSpec) (balancer : LoadBalancer) :
    let out := run env token actor (task engine spec (.loadBalanced balancer)).stop.run s w
    ∃ (release : Release) (new : List Warning) (result : Except TaskError Unit)
      (answers : List (Except ClientError (List Task))),
      release.Describes engine env actor target arn limit w out.world new ∧
        out.state.warnings = s.warnings ++ new ∧ out.ending = .returned result ∧
        returnsIn release.taskReads =
          answers.map (Event.returned (ι := controlPlane) (engine.taskRead arn)) ∧
        haltResult engine arn release.accepted answers = some result := by
  intro out
  obtain ⟨delay, w₁, hdelay⟩ := exists_answered h.calm actor w (.deregistrationDelay target.group)
  obtain ⟨left, w₂, hleft⟩ := exists_answered h.calm actor w₁ (leavesGroup target)
  have hlimit := h.limited delay w₁ hdelay
  obtain ⟨w₃, new, hderegister, hdeparts⟩ := run_deregisterTarget_departs engine
    h.calm h.unfired h.registered hdelay hleft hlimit fun hok =>
      h.leaveRoom delay w₁ w₂ hdelay (hok ▸ hleft)
  have hunfired : w₃.cancelled token = false := by
    let out := run env token actor (deregisterTarget engine) s w
    have hkept : out.world.cancelled token = false := h.calm.cancelled_run _ h.unfired
    rwa [show out = _ from hderegister] at hkept
  obtain ⟨accepted, w₄, hstop⟩ := exists_answered h.calm actor w₃ (stops engine arn)
  obtain ⟨result, phase, w₅, answers, hhalt, hhalts⟩ := run_stopTask_halts (s := s.letGo new)
    h.calm hunfired h.launched h.going hstop fun hok =>
      h.stopRoom _ w₃ w₄ hderegister (hok ▸ hstop)
  -- The deregistration cannot fail, so the stop ends as the stop of the task does.
  have hout : out = ⟨.returned result, (s.letGo new).setPhase phase, w₅⟩ := by
    refine run_attempt_returned_iff.mpr (.inr ⟨(), s.letGo new, w₃, ?_, hhalt⟩)
    exact run_bind_returned_iff.mpr ⟨_, _, _, hderegister, rfl⟩
  have htrace : w₅.since w = w₁.since w ++ (w₂.since w₁ ++ (w₃.since w₂ ++
      (w₄.since w₃ ++ w₅.since w₄))) := by
    have hfourth := hstop.follows.trans hhalts.follows
    have hthird := hdeparts.follows.trans hfourth
    rw [hdelay.follows.since_trans (hleft.follows.trans hthird), hleft.follows.since_trans hthird,
      hdeparts.follows.since_trans hfourth, hstop.follows.since_trans hhalts.follows]
  rw [hout]
  refine ⟨⟨delay, w₁.clock, left, w₂.clock, w₃.since w₂, w₃.clock, accepted, w₄.clock,
    w₅.since w₄⟩, new, result, answers, ?_, rfl, rfl, hhalts.returns, hhalts.result⟩
  refine {
    trace := ?_
    healthReads := hdeparts.about
    taskReads := hhalts.about
    refused := hdeparts.refused
    limited := hlimit
    clock_le := hdeparts.clock_le
    clock_eq := hdeparts.clock_eq
    confirmed := hdeparts.confirmed
    unconfirmed := hdeparts.unconfirmed }
  rw [htrace, hdelay.since_eq h.calm, hleft.since_eq h.calm, hstop.since_eq h.calm]
  simp only [Release.trace, List.append_assoc]
  rfl

/-- The answers to the requests to stop a task and to describe tasks. -/
def taskReplies (trace : List (Entry controlPlane)) : List (Event controlPlane) :=
  (returnsIn trace).filter fun e =>
    e matches .returned (.stopTask ..) _ | .returned (.describeTasks ..) _

@[simp] theorem taskReplies_append (first rest : List (Entry controlPlane)) :
    taskReplies (first ++ rest) = taskReplies first ++ taskReplies rest := by
  simp [taskReplies]

theorem taskReplies_health {reads : List (Entry controlPlane)}
    (h : ∀ e ∈ reads, e.event.IsAbout (ι := controlPlane) (healthRead target)) :
    taskReplies reads = [] := by
  refine List.filter_eq_nil_iff.mpr fun event hevent => ?_
  simp only [returnsIn, List.mem_filter, List.mem_map] at hevent
  obtain ⟨⟨e, he, rfl⟩, hreturned⟩ := hevent
  have habout := h e he
  cases hread : e.event with
  | returned r answer =>
      rw [hread] at habout
      cases habout
      exact Bool.false_ne_true
  | issued r => simp [hread] at hreturned
  | slept d => simp [hread] at hreturned
  | fired => simp [hread] at hreturned

/-- The answers about the task tell how its stop was answered, and each of its reads. -/
theorem Release.Describes.replies {release : Release} {new : List Warning}
    {answers : List (Except ClientError (List Task))}
    (h : release.Describes engine env actor target arn limit w w₁ new)
    (hreturns : returnsIn release.taskReads =
      answers.map (Event.returned (ι := controlPlane) (engine.taskRead arn))) :
    taskReplies (w₁.since w) = .returned (stops engine arn) release.accepted ::
      answers.map (Event.returned (ι := controlPlane) (engine.taskRead arn)) := by
  have hreads : taskReplies release.taskReads =
      answers.map (Event.returned (ι := controlPlane) (engine.taskRead arn)) := by
    rw [taskReplies, hreturns, List.filter_eq_self]
    intro event hevent
    obtain ⟨answer, -, rfl⟩ := List.mem_map.mp hevent
    rfl
  rw [h.trace, Release.trace]
  simp only [taskReplies_append, taskReplies_health h.healthReads, hreads]
  rfl

/-- A stop first has the target leave its group as best it can, and then always stops the task. One
warning tells of a deregistration that failed or was not confirmed. Every other stop of the task
that is given the same answers about it returns the same. -/
theorem stop_releases_target (h : Releasing engine env token actor w s arn target limit)
    (spec : LaunchSpec) (balancer : LoadBalancer) :
    let out := run env token actor (task engine spec (.loadBalanced balancer)).stop.run s w
    (∃ (release : Release) (new : List Warning) (result : Except TaskError Unit),
      release.Describes engine env actor target arn limit w out.world new ∧
        out.state.warnings = s.warnings ++ new ∧ out.ending = .returned result) ∧
      ∀ {S' : Type} (env' : Environment controlPlane S') (token' : Token) (actor' : Option Nat)
        (w' : World controlPlane S') (s' : State) (target' : Target) (limit' : Duration)
        (spec' : LaunchSpec) (balancer' : LoadBalancer),
        Releasing engine env' token' actor' w' s' arn target' limit' →
          let out' := run env' token' actor'
            (task engine spec' (.loadBalanced balancer')).stop.run s' w'
          taskReplies (out'.world.since w') = taskReplies (out.world.since w) →
            out'.ending = out.ending := by
  intro out
  obtain ⟨release, new, result, answers, hdescribes, hwarnings, hending, hreturns, hresult⟩ :=
    h.course spec balancer
  refine ⟨⟨release, new, result, hdescribes, hwarnings, hending⟩, ?_⟩
  intro S' env' token' actor' w' s' target' limit' spec' balancer' h' out' hreplies
  obtain ⟨release', new', result', answers', hdescribes', -, hending', hreturns', hresult'⟩ :=
    h'.course spec' balancer'
  -- The answers about the task name the one to the stop and every one to a read, and nothing else.
  rw [hdescribes.replies hreturns, hdescribes'.replies hreturns', List.cons.injEq]
    at hreplies
  have hanswers : answers' = answers :=
    List.map_injective_iff.mpr (fun _ _ h => eq_of_heq (Event.returned.inj h).2) hreplies.2
  have haccepted : release'.accepted = release.accepted :=
    eq_of_heq (Event.returned.inj hreplies.1).2
  rw [haccepted, hanswers, hresult] at hresult'
  rw [hending, hending', Option.some.inj hresult']

/-- A control plane that answers at once, a deregistration as it was told to. -/
def parting : Environment controlPlane (Except ClientError Unit) where
  react left _ r :=
    (⟨.zero, false, 0, .answer
      (match r with
        | .deregistrationDelay _ => .ok none
        | .deregisterTarget _ _ => left
        | .describeTargetHealth _ _ => .ok none
        | .stopTask _ _ _ => .ok ()
        | .describeTasks _ _ => .ok []
        | _ => .error (.rejected "request" "not expected"))⟩, left)
  wake left _ := (⟨false, 0⟩, left)

theorem parting_calm : parting.Calm where
  answers _ _ _ := ⟨_, rfl⟩
  calls _ _ _ := rfl
  pauses _ _ := rfl

theorem parting_punctual : parting.Punctual := fun _ _ _ => rfl

/-- A canary that was verified behind a load balancer. -/
def verifiedState : State where
  handle := { taskArn := some ⟨"task/prod/1"⟩, placement := .onDemand, phase := .verified }
  registration := some (.target ⟨⟨"targetgroup/api"⟩, "10.0.0.7", 80, "zone-a"⟩)

theorem parting_releasing (left : Except ClientError Unit) :
    Releasing Rollout.sample.engine parting .caller none (.start default false left) verifiedState
      ⟨"task/prod/1"⟩ ⟨⟨"targetgroup/api"⟩, "10.0.0.7", 80, "zone-a"⟩ (.ofSeconds 360) := by
  have hlimit : (knownDelay (.ok none)).checkedAdd deregistrationMargin = some (.ofSeconds 360) :=
    by decide
  have hroom : (default : Instant).nanos + (Duration.ofSeconds 360).nanos +
      (Rollout.sample.engine.limit .taskStopped).nanos ≤ Instant.latest := by decide
  refine .of_punctual parting_calm parting_punctual ?_ ?_ ?_ ?_ ?_ ?_
  · rfl
  · rfl
  · rfl
  · decide
  · rintro delay w₁ ⟨htells, -⟩
    cases htells
    exact hlimit
  · exact hroom

/-- A stop returns the same whether its target leaves the group or is not let go. -/
theorem stop_releases_target_refused :
    let stop := (task Rollout.sample.engine sampleSpec
      (.loadBalanced ⟨⟨"targetgroup/api"⟩, "web", 80⟩)).stop.run
    let start : Except ClientError Unit → World controlPlane _ := .start default false
    let out := fun left => run parting .caller none stop verifiedState (start left)
    let refusal : ClientError := .rejected "request" "throttled"
    (out (.error refusal)).ending = (out (.ok ())).ending ∧
      (out (.ok ())).ending = .returned (.ok ()) ∧ (out (.ok ())).state.warnings = [] ∧
        (out (.error refusal)).state.warnings.map (·.kind) = [.targetDeregistration] := by
  intro stop start out refusal
  have hreleases := stop_releases_target (parting_releasing (.ok ())) sampleSpec
    ⟨⟨"targetgroup/api"⟩, "web", 80⟩
  have hending := hreleases.2 parting .caller none _ _ _ _ sampleSpec
    ⟨⟨"targetgroup/api"⟩, "web", 80⟩ (parting_releasing (.error refusal)) rfl
  exact ⟨hending, rfl, rfl, rfl⟩

end GatedRollout.Canary
