import GatedRollout.Proofs.Canary.Evidence
import GatedRollout.Proofs.Canary.Release

/-!
# What the stop of a canary confirms

The stop of a canary takes it out of its place and then stops its task, and each of the two is
confirmed by what is seen afterwards. `Leaving` and `Halting` say once what either of them adds to
the deeds of the canary and what comes of it. From these it follows that a stop succeeds exactly if
its task was confirmed to be gone, and warns of nothing exactly if its place was.
-/

namespace GatedRollout.Canary

variable {engine : Engine} {strategy : Strategy} {s t : State} {x y z : Deeds} {arn : TaskArn}

/-! ## Observations of an end -/

/-- A read shows the task stopped, or not at all. -/
def SeenStopped (cluster : String) (arn : TaskArn) (e : Event controlPlane) : Prop :=
  ∃ tasks, e = .returned (.describeTasks cluster [arn]) (.ok tasks) ∧
    ∀ task, Engine.reported arn tasks = some task → task.lastStatus = .stopped

/-- A read shows the target unused, or not at all. -/
def SeenGone (group : TargetGroupArn) (target : TargetDescription) (e : Event controlPlane) :
    Prop :=
  ∃ read, e = .returned (.describeTargetHealth group target) (.ok read) ∧
    ∀ health, read = some health → health.state = .unused

theorem judgeStopped_settled {tasks : List Task} {result : Except WaitError (Option Task)}
    (h : Engine.judgeStopped arn tasks = .settled result) :
    (∃ task, result = .ok task) ∧
      ∀ task, Engine.reported arn tasks = some task → task.lastStatus = .stopped := by
  unfold Engine.judgeStopped at h
  cases hreported : Engine.reported arn tasks with
  | none =>
      rw [hreported] at h
      cases h
      exact ⟨⟨_, rfl⟩, fun _ hnone => by cases hnone⟩
  | some task =>
      rw [hreported] at h
      dsimp only at h
      split at h
      · next hstopped =>
          cases h
          refine ⟨⟨_, rfl⟩, fun other hother => ?_⟩
          cases hother
          exact hstopped
      · cases h

theorem judgeStopped_pending {tasks : List Task} {seen : String}
    (h : Engine.judgeStopped arn tasks = .pending seen) :
    ∃ task, Engine.reported arn tasks = some task ∧ task.lastStatus ≠ .stopped := by
  unfold Engine.judgeStopped at h
  cases hreported : Engine.reported arn tasks with
  | none =>
      rw [hreported] at h
      cases h
  | some task =>
      rw [hreported] at h
      dsimp only at h
      split at h
      · cases h
      · next hrunning => exact ⟨task, rfl, hrunning⟩

theorem judgeGone_settled {read : Option TargetHealth} (h : judgeGone read = .settled ()) :
    ∀ health, read = some health → health.state = .unused := by
  rintro health rfl
  unfold judgeGone at h
  dsimp only at h
  split at h
  · next hunused => exact hunused
  · cases h

theorem judgeGone_pending {read : Option TargetHealth} {seen : String}
    (h : judgeGone read = .pending seen) :
    ∃ health, read = some health ∧ health.state ≠ .unused := by
  cases read with
  | none => cases h
  | some health =>
      unfold judgeGone at h
      dsimp only at h
      split at h
      · cases h
      · next hused => exact ⟨health, rfl, hused⟩

/-! ## Stopping the task -/

/-- The request that stops a canary's task. -/
def stops (engine : Engine) (arn : TaskArn) : ControlPlane.Request :=
  .stopTask engine.cluster arn stopReason

/-- What stopping a task adds to the deeds of its canary, and what it returns. Once the stop is
accepted, only the wait can fail, and it succeeds exactly if the task is seen stopped. -/
inductive Halting (engine : Engine) : Option TaskArn → Deeds → Except TaskError Unit → Prop
  | unlaunched : Halting engine none [] (.ok ())
  | refused (arn : TaskArn) (e : ClientError) :
      Halting engine (some arn)
        [.issued (stops engine arn), .returned (.stopTask engine.cluster arn stopReason) (.error e)]
        (.error (.client e))
  | accepted (arn : TaskArn) {reads : Deeds} {result : Except TaskError Unit}
      (about : ∀ e ∈ reads, e.IsAbout (engine.taskRead arn))
      (seen : result = .ok () ↔ ∃ e ∈ reads, SeenStopped engine.cluster arn e)
      (failed : ∀ e, result = .error e → ∃ cause, e = .wait cause) :
      Halting engine (some arn) (.issued (stops engine arn) ::
        .returned (.stopTask engine.cluster arn stopReason) (.ok ()) :: reads) result

/-- A wait for a stop succeeds exactly if it has seen the task stopped. -/
theorem awaited_stopped {limit : Duration} {unseen : String} {es : Deeds}
    {result : Except WaitError (Option Task)}
    (h : Engine.Awaited
      { request := engine.taskRead arn, interval := taskPollInterval, limit, unseen,
        judge := fun _ => Engine.judgeStopped arn } es result) :
    (∃ task, result = .ok task) ↔ ∃ e ∈ es, SeenStopped engine.cluster arn e := by
  rcases h with ⟨before, seen, tasks, rfl, -, hsettled⟩ | ⟨hpends, e, rfl⟩
  · obtain ⟨hok, hstopped⟩ := judgeStopped_settled hsettled
    exact ⟨fun _ => ⟨_, List.mem_append_right _ (List.mem_singleton_self _), tasks, rfl, hstopped⟩,
      fun _ => hok⟩
  · constructor
    · rintro ⟨_, ⟨⟩⟩
    rintro ⟨_, he, tasks, rfl, hstopped⟩
    obtain ⟨seen, seen', hpending⟩ := (hpends _ he).2 tasks rfl
    obtain ⟨task, hreported, hrunning⟩ := judgeStopped_pending hpending
    exact absurd (hstopped task hreported) hrunning

/-- The wait for the task to stop, as the rest of a stop that was accepted. -/
theorem secures_halted (engine : Engine) {inv : State → Deeds → Prop}
    (hinv : ∀ es, inv s (x ++ es)) :
    Secures recorded inv
      (fun result t y => t.warnings = s.warnings ∧ ∃ reads, y = x ++ reads ∧
        (∀ e ∈ reads, e.IsAbout (engine.taskRead arn)) ∧
          (result = .ok () ↔ ∃ e ∈ reads, SeenStopped engine.cluster arn e) ∧
            ∀ e, result = .error e → ∃ cause, e = .wait cause)
      ((engine.taskStopped arn (engine.limit .taskStopped)).within TaskError.wait >>=
        fun _ => setPhase .stopped).run s x := by
  refine Secures.attempt (Q := fun result t y => t = s ∧ ∃ reads, y = x ++ reads ∧
    (∀ e ∈ reads, e.IsAbout (engine.taskRead arn)) ∧
      ((∃ task, result = .ok task) ↔ ∃ e ∈ reads, SeenStopped engine.cluster arn e) ∧
        ∀ e, result = .error e → ∃ cause, e = .wait cause) ?_ ?_ ?_
  · refine Secures.attempt_within (Engine.secures_await_recorded _ _ _ (fun es _ => hinv es)
      (fun es result hes => ⟨rfl, es, rfl, hes.about, ?_⟩))
    rw [← awaited_stopped hes]
    cases result with
    | ok task =>
        refine ⟨⟨fun _ => ⟨task, rfl⟩, fun _ => ⟨task, rfl⟩⟩, ?_⟩
        rintro _ ⟨⟩
    | error e =>
        refine ⟨⟨?_, ?_⟩, ?_⟩
        · rintro ⟨_, ⟨⟩⟩
        · rintro ⟨_, ⟨⟩⟩
        · rintro _ ⟨⟩
          exact ⟨e, rfl⟩
  · rintro task _ _ ⟨rfl, reads, rfl, habout, hseen, -⟩
    refine Secures.attempt_modify ⟨rfl, reads, rfl, habout, by simpa using hseen, ?_⟩
    rintro _ ⟨⟩
  · rintro e _ _ ⟨rfl, reads, rfl, habout, hseen, hfailed⟩
    refine ⟨rfl, reads, rfl, habout, by simpa using hseen, ?_⟩
    rintro _ ⟨⟩
    exact hfailed e rfl

theorem secures_halting (engine : Engine) {inv : State → Deeds → Prop}
    (hstopped : s.handle.phase ≠ .stopped) (hinv : ∀ phase es, inv (s.setPhase phase) (x ++ es)) :
    Secures recorded inv
      (fun result t y => t.warnings = s.warnings ∧ ∃ z, y = x ++ z ∧
        Halting engine s.handle.taskArn z result)
      (stopTask engine).run s x := by
  apply Secures.state_then
  rw [if_neg hstopped]
  cases hr : s.handle.taskArn with
  | none => exact Secures.attempt_modify ⟨rfl, [], (List.append_nil x).symm, .unlaunched⟩
  | some arn =>
      refine Secures.modify_then (Secures.recorded_ask_then (hinv .stopping _)
        (fun accepted => ?_) (fun e => ?_))
      · refine (secures_halted engine fun es => ?_).weaken ?_
        · rw [List.append_assoc, List.append_assoc]
          exact hinv .stopping _
        · rintro result t _ ⟨hwarnings, reads, rfl, habout, hseen, hfailed⟩
          exact ⟨hwarnings, _, by simp only [List.append_assoc]; rfl,
            .accepted arn habout hseen hfailed⟩
      · exact ⟨rfl, _, by simp only [List.append_assoc]; rfl, .refused arn e⟩

/-! ## Leaving a place -/

/-- The request that takes a target out of its group. -/
def leavesGroup (target : Target) : ControlPlane.Request :=
  .deregisterTarget target.group target.description

/-- The request that takes an instance out of its registry. -/
def leavesRegistry (member : RegisteredInstance) : ControlPlane.Request :=
  .deregisterInstance member.serviceId member.instanceId

/-- What the look-up of a group's delay adds to the deeds. -/
def delayRead (group : TargetGroupArn) (answer : Except ClientError (Option Duration)) : Deeds :=
  [.issued (.deregistrationDelay group), .returned (.deregistrationDelay group) answer]

def refusedTarget (target : Target) (e : ClientError) : Warning :=
  ⟨.targetDeregistration, s!"failed to deregister canary target {target.text}: {e.message}"⟩

def unconfirmedTarget (target : Target) (e : TaskError) : Warning :=
  ⟨.targetDeregistration, s!"canary target {target.text} not confirmed deregistered: {e.message}"⟩

def refusedInstance (member : RegisteredInstance) (e : ClientError) : Warning :=
  ⟨.instanceDeregistration, s!"failed to deregister discovery instance {member.instanceId} " ++
    s!"from {member.serviceId}: {e.message}"⟩

/-- What leaving a place adds to the deeds of a canary, and what it warns of. A target whose
deregistration is accepted leaves a warning exactly if it is not seen gone. -/
inductive Leaving : Option Registration → Deeds → List Warning → Prop
  | nowhere : Leaving none [] []
  | targetRefused (target : Target) (delay : Except ClientError (Option Duration))
      (e : ClientError) :
      Leaving (some (.target target))
        (delayRead target.group delay ++ [.issued (leavesGroup target),
          .returned (.deregisterTarget target.group target.description) (.error e)])
        [refusedTarget target e]
  | targetLeft (target : Target) (delay : Except ClientError (Option Duration)) {reads : Deeds}
      {warnings : List Warning}
      (about : ∀ e ∈ reads, e.IsAbout (targetGoneWatch target .zero).request)
      (seen : warnings = [] ↔ ∃ e ∈ reads, SeenGone target.group target.description e)
      (said : warnings = [] ∨ ∃ e, warnings = [unconfirmedTarget target e]) :
      Leaving (some (.target target))
        (delayRead target.group delay ++ .issued (leavesGroup target) ::
          .returned (.deregisterTarget target.group target.description) (.ok ()) :: reads)
        warnings
  | instanceRefused (member : RegisteredInstance) (e : ClientError) :
      Leaving (some (.discovery member))
        [.issued (leavesRegistry member),
          .returned (.deregisterInstance member.serviceId member.instanceId) (.error e)]
        [refusedInstance member e]
  | instanceLeft (member : RegisteredInstance) :
      Leaving (some (.discovery member))
        [.issued (leavesRegistry member),
          .returned (.deregisterInstance member.serviceId member.instanceId) (.ok ())] []

theorem warnings_warn {warning : Warning} (h : s.warnings = []) :
    (s.warn warning).warnings = [warning] := by
  rw [State.warn, h]
  rfl

/-- A wait for a target to leave succeeds exactly if it has seen the target gone. -/
theorem secures_targetGone (engine : Engine) (target : Target) (limit : Duration)
    {inv : State → Deeds → Prop} (hinv : ∀ es, inv s (x ++ es)) :
    Secures recorded inv
      (fun result t y => t = s ∧ ∃ reads, y = x ++ reads ∧
        (∀ e ∈ reads, e.IsAbout (targetGoneWatch target .zero).request) ∧
          (result = .ok () ↔ ∃ e ∈ reads, SeenGone target.group target.description e))
      (waitTargetGone engine target limit).run s x := by
  have unseen : ∀ es : Deeds, (targetGoneWatch target limit).Pends es → ∀ e : TaskError,
      Except.error e = .ok () ↔ ∃ e ∈ es, SeenGone target.group target.description e := by
    refine fun es hes e => ⟨nofun, ?_⟩
    rintro ⟨_, he, read, rfl, hgone⟩
    obtain ⟨seen, seen', hpending⟩ := (hes _ he).2 read rfl
    obtain ⟨health, hread, hused⟩ := judgeGone_pending hpending
    exact absurd (hgone health hread) hused
  refine Secures.run_then (Watch.secures_run (fun es _ => hinv es) (fun es result hes => ?_) _)
  have habout := hes.about
  cases result with
  | settled u =>
      obtain ⟨before, seen, read, rfl, -, hsettled⟩ := hes
      refine Secures.attempt_pure ⟨rfl, _, rfl, habout, fun _ => ?_, fun _ => rfl⟩
      exact ⟨_, List.mem_append_right _ (List.mem_singleton_self _), read, rfl,
        judgeGone_settled hsettled⟩
  | overdue last => exact Secures.attempt_throw ⟨rfl, es, rfl, habout, unseen es hes _⟩
  | cancelled => exact Secures.attempt_throw ⟨rfl, es, rfl, habout, unseen es hes _⟩
  | failed e => exact Secures.attempt_throw ⟨rfl, es, rfl, habout, unseen es hes _⟩

theorem secures_targetLeaving (engine : Engine) {target : Target} {inv : State → Deeds → Prop}
    (hs : s.registration = some (.target target)) (hwarnings : s.warnings = [])
    (hinv : ∀ t y, t.warnings = [] → inv t y) :
    Secures recorded inv
      (fun _ t y => t.handle = s.handle ∧ ∃ z, y = x ++ z ∧
        Leaving (some (.target target)) z t.warnings)
      (deregisterTarget engine) s x := by
  apply Secures.state_bind
  rw [hs]
  refine Secures.modify_bind (Secures.bind (Q := fun _ t y => t = s.setRegistration none ∧
    ∃ answer, y = x ++ delayRead target.group answer) ?_ ?_)
  · refine Secures.recorded_ask_bind (hinv _ _ hwarnings) fun answer => ?_
    rw [List.append_assoc]
    cases answer with
    | ok delay => exact Secures.pure ⟨rfl, .ok delay, rfl⟩
    | error e => exact Secures.pure ⟨rfl, .error e, rfl⟩
  · rintro delay _ _ ⟨rfl, answer, rfl⟩
    refine Secures.recorded_ask_bind (hinv _ _ hwarnings) fun accepted => ?_
    cases accepted with
    | error e =>
        refine Secures.modify ⟨rfl, _, by simp only [List.append_assoc]; rfl, ?_⟩
        rw [warnings_warn (s := s.setRegistration none) hwarnings]
        exact .targetRefused target answer e
    | ok u =>
        -- The sum is left as it is: to compare it with itself, the kernel would count it up.
        generalize delay.checkedAdd deregistrationMargin = sum
        cases sum with
        | none => exact hinv _ _ hwarnings
        | some limit =>
            refine Secures.bind (secures_targetGone engine target limit
              fun es => hinv _ _ hwarnings) ?_
            rintro result _ _ ⟨rfl, reads, rfl, habout, hseen⟩
            cases result with
            | ok u =>
                refine Secures.pure ⟨rfl, _, by simp only [List.append_assoc]; rfl, ?_⟩
                exact .targetLeft target answer habout ⟨fun _ => hseen.mp rfl, fun _ => hwarnings⟩
                  (.inl hwarnings)
            | error e =>
                refine Secures.modify ⟨rfl, _, by simp only [List.append_assoc]; rfl, ?_⟩
                rw [warnings_warn (s := s.setRegistration none) hwarnings]
                exact .targetLeft target answer habout ⟨nofun, fun hgone => nomatch hseen.mpr hgone⟩
                  (.inr ⟨e, rfl⟩)

theorem secures_instanceLeaving {member : RegisteredInstance} {inv : State → Deeds → Prop}
    (hs : s.registration = some (.discovery member)) (hwarnings : s.warnings = [])
    (hinv : ∀ t y, t.warnings = [] → inv t y) :
    Secures recorded inv
      (fun _ t y => t.handle = s.handle ∧ ∃ z, y = x ++ z ∧
        Leaving (some (.discovery member)) z t.warnings)
      deregisterInstance s x := by
  apply Secures.state_bind
  rw [hs]
  refine Secures.modify_bind (Secures.recorded_ask_bind (hinv _ _ hwarnings) fun answer => ?_)
  cases answer with
  | ok accepted =>
      refine Secures.pure ⟨rfl, _, by simp only [List.append_assoc]; rfl, ?_⟩
      rw [show (s.setRegistration none).warnings = [] from hwarnings]
      exact .instanceLeft member
  | error e =>
      refine Secures.modify ⟨rfl, _, by simp only [List.append_assoc]; rfl, ?_⟩
      rw [warnings_warn (s := s.setRegistration none) hwarnings]
      exact .instanceRefused member e

theorem Account.secures_leaving (h : Account strategy s x) (engine : Engine)
    {inv : State → Deeds → Prop} (hwarnings : s.warnings = [])
    (hinv : ∀ t y, t.warnings = [] → inv t y) :
    Secures recorded inv
      (fun _ t y => t.handle = s.handle ∧ ∃ z, y = x ++ z ∧
        Leaving s.registration z t.warnings)
      (deregister engine strategy) s x := by
  cases hr : s.registration with
  | none =>
      have hnowhere : s.handle = s.handle ∧ ∃ z, x = x ++ z ∧ Leaving none z s.warnings :=
        ⟨rfl, [], (List.append_nil x).symm, hwarnings ▸ .nowhere⟩
      cases strategy with
      | standalone => exact Secures.pure hnowhere
      | loadBalanced balancer =>
          apply Secures.state_bind
          rw [hr]
          exact Secures.pure hnowhere
      | registry registry =>
          apply Secures.state_bind
          rw [hr]
          exact Secures.pure hnowhere
  | some r =>
      have hadmits := h.admits r hr
      cases strategy with
      | standalone => cases hadmits
      | loadBalanced balancer =>
          cases r with
          | target target => exact secures_targetLeaving engine hr hwarnings hinv
          | discovery member => cases hadmits
      | registry registry =>
          cases r with
          | target target => cases hadmits
          | discovery member => exact secures_instanceLeaving hr hwarnings hinv

/-! ## The whole stop -/

/-- While a canary is being stopped, it warns of nothing but its leaving. -/
def Warns (s : State) (x : Deeds) (t : State) (y : Deeds) : Prop :=
  t.warnings = [] ∨ ∃ z, x ++ z <+: y ∧ Leaving s.registration z t.warnings

/-- A canary that is stopped has left its place, and then its task was halted. -/
def Cleared (engine : Engine) (s : State) (x : Deeds) (result : Except TaskError Unit) (t : State)
    (y : Deeds) : Prop :=
  ∃ z₁ z₂, y = x ++ z₁ ++ z₂ ∧ Leaving s.registration z₁ t.warnings ∧
    Halting engine s.handle.taskArn z₂ result

theorem Account.secures_clearing (h : Account strategy s x) (engine : Engine) (spec : LaunchSpec)
    (hwarnings : s.warnings = []) :
    Secures recorded (Warns s x) (Cleared engine s x) (task engine spec strategy).stop.run s x := by
  refine Secures.run_then ((h.secures_leaving engine hwarnings fun _ _ => .inl).weaken ?_)
  rintro _ t _ ⟨hhandle, z, rfl, hleaving⟩
  refine (secures_halting engine (hhandle ▸ h.not_stopped) fun phase es => ?_).weaken ?_
  · exact .inr ⟨z, List.prefix_append _ _, hleaving⟩
  · rintro result v _ ⟨hkept, z', rfl, hhalting⟩
    exact ⟨z, z', rfl, hkept ▸ hleaving, hhandle ▸ hhalting⟩

/-! ## What was let go -/

/-- The stop of the task was accepted, and it was then seen stopped, or not at all. -/
def TaskReleased (cluster : String) (arn : TaskArn) (trace : Deeds) : Prop :=
  Shows [(· = .returned (.stopTask cluster arn stopReason) (.ok ())), SeenStopped cluster arn] trace

/-- The place was left by a request that was accepted, and a target was then seen unused, or not at
all. -/
def PlaceReleased (trace : Deeds) : Place → Prop
  | .group group target =>
      Shows [(· = .returned (.deregisterTarget group target) (.ok ())), SeenGone group target] trace
  | .registry service member => .returned (.deregisterInstance service member) (.ok ()) ∈ trace

/-- Whatever was begun in this trace was let go in it. -/
structure Released (cluster : String) (trace : Deeds) : Prop where
  tasks : ∀ arn, Mark.launched arn ∈ marks trace → TaskReleased cluster arn trace
  places : ∀ place, Mark.entered place ∈ marks trace → PlaceReleased trace place

/-! ### Showing one thing after another -/

section Pairs

variable {Q : Event controlPlane → Prop} {d : Event controlPlane} {es : Deeds}

theorem not_shows_of_notMem {ps : List (Event controlPlane → Prop)} (hx : d ∉ x) :
    ¬Shows ((· = d) :: ps) x := by
  rintro ⟨before, e, after, rfl, rfl, -⟩
  exact hx (by simp)

/-- After the only event of its kind, what else is to be shown has to come later. -/
theorem shows_pair_iff (hx : d ∉ x) (hes : d ∉ es) :
    Shows [(· = d), Q] (x ++ d :: es) ↔ ∃ e ∈ es, Q e := by
  constructor
  · rintro ⟨before, e, after, heq, rfl, before', e', after', rfl, hQ, -⟩
    rcases List.append_eq_append_iff.mp heq with ⟨more, rfl, hrest⟩ | ⟨more, rfl, hrest⟩
    · cases more with
      | nil =>
          obtain ⟨-, rfl⟩ := List.cons.inj hrest
          exact ⟨e', by simp, hQ⟩
      | cons d' more =>
          obtain ⟨-, rfl⟩ := List.cons.inj hrest
          exact absurd (by simp) hes
    · cases more with
      | nil =>
          obtain ⟨-, rfl⟩ := List.cons.inj hrest
          exact ⟨e', by simp, hQ⟩
      | cons d' more =>
          obtain ⟨rfl, -⟩ := List.cons.inj hrest
          exact absurd (by simp) hx
  · rintro ⟨e, he, hQ⟩
    obtain ⟨before, after, rfl⟩ := List.append_of_mem he
    exact ⟨x, d, before ++ e :: after, rfl, rfl, before, e, after, rfl, hQ, trivial⟩

end Pairs

/-! ### What is not among the deeds -/

/-- The requests that a canary makes to leave its place. -/
def isLeaving : ControlPlane.Request → Bool
  | .deregistrationDelay .. | .deregisterTarget .. | .describeTargetHealth .. => true
  | .deregisterInstance .. => true
  | _ => false

/-- The requests that a canary makes to stop its task. -/
def isHalting : ControlPlane.Request → Bool
  | .stopTask .. | .describeTasks .. => true
  | _ => false

theorem Leaving.about {registration : Option Registration} {warnings : List Warning}
    (h : Leaving registration z warnings) :
    ∀ e ∈ z, ∃ r, isLeaving r = true ∧ e.IsAbout (ι := controlPlane) r := by
  have hdelay : ∀ group answer, ∀ e ∈ delayRead group answer,
      ∃ r, isLeaving r = true ∧ e.IsAbout (ι := controlPlane) r := fun group answer =>
    List.forall_mem_cons.mpr ⟨⟨.deregistrationDelay group, rfl, rfl⟩,
      List.forall_mem_singleton.mpr ⟨.deregistrationDelay group, rfl, rfl⟩⟩
  cases h with
  | nowhere => exact List.forall_mem_nil _
  | targetRefused target delay e =>
      exact List.forall_mem_append.mpr ⟨hdelay _ _, List.forall_mem_cons.mpr
        ⟨⟨leavesGroup target, rfl, rfl⟩, List.forall_mem_singleton.mpr
          ⟨leavesGroup target, rfl, rfl⟩⟩⟩
  | targetLeft target delay habout =>
      refine List.forall_mem_append.mpr ⟨hdelay _ _, List.forall_mem_cons.mpr
        ⟨⟨leavesGroup target, rfl, rfl⟩, List.forall_mem_cons.mpr
          ⟨⟨leavesGroup target, rfl, rfl⟩, fun e he => ⟨_, ?_, habout e he⟩⟩⟩⟩
      rfl
  | instanceRefused member e =>
      exact List.forall_mem_cons.mpr ⟨⟨leavesRegistry member, rfl, rfl⟩,
        List.forall_mem_singleton.mpr ⟨leavesRegistry member, rfl, rfl⟩⟩
  | instanceLeft member =>
      exact List.forall_mem_cons.mpr ⟨⟨leavesRegistry member, rfl, rfl⟩,
        List.forall_mem_singleton.mpr ⟨leavesRegistry member, rfl, rfl⟩⟩

theorem Halting.about {target : Option TaskArn} {result : Except TaskError Unit}
    (h : Halting engine target z result) :
    ∀ e ∈ z, ∃ r, isHalting r = true ∧ e.IsAbout (ι := controlPlane) r := by
  cases h with
  | unlaunched => exact List.forall_mem_nil _
  | refused arn e =>
      exact List.forall_mem_cons.mpr ⟨⟨stops engine arn, rfl, rfl⟩,
        List.forall_mem_singleton.mpr ⟨stops engine arn, rfl, rfl⟩⟩
  | accepted arn habout =>
      exact List.forall_mem_cons.mpr ⟨⟨stops engine arn, rfl, rfl⟩, List.forall_mem_cons.mpr
        ⟨⟨stops engine arn, rfl, rfl⟩, fun e he => ⟨_, rfl, habout e he⟩⟩⟩

/-- What an answered canary has not asked for so far, it has no reply to. -/
theorem Account.not_returned (h : Account strategy s x) (hx : Answered x)
    {r : ControlPlane.Request} {m : Mark} (hm : mark? (.issued r) = some m) (hheld : m ∉ s.held)
    (answer : Except ClientError (controlPlane.Reply r)) : .returned r answer ∉ x := by
  intro hmem
  have hmark : m ∈ marks x := List.mem_filterMap.mpr ⟨_, hx r answer hmem, hm⟩
  rw [h.marks_eq] at hmark
  exact hheld hmark

theorem not_mem_held_of_stopped : Mark.stopped arn ∉ s.held := by
  simp [State.held]

theorem not_mem_held_of_left {place : Place} : Mark.left place ∉ s.held := by
  simp [State.held]

theorem not_returned_of_about {q : ControlPlane.Request → Bool}
    (hz : ∀ e ∈ z, ∃ r, q r = true ∧ e.IsAbout (ι := controlPlane) r) {r : ControlPlane.Request}
    (hr : q r = false) (answer : Except ClientError (controlPlane.Reply r)) :
    .returned r answer ∉ z := by
  intro hmem
  obtain ⟨r', hr', habout⟩ := hz _ hmem
  obtain rfl : r = r' := habout
  rw [hr] at hr'
  cases hr'

/-! ### What a stop let go -/

section Letting

variable {result : Except TaskError Unit}

/-- A stop succeeds exactly if the task, where one was launched, was let go. -/
theorem Cleared.task_iff (h : Cleared engine s x result t y) (haccount : Account strategy s x)
    (hx : Answered x) :
    result = .ok () ↔ ∀ arn, s.handle.taskArn = some arn → TaskReleased engine.cluster arn y := by
  obtain ⟨z₁, z₂, rfl, hleaving, hhalting⟩ := h
  have hbefore : ∀ arn, .returned (.stopTask engine.cluster arn stopReason) (.ok ()) ∉ x ++ z₁ := by
    intro arn hmem
    rcases List.mem_append.mp hmem with hmem | hmem
    · exact haccount.not_returned hx (m := .stopped arn) rfl not_mem_held_of_stopped _ hmem
    · exact not_returned_of_about hleaving.about rfl _ hmem
  cases hr : s.handle.taskArn with
  | none =>
      rw [hr] at hhalting
      cases hhalting
      exact ⟨fun _ => nofun, fun _ => rfl⟩
  | some arn =>
      rw [hr] at hhalting
      simp only [Option.some.injEq, forall_eq']
      cases hhalting with
      | refused _ e =>
          refine ⟨nofun, fun hreleased => absurd hreleased (not_shows_of_notMem ?_)⟩
          simpa using hbefore arn
      | accepted _ habout hseen hfailed =>
          rw [hseen, List.append_cons]
          refine (shows_pair_iff ?_ fun he => ?_).symm
          · simpa using hbefore arn
          · cases habout _ he

/-- Leaving a group warns of nothing exactly if the target was let go, also in a trace in which it
was not deregistered before and not looked at afterwards. -/
theorem Leaving.target_iff {target : Target} {warnings : List Warning}
    (h : Leaving (some (.target target)) z warnings)
    (hx : .returned (.deregisterTarget target.group target.description) (.ok ()) ∉ x)
    (hy : ∀ {r : ControlPlane.Request}, isHalting r = false → ∀ answer, .returned r answer ∉ y) :
    warnings = [] ↔ PlaceReleased (x ++ z ++ y) (.group target.group target.description) := by
  have hy' : .returned (.deregisterTarget target.group target.description) (.ok ()) ∉ y :=
    hy rfl _
  cases h with
  | targetRefused _ delay e =>
      refine ⟨nofun, fun hreleased => absurd hreleased (not_shows_of_notMem ?_)⟩
      simpa [delayRead] using ⟨hx, hy'⟩
  | @targetLeft _ delay reads _ habout hseen hsaid =>
      have hlater : (∃ e ∈ reads ++ y, SeenGone target.group target.description e) ↔
          ∃ e ∈ reads, SeenGone target.group target.description e := by
        constructor
        · rintro ⟨e, he, hgone⟩
          rcases List.mem_append.mp he with he | he
          · exact ⟨e, he, hgone⟩
          · obtain ⟨read, rfl, -⟩ := hgone
            exact absurd he (hy (r := .describeTargetHealth _ _) rfl _)
        · rintro ⟨e, he, hgone⟩
          exact ⟨e, List.mem_append_left _ he, hgone⟩
      have hsplit : ∀ d i a : Deeds, ∀ e : Event controlPlane,
          x ++ (d ++ (i ++ e :: a)) ++ y = x ++ d ++ i ++ e :: (a ++ y) := by simp
      rw [hseen, ← hlater, ← List.singleton_append, hsplit]
      refine (shows_pair_iff ?_ ?_).symm
      · simpa [delayRead] using hx
      · refine fun he => (List.mem_append.mp he).elim (fun he => ?_) hy'
        cases habout _ he

/-- The same of a registry, where the request alone lets go of an instance. -/
theorem Leaving.instance_iff {member : RegisteredInstance} {warnings : List Warning}
    (h : Leaving (some (.discovery member)) z warnings)
    (hx : .returned (.deregisterInstance member.serviceId member.instanceId) (.ok ()) ∉ x)
    (hy : .returned (.deregisterInstance member.serviceId member.instanceId) (.ok ()) ∉ y) :
    warnings = [] ↔ PlaceReleased (x ++ z ++ y) (.registry member.serviceId member.instanceId) := by
  cases h with
  | instanceRefused _ e =>
      refine ⟨nofun, fun hreleased => absurd hreleased ?_⟩
      simpa [PlaceReleased] using ⟨hx, hy⟩
  | instanceLeft =>
      refine ⟨fun _ => ?_, fun _ => rfl⟩
      exact List.mem_append_left _ (List.mem_append_right _ (by simp))

/-- A stop warns of nothing exactly if the place, where there was one, was let go. -/
theorem Cleared.place_iff (h : Cleared engine s x result t y) (haccount : Account strategy s x)
    (hx : Answered x) :
    t.warnings = [] ↔ ∀ r, s.registration = some r → PlaceReleased y r.place := by
  obtain ⟨z₁, z₂, rfl, hleaving, hhalting⟩ := h
  have hbefore : ∀ {r : ControlPlane.Request} {place : Place},
      mark? (.issued r) = some (.left place) → ∀ answer, .returned r answer ∉ x := fun hr =>
    haccount.not_returned hx hr not_mem_held_of_left
  have hafter : ∀ {r : ControlPlane.Request}, isHalting r = false →
      ∀ answer, .returned r answer ∉ z₂ := not_returned_of_about hhalting.about
  cases hr : s.registration with
  | none =>
      rw [hr] at hleaving
      generalize t.warnings = warnings at hleaving
      cases hleaving
      exact ⟨fun _ => nofun, fun _ => rfl⟩
  | some r =>
      rw [hr] at hleaving
      simp only [Option.some.injEq, forall_eq']
      cases r with
      | target target => exact hleaving.target_iff (hbefore (r := leavesGroup target) rfl _) hafter
      | discovery member =>
          exact hleaving.instance_iff (hbefore (r := leavesRegistry member) rfl _)
            (hafter (r := leavesRegistry member) rfl _)

end Letting

/-! ## What a canary complains of -/

/-- What a warning about a place says, and what the trace shows of it. -/
inductive Complaint (trace : Deeds) : Registration → Warning → Prop
  | targetRefused (target : Target) (e : ClientError)
      (refused : .returned (.deregisterTarget target.group target.description) (.error e) ∈ trace) :
      Complaint trace (.target target) (refusedTarget target e)
  | targetUnconfirmed (target : Target) (e : TaskError)
      (accepted : .returned (.deregisterTarget target.group target.description) (.ok ()) ∈ trace) :
      Complaint trace (.target target) (unconfirmedTarget target e)
  | instanceRefused (member : RegisteredInstance) (e : ClientError)
      (refused : .returned (.deregisterInstance member.serviceId member.instanceId) (.error e) ∈
        trace) :
      Complaint trace (.discovery member) (refusedInstance member e)

/-- A canary with this trace warns of nothing, or once of a place that it entered. -/
def Complains (trace : Deeds) (warnings : List Warning) : Prop :=
  warnings = [] ∨ ∃ r warning, warnings = [warning] ∧ Mark.entered r.place ∈ marks trace ∧
    Complaint trace r warning

theorem Complaint.mono {trace : Deeds} {r : Registration} {warning : Warning}
    (h : Complaint z r warning) (hz : ∀ e ∈ z, e ∈ trace) : Complaint trace r warning := by
  cases h with
  | targetRefused target e hmem => exact .targetRefused target e (hz _ hmem)
  | targetUnconfirmed target e hmem => exact .targetUnconfirmed target e (hz _ hmem)
  | instanceRefused member e hmem => exact .instanceRefused member e (hz _ hmem)

theorem Leaving.complaint {registration : Option Registration} {warnings : List Warning}
    (h : Leaving registration z warnings) : warnings = [] ∨
      ∃ r warning, registration = some r ∧ warnings = [warning] ∧ Complaint z r warning := by
  cases h with
  | nowhere => exact .inl rfl
  | targetRefused target delay e =>
      exact .inr ⟨_, _, rfl, rfl, .targetRefused target e (by simp)⟩
  | targetLeft target delay habout hseen hsaid =>
      rcases hsaid with rfl | ⟨e, rfl⟩
      · exact .inl rfl
      · exact .inr ⟨_, _, rfl, rfl, .targetUnconfirmed target e (by simp)⟩
  | instanceRefused member e => exact .inr ⟨_, _, rfl, rfl, .instanceRefused member e (by simp)⟩
  | instanceLeft member => exact .inl rfl

theorem Account.mem_entered (h : Account strategy s x) {r : Registration}
    (hr : s.registration = some r) (hy : x <+: y) : Mark.entered r.place ∈ marks y := by
  obtain ⟨more, rfl⟩ := hy
  rw [marks_append, h.marks_eq, State.held, hr]
  simp

theorem Warns.complains (h : Warns s x t y) (haccount : Account strategy s x) :
    Complains y t.warnings := by
  rcases h with hnone | ⟨z, hz, hleaving⟩
  · exact .inl hnone
  · refine hleaving.complaint.imp_right ?_
    rintro ⟨r, warning, hr, hwarnings, hcomplaint⟩
    have hx := (List.prefix_append x z).trans hz
    refine ⟨r, warning, hwarnings, haccount.mem_entered hr hx, hcomplaint.mono fun e he => ?_⟩
    exact hz.subset (List.mem_append_right _ he)

theorem Cleared.warns {result : Except TaskError Unit} (h : Cleared engine s x result t y) :
    Warns s x t y := by
  obtain ⟨z₁, z₂, rfl, hleaving, -⟩ := h
  exact .inr ⟨z₁, List.prefix_append _ _, hleaving⟩

/-! ## The diagnosis of a canary -/

/-- How the stop of a task failed: it was refused, or it was accepted and the wait failed. -/
def Unstopped (cluster : String) (arn : TaskArn) (trace : Deeds) (e : TaskError) : Prop :=
  (∃ cause, e = .client cause ∧
    .returned (.stopTask cluster arn stopReason) (.error cause) ∈ trace) ∨
  ((∃ cause, e = .wait cause) ∧ .returned (.stopTask cluster arn stopReason) (.ok ()) ∈ trace)

/-- What the stop of a canary returns and warns of, by the trace of the canary. -/
structure Diagnosed (cluster : String) (result : Except TaskError Unit) (warnings : List Warning)
    (trace : Deeds) : Prop where
  tasks : result = .ok () ↔
    ∀ arn, Mark.launched arn ∈ marks trace → TaskReleased cluster arn trace
  places : warnings = [] ↔ ∀ place, Mark.entered place ∈ marks trace → PlaceReleased trace place
  complains : Complains trace warnings
  failed : ∀ e, result = .error e → ∃ arn, Mark.launched arn ∈ marks trace ∧
    ¬TaskReleased cluster arn trace ∧ Unstopped cluster arn trace e

theorem State.launched_mem_iff :
    Mark.launched arn ∈ s.held ++ s.released ↔ s.handle.taskArn = some arn := by
  simp [State.held, State.released]

theorem State.entered_mem_iff {place : Place} :
    Mark.entered place ∈ s.held ++ s.released ↔
      ∃ r, s.registration = some r ∧ r.place = place := by
  simp [State.held, State.released]

theorem Cleared.diagnosed {result : Except TaskError Unit} (h : Cleared engine s x result t y)
    (haccount : Account strategy s x) (hx : Answered x) (hmarks : marks y = s.held ++ s.released) :
    Diagnosed engine.cluster result t.warnings y := by
  refine ⟨?_, ?_, h.warns.complains haccount, ?_⟩
  · simp only [hmarks, State.launched_mem_iff]
    exact h.task_iff haccount hx
  · simp only [hmarks, State.entered_mem_iff]
    refine (h.place_iff haccount hx).trans ⟨?_, fun hall r hr => hall _ ⟨r, hr, rfl⟩⟩
    rintro hall _ ⟨r, hr, rfl⟩
    exact hall r hr
  · rintro e rfl
    have hkept := h.task_iff haccount hx
    obtain ⟨z₁, z₂, rfl, -, hhalting⟩ := h
    cases hr : s.handle.taskArn with
    | none =>
        rw [hr] at hhalting
        cases hhalting
    | some arn =>
        simp only [hr, Option.some.injEq, forall_eq'] at hkept
        refine ⟨arn, hmarks ▸ State.launched_mem_iff.mpr hr, (nomatch hkept.mpr ·), ?_⟩
        rw [hr] at hhalting
        cases hhalting with
        | refused _ cause => exact .inl ⟨cause, rfl, by simp⟩
        | accepted _ habout hseen hfailed => exact .inr ⟨hfailed e rfl, by simp⟩

/-- Whatever becomes of its stop, a canary complains only of what it left behind, and a stop that
returns has diagnosed the canary. -/
theorem Account.secures_diagnosis (h : Account strategy s x) (hx : Answered x)
    (hwarnings : s.warnings = []) (engine : Engine) (spec : LaunchSpec) :
    Secures recorded (fun t y => Complains y t.warnings)
      (fun result t y => Diagnosed engine.cluster result t.warnings y)
      (task engine spec strategy).stop.run s x := by
  refine ((h.secures_clearing engine spec hwarnings).both (h.secures_stop engine spec)).mono ?_ ?_
  · exact fun t y hy => hy.1.complains h
  · exact fun result t y hy => hy.1.diagnosed h hx hy.2

end GatedRollout.Canary
