import GatedRollout.Proofs.Canary.Launching

/-!
# What a verified canary shows

The three ways in which a canary is verified, each as a chain of the moves before it. A
verification that succeeds leaves the evidence of its strategy in the trace; one that fails leaves
at least the account.
-/

namespace GatedRollout.Canary

variable {strategy : Strategy} {arn : TaskArn} {registration : Option Registration}
  {ps : List (Event controlPlane → Prop)} {s : State} {x : Deeds} {α : Type}
  {R : α → State → Deeds → Prop}

/-- What a verification leaves where it succeeds. -/
def Verified (engine : Engine) (d : TaskDefinition) (strategy : Strategy) (_ : Unit) (s : State)
    (x : Deeds) : Prop :=
  Account strategy s x ∧ Evidence engine d strategy x

/-- The moves that come before every verification. -/
theorem Stands.running_then {engine : Engine} {spec : LaunchSpec} {f : Task → Move α}
    (h : Stands strategy arn registration [Launched arn] s x)
    (next : ∀ task t y, task.arn = arn →
      Stands strategy arn registration (started engine.cluster spec.taskDefinition arn) t y →
        Secures recorded (Account strategy) (Then strategy R) (f task).run t y) :
    Secures recorded (Account strategy) (Then strategy R)
      (Canary.waitRunning engine >>= fun task => Canary.waitContainerHealth engine spec >>=
        fun _ => Canary.setPhase .verifying >>= fun _ => f task).run s x := by
  refine Secures.attempt (h.waitRunning engine) ?_ (fun _ _ _ hpost => hpost)
  intro task s x hrunning
  obtain ⟨harn, h⟩ := hrunning
  refine Secures.attempt (h.waitContainerHealth engine spec) ?_ (fun _ _ _ hpost => hpost)
  intro _ s x h
  exact Secures.modify_then (next task _ _ harn (h.setPhase Phase.noConfusion))

/-- Register the task somewhere, and note where as soon as that is accepted. -/
theorem Stands.register_then {r : ControlPlane.Request} {place : Registration}
    {fault : ClientError → TaskError} {f : Unit → Move α} (h : Stands strategy arn none ps s x)
    (hadmits : strategy.admits place = true) (hissued : mark? (.issued r) = none)
    (hrefused : ∀ e, mark? (.returned r (.error e)) = none)
    (haccepted : ∀ reply, mark? (.returned r (.ok reply)) = some (.entered place.place))
    (next : ∀ y, Stands strategy arn (some place)
      (ps ++ [fun e => mark? e = some (.entered place.place)]) (s.setRegistration (some place)) y →
        Secures recorded (Account strategy) (Then strategy R) (f ()).run
          (s.setRegistration (some place)) y) :
    Secures recorded (Account strategy) (Then strategy R)
      (Attempt.ask (ι := controlPlane) r fault >>= fun _ =>
        Attempt.modify (·.setRegistration (some place)) >>= f).run s x := by
  have hquiet := marks_of_quiet hissued
  refine Secures.recorded_ask_then (h.account.quiet hquiet) (fun reply => ?_) (fun e => ?_)
  · have hmark := haccepted reply
    have hstands := h.quiet hquiet
    refine Secures.modify_then (next _ ⟨⟨?_, hstands.account.not_stopped, ?_⟩,
      hstands.taskArn_eq, rfl, hstands.shows.snoc (List.mem_singleton_self _) hmark⟩)
    · rw [marks_append, hstands.account.marks_eq, marks_of_mark hmark]
      simp [State.held, State.setRegistration, hstands.registration_eq]
    · intro r hr
      cases hr
      exact hadmits
  · exact (h.account.quiet hquiet).quiet (marks_of_quiet (hrefused e))

/-! ## Behind a load balancer -/

theorem judgeTarget_ok {target : Target} {tracker : HealthTracker} {read : Option TargetHealth}
    (h : judgeTarget target tracker read = .settled (.ok ())) :
    ∃ health, read = some health ∧ health.state = .healthy := by
  cases read with
  | none => cases h
  | some health =>
      obtain ⟨state, reason, description⟩ := health
      refine ⟨_, rfl, ?_⟩
      cases state with
      | healthy => rfl
      | unused =>
          by_cases hreads : maxUnusedReads ≤ tracker.counted.unusedReads
          · simp [judgeTarget, HealthTracker.observe, hreads] at h
          · simp [judgeTarget, HealthTracker.observe, hreads] at h
      | _ => cases h

theorem Stands.verifyTarget (engine : Engine) (spec : LaunchSpec) {balancer : LoadBalancer}
    (h : Stands (.loadBalanced balancer) arn none [Launched arn] s x) :
    Secures recorded (Account (.loadBalanced balancer))
      (Then (.loadBalanced balancer)
        (Verified engine spec.taskDefinition (.loadBalanced balancer)))
      (Canary.verifyTarget engine spec balancer).run s x := by
  refine h.running_then fun task s x _ h => ?_
  refine Secures.lift_then (fun port _ => ?_) (fun _ _ => h.account)
  refine h.networkIdentity_then fun identity x h => ?_
  refine h.register_then rfl rfl (fun _ => rfl) (fun _ => rfl) fun x h => ?_
  refine h.watch_then rfl _ fun es result hes hquiet => ?_
  cases result with
  | settled result =>
      apply Secures.attempt_lift
      cases result with
      | error e => exact (h.quiet hquiet).account
      | ok u =>
          obtain ⟨before, tracker, read, rfl, -, hsettled⟩ := hes
          obtain ⟨health, rfl, hhealthy⟩ := judgeTarget_ok hsettled
          exact ⟨(h.quiet hquiet).account, arn, _, health, hhealthy, (h.quiet hquiet).shows,
            by rw [← List.append_assoc, List.getLast?_concat]; rfl⟩
  | overdue tracker => exact Secures.attempt_throw (h.quiet hquiet).account
  | cancelled => exact Secures.attempt_throw (h.quiet hquiet).account
  | failed e => exact Secures.attempt_throw (h.quiet hquiet).account

/-! ## In a discovery registry -/

theorem judgeDiscovered_settled {instanceId : String} {found : List DiscoveredInstance}
    (h : judgeDiscovered instanceId found = .settled ()) :
    ∃ i ∈ found, i.instanceId = instanceId := by
  unfold judgeDiscovered at h
  split at h
  · next hfound => simpa using hfound
  · cases h

theorem Stands.verifyInstance (engine : Engine) (spec : LaunchSpec) {registry : ServiceRegistry}
    (h : Stands (.registry registry) arn none [Launched arn] s x) :
    Secures recorded (Account (.registry registry))
      (Then (.registry registry) (Verified engine spec.taskDefinition (.registry registry)))
      (Canary.verifyInstance engine spec registry).run s x := by
  refine h.running_then fun task s x harn h => ?_
  subst harn
  refine h.read_then rfl fun service x h => ?_
  refine h.read_then rfl fun domain x h => ?_
  refine Secures.lift_then (fun port _ => ?_) (fun _ _ => h.account)
  refine h.networkIdentity_then fun identity x h => ?_
  refine h.register_then rfl rfl (fun _ => rfl) (fun _ => rfl) fun x h => ?_
  refine h.ask_then (fun _ he => mark?_of_updateInstanceHealth he) fun accepted x h => ?_
  refine h.watch_then rfl _ fun es result hes hquiet => ?_
  cases result with
  | settled u =>
      obtain ⟨before, seen, found, rfl, -, hsettled⟩ := hes
      have hfound := judgeDiscovered_settled hsettled
      have hstands := h.observe hquiet (List.mem_append_right _ (List.mem_singleton_self _))
        (show Discovered engine domain.name service.name task.arn.resourceId _ from
          ⟨found, rfl, hfound⟩)
      have hshows := hstands.shows
      simp only [List.append_assoc, List.cons_append, List.nil_append] at hshows
      exact Secures.attempt_pure ⟨hstands.account, task.arn, service, domain, hshows⟩
  | overdue u => exact Secures.attempt_throw (h.quiet hquiet).account
  | cancelled => exact Secures.attempt_throw (h.quiet hquiet).account
  | failed e => exact Secures.attempt_throw (h.quiet hquiet).account

/-! ## Alone -/

theorem Stands.ensureRunning (engine : Engine) (h : Stands strategy arn registration ps s x) :
    Secures recorded (Account strategy)
      (Then strategy fun _ t y => Stands strategy arn registration
        (ps ++ [SeenRunning engine.cluster arn fun _ => True]) t y)
      (Canary.ensureRunning engine).run s x := by
  refine h.taskArn_then (Secures.attempt (Q := Then strategy fun seen t y => Account strategy t y ∧
    ∀ task, seen = some task → task.lastStatus = .running → Stands strategy arn registration
      (ps ++ [SeenRunning engine.cluster arn fun _ => True]) t y) ?_ ?_ ?_)
  · refine h.read_then rfl fun tasks y hread => Secures.attempt_pure ⟨hread.account, ?_⟩
    intro task hreported hrunning
    refine ⟨hread.account, hread.taskArn_eq, hread.registration_eq,
      hread.shows.weaken_last fun e he => ?_⟩
    subst he
    exact ⟨tasks, task, rfl, hreported, hrunning, trivial⟩
  · intro seen t y hread
    obtain ⟨haccount, hseen⟩ := hread
    apply Secures.attempt_lift
    cases hjudge : judgeRunning arn seen with
    | ok task =>
        obtain ⟨hsome, hrunning⟩ := judgeRunning_some hjudge
        exact hseen task hsome hrunning
    | error e => exact haccount
  · exact fun _ _ _ hpost => hpost

theorem Stands.verifyIdle (engine : Engine) (spec : LaunchSpec)
    (h : Stands .standalone arn none [Launched arn] s x) :
    Secures recorded (Account .standalone)
      (Then .standalone (Verified engine spec.taskDefinition .standalone))
      (Canary.verifyIdle engine spec).run s x := by
  refine h.running_then fun task s x _ h => ?_
  apply h.taskArn_then
  have hslept : ∀ ds, marks (List.map .slept ds) = [] := fun ds =>
    List.filterMap_eq_nil_iff.mpr fun e he => by
      obtain ⟨d, -, rfl⟩ := List.mem_map.mp he
      rfl
  refine Secures.run_then (secures_idle (fun ds => h.account.quiet (hslept ds)) ?_ _ _ _)
  intro ds rest
  have h := h.quiet (hslept ds)
  cases rest with
  | cancelled => exact Secures.attempt_throw h.account
  | elapsed =>
      refine Secures.attempt (h.ensureRunning engine) ?_ (fun _ _ _ hpost => hpost)
      exact fun _ t y hstands => Secures.attempt_pure ⟨hstands.account, arn, hstands.shows⟩

/-! ## Every verification -/

theorem secures_wait (engine : Engine) (spec : LaunchSpec) (strategy : Strategy)
    (h : Stands strategy arn none [Launched arn] s x) :
    Secures recorded (Account strategy)
      (Then strategy (Verified engine spec.taskDefinition strategy))
      (task engine spec strategy).wait.run s x := by
  refine secures_settle (fun _ t y hverified => ⟨hverified.1.setPhase Phase.noConfusion,
    hverified.2⟩) ?_
  cases strategy with
  | standalone => exact h.verifyIdle engine spec
  | loadBalanced balancer => exact h.verifyTarget engine spec
  | registry registry => exact h.verifyInstance engine spec

end GatedRollout.Canary
