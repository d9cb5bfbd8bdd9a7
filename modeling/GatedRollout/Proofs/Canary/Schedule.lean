import GatedRollout.Canary.Task
import GatedRollout.Proofs.Wait.Schedule

/-!
# The schedules of the waits of canaries

The rules of the container health gate, of the waits for a target to become healthy and to leave
its group, and of the wait for an instance to be found. With the waits at the scheduler these are
all the waits there are, and every one of them is governed by its rules.
-/

namespace GatedRollout

namespace Canary

/-! ## Rules -/

/-- A task that does not run is decisive, and so is one of which every container that is waited
for is healthy. -/
def gateRules (arn : TaskArn) (checked : List String) (limit : Duration) :
    Rules (List Task) (Except TaskError Unit) where
  interval := healthPollInterval
  limit
  decides _ tasks :=
    match Engine.reported arn tasks with
    | none => some (.error (.taskNotFound arn))
    | some task =>
        if task.lastStatus ≠ .running then
          some (.error (.notRunning arn task.lastStatus task.stoppedReasonOrDefault))
        else if ∀ name ∈ checked, (task.container name).map (·.healthStatus) = some .healthy then
          some (.ok ())
        else none
  failure e := .error (.client e)
  timeout earlier :=
    .error (.containerHealthTimeout arn
      (", ".intercalate
        (Rules.latest
          (fun tasks => (Engine.reported arn tasks).map (unhealthyContainers · checked)) []
          earlier))
      limit)

/-- The number of `unused` reads since any other. -/
def unusedRun (earlier : List (Option TargetHealth)) : Nat :=
  (earlier.reverse.takeWhile fun read => read.map (·.state) = some .unused).length

/-- The state of a target, where it has a record. -/
def shownState (read : Option TargetHealth) : Option TargetHealthState := read.map (·.state)

/-- A target that has no record, is healthy or fails is decisive, and so is the read that makes it
`unused` too often in a row. -/
def healthyRules (target : Target) (limit : Duration) :
    Rules (Option TargetHealth) (Except TaskError Unit) where
  interval := healthPollInterval
  limit
  decides earlier read :=
    match read with
    | none => some (.error (.targetNotRegistered target.group.text target.id target.port))
    | some health =>
        if health.state = .healthy then some (.ok ())
        else if health.state = .initial then none
        else if health.state = .unused ∧ unusedRun earlier + 1 < 5 then none
        else
          some (.error (.targetUnhealthy target.group.text target.id target.port health.state
            health.reason))
  failure e := .error (.client e)
  timeout earlier :=
    let last := Rules.latest (fun read => (shownState read).map some) none earlier
    .error (.targetHealthTimeout target.group.text target.id target.port
      ((last.map (·.name)).getD "none") limit)

/-- A target that has no record or is unused is decisive. -/
def goneRules (target : Target) (limit : Duration) :
    Rules (Option TargetHealth) (Except TaskError Unit) where
  interval := healthPollInterval
  limit
  decides _ read :=
    match read with
    | none => some (.ok ())
    | some health => if health.state = .unused then some (.ok ()) else none
  failure e := .error (.client e)
  timeout earlier :=
    .error (.wait (.timeout s!"target {target.text} to deregister" limit
      (Rules.latest (fun read => (shownState read).map (·.name)) "" earlier)))

/-- What a wait of a canary makes of the end of its watch. -/
def conclusion {β γ : Type} (settled : β → Except TaskError Unit) (overdue : γ → TaskError) :
    Watched β γ → Except TaskError Unit
  | .settled b => settled b
  | .overdue seen => .error (overdue seen)
  | .cancelled => .error (.wait .cancelled)
  | .failed e => .error (.client e)

theorem judgeHealth_means (arn : TaskArn) (checked : List String) (limit : Duration)
    (earlier : List (List Task)) (tasks : List Task) :
    let remember := Rules.latest
      (fun tasks => (Engine.reported arn tasks).map (unhealthyContainers · checked)) []
    Rules.Means id (remember (earlier ++ [tasks])) (judgeHealth arn checked tasks)
      ((gateRules arn checked limit).decides earlier tasks) := by
  intro remember
  cases hreported : Engine.reported arn tasks with
  | none => simp [judgeHealth, judgeRunning, gateRules, Rules.Means, hreported]
  | some task =>
      have hrecall : remember (earlier ++ [tasks]) = unhealthyContainers task checked :=
        Rules.latest_append_some _ _ _ (by simp [hreported])
      rw [hrecall]
      by_cases hrunning : task.lastStatus = .running
      · have hrun : judgeRunning arn (some task) = .ok task := by simp [judgeRunning, hrunning]
        cases hpending : unhealthyContainers task checked with
        | nil =>
            have hall : ∀ name ∈ checked,
                (task.container name).map (·.healthStatus) = some .healthy := by
              simpa [unhealthyContainers] using hpending
            have hjudge : judgeHealth arn checked tasks = .settled (.ok ()) := by
              simp only [judgeHealth, hreported, hrun, hpending]
            rw [hjudge]
            simp only [gateRules, Rules.Means, hreported, hrunning, if_pos hall]
            rfl
        | cons name rest =>
            have hname : name ∈ unhealthyContainers task checked := by simp [hpending]
            have hnot : ¬ ∀ name ∈ checked,
                (task.container name).map (·.healthStatus) = some .healthy := by
              intro hall
              simp only [unhealthyContainers, List.mem_filter] at hname
              simp [hall name hname.1] at hname
            have hjudge : judgeHealth arn checked tasks = .pending (name :: rest) := by
              simp only [judgeHealth, hreported, hrun, hpending]
            rw [hjudge]
            simp only [gateRules, Rules.Means, hreported, hrunning, if_neg hnot]
            simp
      · simp [judgeHealth, judgeRunning, gateRules, Rules.Means, hreported, hrunning]

/-- A wait of a canary is its watch and what it makes of the end of it. -/
theorem watch_then_run {β γ : Type} (watch : Watch controlPlane β γ) (patience : Nat)
    {f : Watched β γ → Move Unit} {conclude : Watched β γ → Except TaskError Unit}
    (h : ∀ watched, f watched = ExceptT.mk (.done (conclude watched))) :
    (ExceptT.lift (watch.run patience) >>= f : Move Unit).run =
      (watch.run patience).bind fun watched => .done (conclude watched) := by
  rw [ExceptT.run_bind_lift]
  refine congrArg (Process.bind _) (funext fun watched => ?_)
  rw [h]
  rfl

/-- What follows the look-up of a task that was launched goes on with its identifier. -/
theorem run_taskArn_then {S α : Type} (env : Environment controlPlane S) (token : Token)
    (actor : Option Nat) {arn : TaskArn} {s : State} (h : s.handle.taskArn = some arn)
    (f : TaskArn → Move α) (w : World controlPlane S) :
    run env token actor (taskArn >>= f).run s w = run env token actor (f arn).run s w := by
  obtain ⟨⟨launched, placement, phase⟩, registration, warnings⟩ := s
  obtain rfl : launched = some arn := h
  rfl

/-- What the health gate makes of the end of its watch. -/
def gateConclusion (engine : Engine) (arn : TaskArn) :
    Watched (Except TaskError Unit) (List String) → Except TaskError Unit :=
  conclusion id fun pending =>
    .containerHealthTimeout arn (", ".intercalate pending) (engine.limit .taskHealthCheck)

theorem healthWatch_describe (engine : Engine) (arn : TaskArn) (checked : List String) :
    (gateRules arn checked (engine.limit .taskHealthCheck)).Describe
      (healthWatch engine arn checked)
      (Rules.latest
        (fun tasks => (Engine.reported arn tasks).map (unhealthyContainers · checked)) [])
      (gateConclusion engine arn) :=
  ⟨rfl, rfl, rfl, judgeHealth_means arn _ _, fun _ => rfl, fun _ => rfl⟩

/-- A gate that waits for any container is its watch and what it makes of the end of it. -/
theorem run_waitContainerHealth {S : Type} (env : Environment controlPlane S) (token : Token)
    (actor : Option Nat) (engine : Engine) (spec : LaunchSpec) {arn : TaskArn} {s : State}
    (hlaunched : s.handle.taskArn = some arn)
    (hchecked : checkedContainers spec.taskDefinition ≠ []) (w : World controlPlane S) :
    run env token actor (waitContainerHealth engine spec).run s w =
      run env token actor
        (((healthWatch engine arn (checkedContainers spec.taskDefinition)).run
          engine.patience).bind fun watched => .done (gateConclusion engine arn watched)) s w := by
  have hne : (checkedContainers spec.taskDefinition).isEmpty = false := by simpa using hchecked
  rw [waitContainerHealth, run_taskArn_then _ token actor hlaunched]
  simp only [hne]
  refine congrArg (fun p => run _ token actor p s w) (watch_then_run _ engine.patience ?_)
  intro watched
  cases watched <;> rfl

/-- What a wait has in its tracker after these reads. It has not outlived five `unused` ones in a
row, so its count is four at most. -/
def recalled (reads : List (Option TargetHealth)) : HealthTracker where
  count := .ofNat (min (unusedRun reads) 4)
  last := Rules.latest (fun read => (shownState read).map some) none reads

theorem unusedReads_recalled (reads : List (Option TargetHealth)) :
    (recalled reads).unusedReads = min (unusedRun reads) 4 := by
  simp only [HealthTracker.unusedReads, recalled, UInt32.toNat_ofNat']
  omega

theorem unusedReads_counted_recalled (reads : List (Option TargetHealth)) :
    (recalled reads).counted.unusedReads = min (unusedRun reads) 4 + 1 := by
  rw [HealthTracker.unusedReads_counted, unusedReads_recalled, UInt32.size]
  omega

theorem judgeTarget_means (target : Target) (limit : Duration)
    (earlier : List (Option TargetHealth)) (read : Option TargetHealth) :
    Rules.Means id (recalled (earlier ++ [read])) (judgeTarget target (recalled earlier) read)
      ((healthyRules target limit).decides earlier read) := by
  cases read with
  | none => simp [judgeTarget, HealthTracker.observe, healthyRules, Rules.Means]
  | some health =>
      have hlast : (recalled (earlier ++ [some health])).last = some health.state :=
        Rules.latest_append_some _ _ _ rfl
      by_cases hunused : health.state = .unused
      · have hrun : unusedRun (earlier ++ [some health]) = unusedRun earlier + 1 := by
          simp [unusedRun, hunused]
        have hcounted := unusedReads_counted_recalled earlier
        by_cases hfew : unusedRun earlier + 1 < 5
        · have hrecall : recalled (earlier ++ [some health]) = (recalled earlier).counted := by
            refine HealthTracker.ext_unusedReads ?_ (hlast.trans (congrArg some hunused))
            rw [unusedReads_recalled, hrun, hcounted]
            omega
          have hfew' : ¬ maxUnusedReads ≤ (recalled earlier).counted.unusedReads := by
            rw [hcounted, maxUnusedReads]
            omega
          rw [hrecall]
          simp [judgeTarget, HealthTracker.observe, healthyRules, Rules.Means, hunused, hfew,
            if_neg hfew']
        · have hmany : maxUnusedReads ≤ (recalled earlier).counted.unusedReads := by
            rw [hcounted, maxUnusedReads]
            omega
          simp [judgeTarget, HealthTracker.observe, healthyRules, Rules.Means, hunused, hfew,
            if_pos hmany]
      · have hrun : unusedRun (earlier ++ [some health]) = 0 := by
          simp [unusedRun, hunused]
        have hrecall : recalled (earlier ++ [some health]) = ⟨0, some health.state⟩ := by
          rw [← hlast]
          simp only [recalled, hrun]
          rfl
        rw [hrecall]
        cases hstate : health.state with
        | unused => exact absurd hstate hunused
        | initial | healthy | unhealthy | unhealthyDraining | draining | unavailable =>
            simp [judgeTarget, HealthTracker.observe, healthyRules, Rules.Means, hstate]

/-- What the wait for a healthy target makes of the end of its watch. -/
def targetConclusion (engine : Engine) (target : Target) :
    Watched (Except TaskError Unit) HealthTracker → Except TaskError Unit :=
  conclusion id fun tracker =>
    .targetHealthTimeout target.group.text target.id target.port tracker.lastText
      (engine.limit .targetHealthCheck)

theorem targetHealthWatch_describe (engine : Engine) (target : Target) :
    (healthyRules target (engine.limit .targetHealthCheck)).Describe
      (targetHealthWatch engine target) recalled (targetConclusion engine target) :=
  ⟨rfl, rfl, rfl, judgeTarget_means target _, fun _ => rfl, fun _ => rfl⟩

theorem waitTargetHealthy_run (engine : Engine) (target : Target) :
    (waitTargetHealthy engine target).run =
      ((targetHealthWatch engine target).run engine.patience).bind fun watched =>
        .done (targetConclusion engine target watched) := by
  refine watch_then_run _ engine.patience ?_
  intro watched
  cases watched <;> rfl

theorem judgeGone_means (target : Target) (limit : Duration)
    (earlier : List (Option TargetHealth)) (read : Option TargetHealth) :
    Rules.Means Except.ok
      (Rules.latest (fun read => (shownState read).map (·.name)) "" (earlier ++ [read]))
      (judgeGone read) ((goneRules target limit).decides earlier read) := by
  cases read with
  | none => simp [judgeGone, goneRules, Rules.Means]
  | some health =>
      have hlast : Rules.latest (fun read => (shownState read).map (·.name)) ""
          (earlier ++ [some health]) = health.state.name :=
        Rules.latest_append_some _ _ _ rfl
      rw [hlast]
      by_cases hunused : health.state = .unused
      · simp [judgeGone, goneRules, Rules.Means, hunused]
      · simp [judgeGone, goneRules, Rules.Means, hunused]

/-- What the watch for the target to be gone concludes. -/
def goneConclusion (target : Target) (limit : Duration) :
    Watched Unit String → Except TaskError Unit :=
  conclusion Except.ok fun last =>
    .wait (.timeout s!"target {target.text} to deregister" limit last)

theorem gone_describe (target : Target) (limit : Duration) :
    (goneRules target limit).Describe (targetGoneWatch target limit)
      (Rules.latest (fun read => (shownState read).map (·.name)) "")
      (goneConclusion target limit) :=
  ⟨rfl, rfl, rfl, judgeGone_means target limit, fun _ => rfl, fun _ => rfl⟩

theorem waitTargetGone_run (engine : Engine) (target : Target) (limit : Duration) :
    (waitTargetGone engine target limit).run =
      ((targetGoneWatch target limit).run engine.patience).bind fun watched =>
        .done (goneConclusion target limit watched) := by
  refine watch_then_run _ engine.patience ?_
  intro watched
  cases watched <;> rfl

end Canary

/-! ## Every wait -/

end GatedRollout
