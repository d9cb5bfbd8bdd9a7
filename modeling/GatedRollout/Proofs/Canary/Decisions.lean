import GatedRollout.Proofs.Canary.Launching
import GatedRollout.Proofs.Canary.Tracking
import GatedRollout.Proofs.Process.Outcomes

/-!
# What the health waits of a canary decide

The wait for a target to become healthy and the container health gate, told by their reads alone:
which read is the first that decides anything, what it decides, and what the end of the limit comes
to where none does. The waits run alone, with a token that never fires, and nothing but their own
pauses moves the clock.
-/

namespace GatedRollout.Canary

/-! ## Targets -/

/-- What the read with this number comes to, after those before it, if it decides anything. -/
def targetDecision (target : Target) (reads : Nat → Option TargetHealth) (k : Nat) :
    Option (Except TaskError Unit) :=
  match reads k with
  | none => some (.error (.targetNotRegistered target.group.text target.id target.port))
  | some health =>
      match health.state with
      | .healthy => some (.ok ())
      | .initial => none
      | .unused =>
          if FiveUnused ((List.range (k + 1)).map reads) then
            some (.error
              (.targetUnhealthy target.group.text target.id target.port .unused health.reason))
          else none
      | state =>
          some (.error
            (.targetUnhealthy target.group.text target.id target.port state health.reason))

theorem healthyRules_verdict (target : Target) (limit : Duration)
    {answers : Nat → Except ClientError (Option TargetHealth)} {reads : Nat → Option TargetHealth}
    (h : ∀ k, answers k = .ok (reads k)) (k : Nat) :
    (healthyRules target limit).verdict answers k = targetDecision target reads k := by
  rw [Rules.verdict_ok _ _ (h k), Rules.replies_of_ok h, targetDecision, List.range_succ,
    List.map_append]
  cases hread : reads k with
  | none => rfl
  | some health =>
      cases hstate : health.state with
      | unused =>
          have hshown : shownState (some health) = some .unused := congrArg some hstate
          have hrun := unusedRun_append_unused ((List.range k).map reads) hshown
          simp only [healthyRules, hstate, List.map_singleton, hread, fiveUnused_iff, hrun]
          by_cases hfew : unusedRun ((List.range k).map reads) + 1 < 5
          · simp only [hfew, Nat.not_le.mpr hfew]
            simp
          · simp only [hfew, Nat.not_lt.mp hfew]
            simp
      | _ => simp [healthyRules, hstate]

/-- The end of the limit names the state of the last read. -/
theorem healthyRules_timeout (target : Target) (limit : Duration)
    {answers : Nat → Except ClientError (Option TargetHealth)} {reads : Nat → Option TargetHealth}
    (h : ∀ k, answers k = .ok (reads k)) {k : Nat} {health : TargetHealth}
    (hread : reads k = some health) :
    (healthyRules target limit).timeout (Rules.replies answers (k + 1)) =
      .error (.targetHealthTimeout target.group.text target.id target.port health.state.name
        limit) := by
  have hlatest : Rules.latest (fun read => (shownState read).map some) none
      (Rules.replies answers (k + 1)) = some health.state := by
    rw [Rules.replies_of_ok h, List.range_succ, List.map_append, List.map_singleton, hread]
    exact Rules.latest_append_some _ _ _ rfl
  simp only [healthyRules]
  rw [hlatest]
  rfl

/-- The fifth of five `unused` reads is one of them. -/
theorem FiveUnused.shown {reads : Nat → Option TargetHealth} {k : Nat}
    (h : FiveUnused ((List.range (k + 1)).map reads)) : shownState (reads k) = some .unused := by
  by_contra hother
  rw [fiveUnused_iff, List.range_succ, List.map_append, List.map_singleton,
    unusedRun_append_other _ hother] at h
  omega

/-- A read that decides nothing shows a target that may still come up. -/
theorem targetDecision_eq_none (target : Target) (reads : Nat → Option TargetHealth) (k : Nat) :
    targetDecision target reads k = none ↔
      (shownState (reads k) = some .initial ∨ shownState (reads k) = some .unused) ∧
        ¬ FiveUnused ((List.range (k + 1)).map reads) := by
  have hshown : FiveUnused ((List.range (k + 1)).map reads) →
      shownState (reads k) = some .unused := FiveUnused.shown
  unfold targetDecision
  cases hread : reads k with
  | none => simp [shownState]
  | some health =>
      rw [hread] at hshown
      cases hstate : health.state <;> simp_all [shownState]

theorem exists_read_of_undecided {target : Target} {reads : Nat → Option TargetHealth} {k : Nat}
    (h : targetDecision target reads k = none) : ∃ health, reads k = some health := by
  refine Option.ne_none_iff_exists'.mp fun hread => ?_
  rw [targetDecision, hread] at h
  cases h

theorem targetDecision_eq_ok (target : Target) (reads : Nat → Option TargetHealth) (k : Nat) :
    targetDecision target reads k = some (.ok ()) ↔ shownState (reads k) = some .healthy := by
  unfold targetDecision
  cases hread : reads k with
  | none => simp [shownState]
  | some health => cases hstate : health.state <;> simp [shownState, hstate]

/-- A target fails as unused with the fifth `unused` read in a row. -/
theorem targetDecision_eq_unused (target : Target) (reads : Nat → Option TargetHealth) (k : Nat) :
    (∃ reason, targetDecision target reads k = some (.error
        (.targetUnhealthy target.group.text target.id target.port .unused reason))) ↔
      FiveUnused ((List.range (k + 1)).map reads) := by
  have hshown : FiveUnused ((List.range (k + 1)).map reads) →
      shownState (reads k) = some .unused := FiveUnused.shown
  unfold targetDecision
  cases hread : reads k with
  | none =>
      rw [hread] at hshown
      simpa [shownState] using hshown
  | some health =>
      rw [hread] at hshown
      cases hstate : health.state <;> simp_all [shownState]

/-- The wait for a target to become healthy comes to what its reads decide. -/
theorem waitTargetHealthy_comes (engine : Engine) (target : Target) (stream : Stream controlPlane)
    (token : Token) (actor : Option Nat) (s : State) {w : World controlPlane Nat}
    (henv : w.env = 0) (htoken : w.cancelled token = false)
    (hpunctual : ∀ k,
      (stream k (.describeTargetHealth target.group target.description)).1 = .zero) :
    (healthyRules target (engine.limit .targetHealthCheck)).Comes
      (stream.answers (.describeTargetHealth target.group target.description)) engine.patience w
      (run (.playing stream) token actor (waitTargetHealthy engine target).run s w) :=
  (targetHealthWatch_describe engine target).comes healthPollInterval_pos
    (waitTargetHealthy_run engine target) s stream token actor henv htoken hpunctual

/-- The wait for a target to become healthy reads until the first read that decides anything, if
that is among the reads of its limit, and otherwise up to the end of the limit. It succeeds just
where a `healthy` read comes after `initial` and `unused` ones without five `unused` ones in a row,
and fails as unused just where the last five reads it made were all `unused`. -/
theorem waitTargetHealthy_decides (engine : Engine) (target : Target)
    (reads : Nat → Option TargetHealth) (stream : Stream controlPlane) (token : Token)
    (actor : Option Nat) (s : State) {w : World controlPlane Nat} (henv : w.env = 0)
    (htoken : w.cancelled token = false)
    (hreads : ∀ k, stream k (.describeTargetHealth target.group target.description) =
      (.zero, .ok (reads k))) :
    let limit := engine.limit .targetHealthCheck
    let rules := healthyRules target limit
    let last := rules.lastPoll w.clock engine.patience
    let out := run (.playing stream) token actor (waitTargetHealthy engine target).run s w
    let made := (polls (out.world.since w)).length
    (∀ k ≤ last, ∀ result, (∀ j < k, targetDecision target reads j = none) →
        targetDecision target reads k = some result →
          out.ending = .returned result ∧ made = k + 1) ∧
      ((∀ k ≤ last, targetDecision target reads k = none) →
        made = last + 1 ∧ ∃ health, reads last = some health ∧
          out.ending =
            if rules.Reaches w.clock then
              .returned (.error (.targetHealthTimeout target.group.text target.id target.port
                health.state.name limit))
            else .hung) ∧
      (out.ending = .returned (.ok ()) ↔
        ∃ k ≤ last, shownState (reads k) = some .healthy ∧
          ∀ j < k, (shownState (reads j) = some .initial ∨ shownState (reads j) = some .unused) ∧
            ¬ FiveUnused ((List.range (j + 1)).map reads)) ∧
      ((∃ reason, out.ending = .returned (.error
          (.targetUnhealthy target.group.text target.id target.port .unused reason))) ↔
        FiveUnused ((List.range made).map reads)) := by
  intro limit rules last out made
  have hanswers : ∀ k, stream.answers (ι := controlPlane)
      (.describeTargetHealth target.group target.description) k = .ok (reads k) :=
    fun k => congrArg Prod.snd (hreads k)
  have hcomes : rules.Comes (stream.answers (ι := controlPlane)
      (.describeTargetHealth target.group target.description)) engine.patience w out :=
    waitTargetHealthy_comes engine target stream token actor s henv htoken
      fun k => congrArg Prod.fst (hreads k)
  have hverdict : ∀ k, rules.verdict (stream.answers (ι := controlPlane)
      (.describeTargetHealth target.group target.description)) k =
        targetDecision target reads k :=
    healthyRules_verdict target limit hanswers
  refine ⟨?_, ?_, ?_, ?_⟩
  · intro k hk result hearlier hdecision
    exact hcomes.decided hk (fun j hj => (hverdict j).trans (hearlier j hj))
      ((hverdict k).trans hdecision)
  · intro hnone
    obtain ⟨hmade, hending⟩ := hcomes.undecided fun k hk => (hverdict k).trans (hnone k hk)
    obtain ⟨health, hhealth⟩ := exists_read_of_undecided (hnone last le_rfl)
    exact ⟨hmade, health, hhealth, hending.trans (by
      rw [healthyRules_timeout target _ hanswers hhealth])⟩
  · have hsuccess := hcomes.returned_iff (a := .ok ()) fun _ h => by cases h
    simpa only [hverdict, targetDecision_eq_ok, targetDecision_eq_none] using hsuccess
  · obtain ⟨m, -, hmade, -, hlast, hoverdue⟩ := hcomes.last
    rw [show made = m + 1 from hmade, ← targetDecision_eq_unused target reads m, ← hverdict]
    cases hm : rules.verdict (stream.answers (ι := controlPlane)
        (.describeTargetHealth target.group target.description)) m with
    | some result => simp only [hlast result hm, Ending.returned.injEq, Option.some.injEq]
    | none =>
        -- A wait that nothing decided ends with its limit or not at all: neither blames the target.
        rw [hoverdue hm]
        split <;> simp [rules, healthyRules]

/-- A control plane at which a target is `unused`, but for its fifth read. -/
def wavering : Stream controlPlane := fun k r =>
  (.zero,
    match r with
    | .describeTargetHealth _ _ =>
        .ok (some (if k = 4 then { state := .initial } else { state := .unused }))
    | _ => .error (.rejected "request" "not expected"))

/-- An `initial` read in between starts the count of `unused` ones anew. -/
theorem waitTargetHealthy_decides_wavering :
    let engine : Engine := { config := { cluster := "prod", service := ⟨"api"⟩ } }
    let target : Target := ⟨⟨"targetgroup/api"⟩, "10.0.0.1", 80, "zone-a"⟩
    let canary : State := { handle := { taskArn := some ⟨"task/prod/1"⟩, placement := .onDemand } }
    let w : World controlPlane Nat := .start .epoch false 0
    let out := run (.playing wavering) .caller none (waitTargetHealthy engine target).run canary w
    out.ending =
        .returned (.error (.targetUnhealthy "targetgroup/api" "10.0.0.1" 80 .unused none)) ∧
      (polls (out.world.since w)).length = 10 := by
  intro engine target canary w out
  let reads : Nat → Option TargetHealth := fun k =>
    some (if k = 4 then { state := .initial } else { state := .unused })
  obtain ⟨hdecided, -⟩ := waitTargetHealthy_decides engine target reads wavering .caller none canary
    (w := w) rfl rfl fun _ => rfl
  refine hdecided 9 (by decide) _ (fun j hj => ?_) rfl
  have hundecided : ∀ j < 9,
      (shownState (reads j) = some .initial ∨ shownState (reads j) = some .unused) ∧
        ¬ FiveUnused ((List.range (j + 1)).map reads) := by
    decide
  exact (targetDecision_eq_none target reads j).mpr (hundecided j hj)

/-! ## Containers -/

theorem unhealthyContainers_eq_nil (d : TaskDefinition) (task : Task) :
    unhealthyContainers task (checkedContainers d) = [] ↔ AllHealthy d task := by
  refine ⟨allHealthy_of_unhealthyContainers, fun h => List.filter_eq_nil_iff.mpr ?_⟩
  intro name hname
  obtain ⟨c, hc, rfl⟩ := List.mem_map.mp hname
  obtain ⟨hmem, hcheck⟩ := List.mem_filter.mp hc
  obtain ⟨state, hstate, hhealthy⟩ := h c hmem hcheck
  simp [hstate, hhealthy]

instance (d : TaskDefinition) (task : Task) : Decidable (AllHealthy d task) :=
  decidable_of_iff _ (unhealthyContainers_eq_nil d task)

/-- The containers with a health check that the task is missing or does not show as healthy, in the
order of the definition. -/
def awaitedContainers (d : TaskDefinition) (task : Task) : List String :=
  (d.containers.filter fun c =>
    c.hasHealthCheck && (task.container c.name).map (·.healthStatus) != some .healthy).map (·.name)

theorem unhealthyContainers_checked (d : TaskDefinition) (task : Task) :
    unhealthyContainers task (checkedContainers d) = awaitedContainers d task := by
  rw [unhealthyContainers, checkedContainers, TaskDefinition.healthCheckedContainers,
    List.filter_map, List.filter_filter, awaitedContainers]
  simp only [Function.comp_def, Bool.and_comm]

/-- What a reply comes to, if it decides anything. No reply before it matters, and no other task. -/
def gateDecision (arn : TaskArn) (d : TaskDefinition) (tasks : List Task) :
    Option (Except TaskError Unit) :=
  match Engine.reported arn tasks with
  | none => some (.error (.taskNotFound arn))
  | some task =>
      if task.lastStatus ≠ .running then
        some (.error (.notRunning arn task.lastStatus task.stoppedReasonOrDefault))
      else if AllHealthy d task then some (.ok ())
      else none

theorem gateRules_verdict (arn : TaskArn) (d : TaskDefinition) (limit : Duration)
    {answers : Nat → Except ClientError (List Task)} {replies : Nat → List Task}
    (h : ∀ k, answers k = .ok (replies k)) (k : Nat) :
    (gateRules arn (checkedContainers d) limit).verdict answers k =
      gateDecision arn d (replies k) := by
  have hall : ∀ task : Task,
      (∀ name ∈ checkedContainers d, (task.container name).map (·.healthStatus) = some .healthy) ↔
        AllHealthy d task := by
    intro task
    rw [← unhealthyContainers_eq_nil, unhealthyContainers, List.filter_eq_nil_iff]
    simp
  rw [Rules.verdict_ok _ _ (h k)]
  cases hreported : Engine.reported arn (replies k) with
  | none => simp only [gateRules, gateDecision, hreported]
  | some task => simp only [gateRules, gateDecision, hreported, hall]

/-- The end of the limit names the containers that the last reply leaves to wait for. -/
theorem gateRules_timeout (arn : TaskArn) (d : TaskDefinition) (limit : Duration)
    {answers : Nat → Except ClientError (List Task)} {replies : Nat → List Task}
    (h : ∀ k, answers k = .ok (replies k)) {k : Nat} {task : Task}
    (hreported : Engine.reported arn (replies k) = some task) :
    (gateRules arn (checkedContainers d) limit).timeout (Rules.replies answers (k + 1)) =
      .error (.containerHealthTimeout arn (", ".intercalate (awaitedContainers d task)) limit) := by
  have hlatest : Rules.latest
      (fun tasks => (Engine.reported arn tasks).map (unhealthyContainers · (checkedContainers d)))
      []
      (Rules.replies answers (k + 1)) = awaitedContainers d task := by
    rw [Rules.replies_of_ok h, List.range_succ, List.map_append, List.map_singleton]
    refine Rules.latest_append_some _ _ _ ?_
    rw [hreported, Option.map_some, unhealthyContainers_checked]
  simp only [gateRules]
  rw [hlatest]

theorem gateDecision_eq_ok (arn : TaskArn) (d : TaskDefinition) (tasks : List Task) :
    gateDecision arn d tasks = some (.ok ()) ↔
      ∃ task, Engine.reported arn tasks = some task ∧ task.lastStatus = .running ∧
        AllHealthy d task := by
  unfold gateDecision
  cases hreported : Engine.reported arn tasks with
  | none => simp
  | some task =>
      by_cases hrunning : task.lastStatus = .running
      · simp [hrunning]
      · simp [hrunning]

theorem gateDecision_eq_none (arn : TaskArn) (d : TaskDefinition) (tasks : List Task) :
    gateDecision arn d tasks = none ↔
      ∃ task, Engine.reported arn tasks = some task ∧ task.lastStatus = .running ∧
        ¬ AllHealthy d task := by
  unfold gateDecision
  cases hreported : Engine.reported arn tasks with
  | none => simp
  | some task =>
      by_cases hrunning : task.lastStatus = .running
      · simp [hrunning]
      · simp [hrunning]

/-- Of the entries of a reply, only those of the task itself count. -/
theorem reported_filter (arn : TaskArn) (tasks : List Task) :
    Engine.reported arn (tasks.filter (·.arn == arn)) = Engine.reported arn tasks := by
  simp only [Engine.reported, List.find?_filter, and_self, Bool.decide_eq_true]

theorem gateDecision_congr (arn : TaskArn) (d : TaskDefinition) {tasks tasks' : List Task}
    (h : Engine.reported arn tasks' = Engine.reported arn tasks) :
    gateDecision arn d tasks' = gateDecision arn d tasks := by
  rw [gateDecision, gateDecision, h]

theorem checkedContainers_eq_nil (d : TaskDefinition) :
    checkedContainers d = [] ↔ ∀ c ∈ d.containers, ∀ check ∈ c.healthCheck, check.command = [] := by
  rw [← List.isEmpty_iff, checkedContainers_isEmpty, Bool.not_eq_true', List.any_eq_false]
  refine forall₂_congr fun c _ => ?_
  cases hcheck : c.healthCheck <;> simp [ContainerDefinition.hasHealthCheck, hcheck]

/-- A gate that waits for any container comes to what its replies decide. -/
theorem waitContainerHealth_comes (engine : Engine) (spec : LaunchSpec)
    (stream : Stream controlPlane) (token : Token) (actor : Option Nat) {arn : TaskArn} {s : State}
    {w : World controlPlane Nat} (hlaunched : s.handle.taskArn = some arn)
    (hchecked : checkedContainers spec.taskDefinition ≠ []) (henv : w.env = 0)
    (htoken : w.cancelled token = false)
    (hpunctual : ∀ k, (stream k (engine.taskRead arn)).1 = .zero) :
    (gateRules arn (checkedContainers spec.taskDefinition) (engine.limit .taskHealthCheck)).Comes
      (stream.answers (engine.taskRead arn)) engine.patience w
      (run (.playing stream) token actor (waitContainerHealth engine spec).run s w) := by
  rw [run_waitContainerHealth _ token actor engine spec hlaunched hchecked w]
  exact (healthWatch_describe engine arn (checkedContainers spec.taskDefinition)).comes
    healthPollInterval_pos rfl s stream token actor henv htoken hpunctual

/-- A gate that waits for no container is open. -/
theorem run_waitContainerHealth_unchecked {S : Type} (env : Environment controlPlane S)
    (token : Token) (actor : Option Nat) (engine : Engine) (spec : LaunchSpec) {arn : TaskArn}
    {s : State} (hlaunched : s.handle.taskArn = some arn)
    (hunchecked : checkedContainers spec.taskDefinition = []) (w : World controlPlane S) :
    run env token actor (waitContainerHealth engine spec).run s w =
      ⟨.returned (.ok ()), s, w⟩ := by
  rw [waitContainerHealth, run_taskArn_then _ token actor hlaunched]
  simp only [hunchecked]
  rfl

/-- The gate comes to the same, whatever else its replies show beside the task. -/
theorem waitContainerHealth_agree (engine : Engine) (spec : LaunchSpec)
    {replies replies' : Nat → List Task} {stream stream' : Stream controlPlane} (token : Token)
    (actor : Option Nat) {arn : TaskArn} {s : State} {w : World controlPlane Nat}
    (hlaunched : s.handle.taskArn = some arn) (henv : w.env = 0)
    (htoken : w.cancelled token = false)
    (hreplies : ∀ k, stream k (engine.taskRead arn) = (.zero, .ok (replies k)))
    (hreplies' : ∀ k, stream' k (engine.taskRead arn) = (.zero, .ok (replies' k)))
    (hreported : ∀ k, Engine.reported arn (replies' k) = Engine.reported arn (replies k)) :
    let out := run (.playing stream) token actor (waitContainerHealth engine spec).run s w
    let out' := run (.playing stream') token actor (waitContainerHealth engine spec).run s w
    out'.ending = out.ending ∧
      (polls (out'.world.since w)).length = (polls (out.world.since w)).length := by
  by_cases hchecked : checkedContainers spec.taskDefinition = []
  · have hopen := fun stream => run_waitContainerHealth_unchecked (.playing stream) token actor
      engine spec hlaunched hchecked w
    rw [hopen stream, hopen stream']
    exact ⟨rfl, rfl⟩
  · have hanswers : ∀ k, stream.answers (ι := controlPlane) (engine.taskRead arn) k =
        .ok (replies k) :=
      fun k => congrArg Prod.snd (hreplies k)
    have hanswers' : ∀ k, stream'.answers (ι := controlPlane) (engine.taskRead arn) k =
        .ok (replies' k) :=
      fun k => congrArg Prod.snd (hreplies' k)
    have hverdict := gateRules_verdict arn spec.taskDefinition (engine.limit .taskHealthCheck)
      hanswers
    have hverdict' := gateRules_verdict arn spec.taskDefinition (engine.limit .taskHealthCheck)
      hanswers'
    have hcomes := waitContainerHealth_comes engine spec stream token actor hlaunched hchecked
      henv htoken fun k => congrArg Prod.fst (hreplies k)
    have hcomes' := waitContainerHealth_comes engine spec stream' token actor hlaunched hchecked
      henv htoken fun k => congrArg Prod.fst (hreplies' k)
    refine hcomes.agree hcomes' (fun k => ?_) fun hnone => ?_
    · rw [hverdict', hverdict, gateDecision_congr arn _ (hreported k)]
    · have hlast := hnone _ le_rfl
      rw [hverdict] at hlast
      obtain ⟨task, htask, -⟩ := (gateDecision_eq_none arn _ _).mp hlast
      rw [gateRules_timeout arn _ _ hanswers htask,
        gateRules_timeout arn _ _ hanswers' ((hreported _).trans htask)]

/-- The container health gate returns at once where no container declares a command to check it
with. Elsewhere it reads up to the first reply that decides anything, if that is among the reads of
its limit, and otherwise up to the end of the limit. It opens just where one reply shows every
container with a health check healthy at once, after none but replies that show the task running.
The end of the limit names the containers that the last reply leaves to wait for. Entries of other
tasks make no difference. -/
theorem waitContainerHealth_decides (engine : Engine) (spec : LaunchSpec)
    (replies : Nat → List Task) (stream : Stream controlPlane) (token : Token) (actor : Option Nat)
    {arn : TaskArn} {s : State} {w : World controlPlane Nat}
    (hlaunched : s.handle.taskArn = some arn) (henv : w.env = 0)
    (htoken : w.cancelled token = false)
    (hreplies : ∀ k, stream k (engine.taskRead arn) = (.zero, .ok (replies k))) :
    let d := spec.taskDefinition
    let limit := engine.limit .taskHealthCheck
    let rules := gateRules arn (checkedContainers d) limit
    let last := rules.lastPoll w.clock engine.patience
    let out := run (.playing stream) token actor (waitContainerHealth engine spec).run s w
    let made := (polls (out.world.since w)).length
    ((∀ c ∈ d.containers, ∀ check ∈ c.healthCheck, check.command = []) →
        out.ending = .returned (.ok ()) ∧ out.world = w) ∧
      ((∃ c ∈ d.containers, ∃ check ∈ c.healthCheck, check.command ≠ []) →
        (∀ k ≤ last, ∀ result, (∀ j < k, gateDecision arn d (replies j) = none) →
            gateDecision arn d (replies k) = some result →
              out.ending = .returned result ∧ made = k + 1) ∧
          ((∀ k ≤ last, gateDecision arn d (replies k) = none) →
            made = last + 1 ∧ ∃ task, Engine.reported arn (replies last) = some task ∧
              out.ending =
                if rules.Reaches w.clock then
                  .returned (.error (.containerHealthTimeout arn
                    (", ".intercalate (awaitedContainers d task)) limit))
                else .hung) ∧
          (out.ending = .returned (.ok ()) ↔
            ∃ k ≤ last,
              (∃ task, Engine.reported arn (replies k) = some task ∧
                task.lastStatus = .running ∧ AllHealthy d task) ∧
              ∀ j < k, ∃ task, Engine.reported arn (replies j) = some task ∧
                task.lastStatus = .running ∧ ¬ AllHealthy d task)) ∧
      ∀ (replies' : Nat → List Task) (stream' : Stream controlPlane),
        (∀ k, stream' k (engine.taskRead arn) = (.zero, .ok (replies' k))) →
        (∀ k, (replies' k).filter (·.arn == arn) = (replies k).filter (·.arn == arn)) →
          let out' := run (.playing stream') token actor (waitContainerHealth engine spec).run s w
          out'.ending = out.ending ∧ (polls (out'.world.since w)).length = made := by
  intro d limit rules last out made
  have hanswers : ∀ k, stream.answers (ι := controlPlane) (engine.taskRead arn) k =
      .ok (replies k) :=
    fun k => congrArg Prod.snd (hreplies k)
  have hverdict : ∀ k, rules.verdict (stream.answers (ι := controlPlane) (engine.taskRead arn)) k =
      gateDecision arn d (replies k) :=
    gateRules_verdict arn d limit hanswers
  refine ⟨?_, ?_, ?_⟩
  · intro hunchecked
    rw [show out = _ from run_waitContainerHealth_unchecked _ token actor engine spec hlaunched
      ((checkedContainers_eq_nil d).mpr hunchecked) w]
    exact ⟨rfl, rfl⟩
  · rintro ⟨c, hc, check, hcheck, hcommand⟩
    have hchecked : checkedContainers d ≠ [] := fun hnil =>
      hcommand ((checkedContainers_eq_nil d).mp hnil c hc check hcheck)
    have hcomes : rules.Comes (stream.answers (ι := controlPlane) (engine.taskRead arn))
        engine.patience w out :=
      waitContainerHealth_comes engine spec stream token actor hlaunched hchecked henv htoken
        fun k => congrArg Prod.fst (hreplies k)
    refine ⟨?_, ?_, ?_⟩
    · intro k hk result hearlier hdecision
      exact hcomes.decided hk (fun j hj => (hverdict j).trans (hearlier j hj))
        ((hverdict k).trans hdecision)
    · intro hnone
      obtain ⟨hmade, hending⟩ := hcomes.undecided fun k hk => (hverdict k).trans (hnone k hk)
      obtain ⟨task, hreported, -⟩ := (gateDecision_eq_none arn d _).mp (hnone last le_rfl)
      exact ⟨hmade, task, hreported, hending.trans (by
        rw [gateRules_timeout arn d _ hanswers hreported])⟩
    · have hsuccess := hcomes.returned_iff (a := .ok ()) fun _ h => by cases h
      simpa only [hverdict, gateDecision_eq_ok, gateDecision_eq_none] using hsuccess
  · intro replies' stream' hreplies' hsame
    exact waitContainerHealth_agree engine spec token actor hlaunched henv htoken hreplies hreplies'
      fun k => by rw [← reported_filter, hsame, reported_filter]

/-- A running task of which one container is healthy and no other is shown, beside another task. -/
def showing (healthy : String) : List Task :=
  [{ arn := ⟨"task/prod/2"⟩, taskDefinitionArn := ⟨"task-definition/api:1"⟩,
     lastStatus := .stopped, desiredStatus := .stopped },
    { arn := ⟨"task/prod/1"⟩, taskDefinitionArn := ⟨"task-definition/api:2"⟩,
      lastStatus := .running, desiredStatus := .running,
      containers := [{ name := healthy, healthStatus := .healthy }] }]

/-- A control plane at which two containers of a task are healthy by turns. -/
def alternating : Stream controlPlane := fun k r =>
  (.zero,
    match r with
    | .describeTasks _ _ => .ok (if k % 2 = 0 then showing "web" else showing "db")
    | _ => .error (.rejected "request" "not expected"))

/-- Two containers that are each healthy at times, but never at the same time, are waited for until
the limit ends. -/
theorem waitContainerHealth_decides_alternating :
    let engine : Engine := { config := { cluster := "prod", service := ⟨"api"⟩ } }
    let spec : LaunchSpec :=
      { taskDefinition :=
          { arn := ⟨"task-definition/api:2"⟩
            family := "api"
            containers :=
              [{ name := "web", image := "web:2", healthCheck := some ⟨["true"]⟩ },
                { name := "log", image := "log:1", healthCheck := some ⟨[]⟩ },
                { name := "db", image := "db:5", healthCheck := some ⟨["true"]⟩ }] }
        networkConfiguration := none
        platformVersion := none
        group := "canary" }
    let canary : State := { handle := { taskArn := some ⟨"task/prod/1"⟩, placement := .onDemand } }
    let w : World controlPlane Nat := .start .epoch false 0
    let out :=
      run (.playing alternating) .caller none (waitContainerHealth engine spec).run canary w
    out.ending = .returned (.error (.containerHealthTimeout ⟨"task/prod/1"⟩ "db"
        (engine.limit .taskHealthCheck))) ∧
      (polls (out.world.since w)).length = 61 := by
  intro engine spec canary w out
  let replies : Nat → List Task := fun k => if k % 2 = 0 then showing "web" else showing "db"
  obtain ⟨-, hchecked, -⟩ := waitContainerHealth_decides engine spec replies alternating .caller
    none (s := canary) (w := w) rfl rfl rfl fun _ => rfl
  obtain ⟨-, hundecided, -⟩ := hchecked (by decide)
  have hnone : ∀ k, gateDecision ⟨"task/prod/1"⟩ spec.taskDefinition (replies k) = none := by
    intro k
    simp only [replies]
    split <;> rfl
  have hlast : (gateRules ⟨"task/prod/1"⟩ (checkedContainers spec.taskDefinition)
      (engine.limit .taskHealthCheck)).lastPoll w.clock engine.patience = 60 := by
    decide +kernel
  obtain ⟨hmade, task, hreported, hending⟩ := hundecided fun k _ => hnone k
  rw [hlast] at hmade hreported
  obtain rfl := Option.some.inj hreported
  exact ⟨hending, hmade⟩

end GatedRollout.Canary
