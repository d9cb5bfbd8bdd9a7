import GatedRollout.Proofs.Canary.Evidence

/-!
# What a running canary shows

The moves that every canary makes before it is verified: its launch, the wait until it runs, the
health gate of its containers, and the look-up of its address. Each keeps the account of the
canary, and a success is shown by the trace.
-/

namespace GatedRollout.Canary

variable {strategy : Strategy} {arn : TaskArn} {registration : Option Registration}
  {ps : List (Event controlPlane → Prop)} {s : State} {x : Deeds} {α : Type}
  {R : α → State → Deeds → Prop}

/-- The phase that a move ends in changes nothing of what it leaves. -/
theorem secures_settle {move : Move α} {phase : Phase}
    (hR : ∀ a t y, R a t y → R a (t.setPhase phase) y)
    (h : Secures recorded (Account strategy) (Then strategy R) move.run s x) :
    Secures recorded (Account strategy) (Then strategy R) (settle move phase).run s x := by
  refine Secures.bind h fun result t y hpost => ?_
  intro now cancelled
  cases result with
  | ok a => exact hR a t y hpost
  | error e => exact Account.setPhase hpost Phase.noConfusion

/-! ## Launching -/

/-- A task that is launched is noted as soon as the call returns. -/
theorem Account.launched {task : Task} {e : Event controlPlane} (h : Account strategy s x)
    (htask : s.handle.taskArn = none) (hregistration : s.registration = none)
    (he : mark? e = some (.launched task.arn)) :
    Stands strategy task.arn none [Launched task.arn] (s.setTaskArn task.arn) (x ++ [e]) := by
  refine ⟨⟨?_, h.not_stopped, h.admits⟩, rfl, hregistration, ⟨x, e, [], rfl, he, trivial⟩⟩
  rw [marks_append, h.marks_eq, marks_of_mark he]
  simp [State.held, State.setTaskArn, htask, hregistration]

theorem secures_launchOn {engine : Engine} {spec : LaunchSpec} {overrides : List ContainerOverride}
    {placement : Placement} {f : Task → Move α} (h : Account strategy s x)
    (htask : s.handle.taskArn = none) (hregistration : s.registration = none)
    (next : ∀ task y, Stands strategy task.arn none [Launched task.arn] (s.setTaskArn task.arn) y →
      Secures recorded (Account strategy) (Then strategy R) (f task).run s y) :
    Secures recorded (Account strategy) (Then strategy R)
      (launchOn engine spec overrides placement >>= f).run s x := by
  cases placement with
  | onDemand =>
      refine Secures.recorded_ask_then (h.quiet rfl) (fun task => ?_) (fun e => ?_)
      · exact next task _ ((h.quiet rfl).launched htask hregistration rfl)
      · exact (h.quiet rfl).quiet rfl
  | pinned host =>
      refine Secures.recorded_ask_then (h.quiet rfl) (fun task => ?_) (fun e => ?_)
      · exact next task _ ((h.quiet rfl).launched htask hregistration rfl)
      · exact (h.quiet rfl).quiet rfl

/-- A start that succeeds has launched the task. -/
theorem secures_start (engine : Engine) (spec : LaunchSpec) (strategy : Strategy)
    (placement : Placement) :
    Secures recorded (Account strategy)
      (Then strategy fun _ s y => ∃ arn, Stands strategy arn none [Launched arn] s y)
      (start engine spec).run (State.fresh placement) [] := by
  have hfresh := account_fresh strategy placement
  refine secures_settle ?_ (Secures.cancelled_then fun cancelled => ?_)
  · intro _ t y hlaunched
    obtain ⟨arn, hstands⟩ := hlaunched
    exact ⟨arn, hstands.setPhase Phase.noConfusion⟩
  cases cancelled with
  | true => exact Secures.attempt_throw hfresh
  | false =>
      refine Secures.attempt (Q := Then strategy fun arn s y =>
        Stands strategy arn none [Launched arn] s y) ?_ ?_ (fun _ _ _ h => h)
      · refine Secures.state_then (Secures.modify_then ?_)
        refine secures_launchOn (hfresh.setPhase Phase.noConfusion) rfl rfl fun task y hstands => ?_
        exact Secures.modify_then (Secures.attempt_pure hstands)
      · exact fun arn s y hstands => Secures.attempt_pure ⟨arn, hstands⟩

/-! ## Running -/

theorem reported_arn {tasks : List Task} {task : Task} (h : Engine.reported arn tasks = some task) :
    task.arn = arn := by
  simpa using List.find?_some h

/-- A wait that succeeds has seen the task running. -/
theorem judgeRunning_ok {seen : String} {tasks : List Task} {task : Task}
    (h : Engine.judgeRunning arn seen tasks = .settled (.ok task)) :
    Engine.reported arn tasks = some task ∧ task.lastStatus = .running := by
  unfold Engine.judgeRunning at h
  cases hreported : Engine.reported arn tasks with
  | none =>
      rw [hreported] at h
      cases h
  | some found =>
      rw [hreported] at h
      cases hstatus : found.lastStatus with
      | running =>
          simp only [hstatus] at h
          cases h
          exact ⟨rfl, hstatus⟩
      | _ => simp [hstatus] at h

theorem Stands.waitRunning (engine : Engine) (h : Stands strategy arn registration ps s x) :
    Secures recorded (Account strategy)
      (Then strategy fun task t y => task.arn = arn ∧ Stands strategy arn registration
        (ps ++ [SeenRunning engine.cluster arn fun _ => True]) t y)
      (Canary.waitRunning engine).run s x := by
  refine h.taskArn_then (Secures.attempt (Q := Then strategy fun _ t y =>
    Stands strategy arn registration ps t y) ?_ ?_ (fun _ _ _ hpost => hpost))
  · refine Secures.attempt_rest h.account fun y hy => ?_
    subst hy
    have hslept := h.quiet (marks_slept launchGrace)
    exact ⟨hslept.account, hslept, hslept.account⟩
  intro _ s x h
  have hread : (engine.taskRead arn).isRead = true := rfl
  refine Secures.attempt (Q := Then strategy fun task t y => task.arn = arn ∧
    Stands strategy arn registration (ps ++ [SeenRunning engine.cluster arn fun _ => True]) t y)
    ?_ ?_ (fun _ _ _ hpost => hpost)
  · refine Secures.attempt_within (Engine.secures_await_recorded _ _ _ (fun es hes =>
      h.account.quiet (marks_of_about hread hes.about)) (fun es result hes => ?_))
    have hquiet := marks_of_about hread hes.about
    cases result with
    | error e => exact h.account.quiet hquiet
    | ok task =>
        rcases hes with ⟨before, seen, tasks, rfl, -, hsettled⟩ | ⟨-, e, ⟨⟩⟩
        obtain ⟨hreported, hrunning⟩ := judgeRunning_ok hsettled
        exact ⟨reported_arn hreported, h.observe hquiet
          (List.mem_append_right _ (List.mem_singleton_self _))
          ⟨tasks, task, rfl, hreported, hrunning, trivial⟩⟩
  · intro task t y hfound
    obtain ⟨harn, hstands⟩ := hfound
    exact Secures.modify_then (Secures.attempt_pure ⟨harn, hstands.setPhase Phase.noConfusion⟩)

/-! ## The health gate -/

theorem judgeRunning_some {seen : Option Task} {task : Task}
    (h : judgeRunning arn seen = .ok task) : seen = some task ∧ task.lastStatus = .running := by
  cases seen with
  | none => cases h
  | some found =>
      unfold judgeRunning at h
      dsimp only at h
      split at h
      · next hrunning =>
          cases h
          exact ⟨rfl, hrunning⟩
      · cases h

theorem allHealthy_of_unhealthyContainers {d : TaskDefinition} {task : Task}
    (h : unhealthyContainers task (checkedContainers d) = []) : AllHealthy d task := by
  intro c hc hcheck
  have hmem : c.name ∈ checkedContainers d :=
    List.mem_map_of_mem (List.mem_filter.mpr ⟨hc, hcheck⟩)
  have hstatus := List.filter_eq_nil_iff.mp h c.name hmem
  simp only [bne_iff_ne, ne_eq, Decidable.not_not, Option.map_eq_some_iff] at hstatus
  exact hstatus

/-- The gate opens at a single read of the running task with every checked container healthy. -/
theorem judgeHealth_ok {d : TaskDefinition} {tasks : List Task}
    (h : judgeHealth arn (checkedContainers d) tasks = .settled (.ok ())) :
    ∃ task, Engine.reported arn tasks = some task ∧ task.lastStatus = .running ∧
      AllHealthy d task := by
  unfold judgeHealth at h
  cases hrunning : judgeRunning arn (Engine.reported arn tasks) with
  | error e =>
      rw [hrunning] at h
      cases h
  | ok task =>
      rw [hrunning] at h
      obtain ⟨hreported, hstatus⟩ := judgeRunning_some hrunning
      refine ⟨task, hreported, hstatus, allHealthy_of_unhealthyContainers ?_⟩
      cases hpending : unhealthyContainers task (checkedContainers d) with
      | nil => rfl
      | cons name rest => simp [hpending] at h

theorem checkedContainers_isEmpty (d : TaskDefinition) :
    (checkedContainers d).isEmpty = !d.containers.any (·.hasHealthCheck) := by
  rw [checkedContainers, TaskDefinition.healthCheckedContainers]
  cases hany : d.containers.any (·.hasHealthCheck) with
  | true =>
      obtain ⟨c, hc, hcheck⟩ := List.any_eq_true.mp hany
      have hmem := List.mem_map_of_mem (f := (·.name)) (List.mem_filter.mpr ⟨hc, hcheck⟩)
      simpa using List.ne_nil_of_mem hmem
  | false =>
      have hnone : d.containers.filter (·.hasHealthCheck) = [] :=
        List.filter_eq_nil_iff.mpr fun c hc => by simpa using List.any_eq_false.mp hany c hc
      rw [hnone]
      rfl

theorem Stands.waitContainerHealth (engine : Engine) (spec : LaunchSpec)
    (h : Stands strategy arn registration ps s x) :
    Secures recorded (Account strategy)
      (Then strategy fun _ t y => Stands strategy arn registration
        (ps ++ gate engine.cluster spec.taskDefinition arn) t y)
      (Canary.waitContainerHealth engine spec).run s x := by
  apply h.taskArn_then
  dsimp only
  rw [checkedContainers_isEmpty]
  cases hany : spec.taskDefinition.containers.any (·.hasHealthCheck) with
  | false =>
      apply Secures.attempt_pure
      rw [gate, hany]
      simpa [Then] using h
  | true =>
      refine h.watch_then rfl _ fun es result hes hquiet => ?_
      cases result with
      | settled result =>
          apply Secures.attempt_lift
          cases result with
          | error e => exact (h.quiet hquiet).account
          | ok u =>
              obtain ⟨before, seen, tasks, rfl, -, hsettled⟩ := hes
              obtain ⟨task, hreported, hrunning, hhealthy⟩ := judgeHealth_ok hsettled
              rw [gate, hany]
              exact h.observe hquiet (List.mem_append_right _ (List.mem_singleton_self _))
                ⟨tasks, task, rfl, hreported, hrunning, hhealthy⟩
      | overdue pending => exact Secures.attempt_throw (h.quiet hquiet).account
      | cancelled => exact Secures.attempt_throw (h.quiet hquiet).account
      | failed e => exact Secures.attempt_throw (h.quiet hquiet).account

/-! ## The address -/

theorem Stands.networkIdentity_then {engine : Engine} {task : Task} {f : NetworkIdentity → Move α}
    (h : Stands strategy arn registration ps s x)
    (next : ∀ identity y, Stands strategy arn registration ps s y →
      Secures recorded (Account strategy) (Then strategy R) (f identity).run s y) :
    Secures recorded (Account strategy) (Then strategy R)
      (networkIdentity engine task >>= f).run s x := by
  refine Secures.attempt (Q := Then strategy fun _ t y => t = s ∧
    Stands strategy arn registration ps s y) ?_ ?_ (fun _ _ _ hpost => hpost)
  · apply Secures.state_then
    cases s.handle.placement with
    | onDemand =>
        refine Secures.lift_then (fun address _ => ?_) (fun _ _ => h.account)
        refine h.read_then rfl fun subnet y hstands => ?_
        exact Secures.attempt_pure ⟨rfl, hstands.of_append⟩
    | pinned host =>
        refine h.read_then rfl fun container y hstands => ?_
        refine hstands.of_append.read_then rfl fun machine y hstands => ?_
        refine hstands.of_append.read_then rfl fun subnet y hstands => ?_
        exact Secures.attempt_pure ⟨rfl, hstands.of_append⟩
  · rintro identity _ y ⟨rfl, hstands⟩
    exact next identity y hstands

end GatedRollout.Canary
