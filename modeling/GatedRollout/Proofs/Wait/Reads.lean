import GatedRollout.Proofs.Process.Ends
import GatedRollout.Proofs.Wait.Schedule

/-!
# The read that ends the wait for a task

Of the reads of a task, the first that shows it running or stopped ends the wait until it runs, and
the first that lacks it or shows it stopped ends the wait until it has stopped.
-/

namespace GatedRollout.Engine

variable {S σ : Type} {env : Environment controlPlane S} {token : Token} {actor : Option Nat}
  {s t : σ} {w w' : World controlPlane S}

/-- So many reads are made of a task at most within a limit. -/
def taskReads (engine : Engine) (limit : Duration) : Nat :=
  limit.nanos ⌈/⌉ taskPollInterval.nanos + 1 + engine.patience

/-- From a world on, the task is read until a read is of this kind. -/
abbrev FirstTaskRead (engine : Engine) (env : Environment controlPlane S) (token : Token)
    (actor : Option Nat) (arn : TaskArn) (limit : Duration) (counts : Option Task → Prop)
    (w : World controlPlane S) (seen : Option Task) (w' : World controlPlane S) : Prop :=
  ∃ tasks, reported arn tasks = seen ∧
    FirstRead (ι := controlPlane) env token actor (engine.taskRead arn) taskPollInterval
      ⟨w.clock, limit⟩ (fun tasks => counts (reported arn tasks)) (engine.taskReads limit) w tasks
      w'

/-- The task is seen, and runs or has stopped. -/
def RunsOrStopped (seen : Option Task) : Prop :=
  ∃ task, seen = some task ∧ (task.lastStatus = .running ∨ task.lastStatus = .stopped)

/-- The task is not seen, or has stopped. -/
def GoneOrStopped (seen : Option Task) : Prop :=
  ∀ task, seen = some task → task.lastStatus = .stopped

variable (engine : Engine) (arn : TaskArn) (limit : Duration)

/-! ## Running -/

theorem taskRunning_returned_iff {result : Except WaitError Task} :
    run env token actor (engine.taskRunning arn limit).run s w = ⟨.returned result, t, w'⟩ ↔
      t = s ∧ (runningRules arn limit).Ends (ι := controlPlane) (r := engine.taskRead arn) env token
        actor (.error .cancelled) ⟨w.clock, limit⟩ (engine.taskReads limit) [] w result w' :=
  (engine.running_describe arn limit).run_returned_iff (engine.taskRunning_run arn limit)

theorem decides_running_iff {earlier : List (List Task)} {tasks : List Task} {task : Task} :
    (runningRules arn limit).decides earlier tasks = some (.ok task) ↔
      reported arn tasks = some task ∧ task.lastStatus = .running := by
  cases hreported : reported arn tasks with
  | none => simp [runningRules, hreported]
  | some seen =>
      simp only [runningRules, hreported]
      grind

theorem runsOrStopped_iff {tasks : List Task} :
    RunsOrStopped (reported arn tasks) ↔ (runningRules arn limit).decides [] tasks ≠ none := by
  cases hreported : reported arn tasks with
  | none => simp [runningRules, RunsOrStopped, hreported]
  | some seen =>
      simp only [runningRules, RunsOrStopped, hreported]
      grind

/-- The wait succeeds exactly if the first read that shows the task running or stopped shows it
running. -/
theorem taskRunning_ok_iff {task : Task} :
    run env token actor (engine.taskRunning arn limit).run s w = ⟨.returned (.ok task), t, w'⟩ ↔
      t = s ∧ task.lastStatus = .running ∧
        engine.FirstTaskRead env token actor arn limit RunsOrStopped w (some task) w' := by
  refine (engine.taskRunning_returned_iff arn limit).trans (and_congr_right fun _ => ⟨?_, ?_⟩)
  · intro hends
    obtain ⟨tasks, hfirst, hdecides⟩ := hends.firstRead (fun _ _ => rfl)
      (fun _ => runsOrStopped_iff arn limit) nofun nofun nofun
    obtain ⟨hreported, hrunning⟩ := (decides_running_iff arn limit).mp hdecides
    exact ⟨hrunning, tasks, hreported, hfirst⟩
  · rintro ⟨hrunning, tasks, hreported, hfirst⟩
    exact Rules.ends_of_firstRead (fun _ _ => rfl) (fun _ => runsOrStopped_iff arn limit) hfirst
      ((decides_running_iff arn limit).mpr ⟨hreported, hrunning⟩) []

/-- A task that is seen stopped first fails the wait. -/
theorem taskRunning_of_stopped {task : Task} (hstopped : task.lastStatus = .stopped)
    (h : engine.FirstTaskRead env token actor arn limit RunsOrStopped w (some task) w') :
    run env token actor (engine.taskRunning arn limit).run s w =
      ⟨.returned (.error (.taskStopped arn task.stoppedReasonOrDefault)), s, w'⟩ := by
  obtain ⟨tasks, hreported, hfirst⟩ := h
  have hdecides : (runningRules arn limit).decides [] tasks =
      some (.error (.taskStopped arn task.stoppedReasonOrDefault)) := by
    simp [runningRules, hreported, hstopped]
  refine (engine.taskRunning_returned_iff arn limit).mpr ⟨rfl, ?_⟩
  exact Rules.ends_of_firstRead (fun _ _ => rfl) (fun _ => runsOrStopped_iff arn limit) hfirst
    hdecides []

/-! ## Stopped -/

theorem taskStopped_returned_iff {result : Except WaitError (Option Task)} :
    run env token actor (engine.taskStopped arn limit).run s w = ⟨.returned result, t, w'⟩ ↔
      t = s ∧ (stoppedRules arn limit).Ends (ι := controlPlane) (r := engine.taskRead arn) env token
        actor (.error .cancelled) ⟨w.clock, limit⟩ (engine.taskReads limit) [] w result w' :=
  (engine.stopped_describe arn limit).run_returned_iff (engine.taskStopped_run arn limit)

theorem decides_stopped_iff {earlier : List (List Task)} {tasks : List Task} {seen : Option Task} :
    (stoppedRules arn limit).decides earlier tasks = some (.ok seen) ↔
      reported arn tasks = seen ∧ GoneOrStopped seen := by
  cases hreported : reported arn tasks with
  | none =>
      simp only [stoppedRules, GoneOrStopped, hreported]
      grind
  | some task =>
      simp only [stoppedRules, GoneOrStopped, hreported]
      grind

theorem goneOrStopped_iff {tasks : List Task} :
    GoneOrStopped (reported arn tasks) ↔ (stoppedRules arn limit).decides [] tasks ≠ none := by
  cases hreported : reported arn tasks with
  | none => simp [stoppedRules, GoneOrStopped, hreported]
  | some task =>
      simp only [stoppedRules, GoneOrStopped, hreported]
      grind

/-- The wait succeeds with the first read that lacks the task or shows it stopped. -/
theorem taskStopped_ok_iff {seen : Option Task} :
    run env token actor (engine.taskStopped arn limit).run s w = ⟨.returned (.ok seen), t, w'⟩ ↔
      t = s ∧ engine.FirstTaskRead env token actor arn limit GoneOrStopped w seen w' := by
  refine (engine.taskStopped_returned_iff arn limit).trans (and_congr_right fun _ => ⟨?_, ?_⟩)
  · intro hends
    obtain ⟨tasks, hfirst, hdecides⟩ := hends.firstRead (fun _ _ => rfl)
      (fun _ => goneOrStopped_iff arn limit) nofun nofun nofun
    exact ⟨tasks, ((decides_stopped_iff arn limit).mp hdecides).1, hfirst⟩
  · rintro ⟨tasks, rfl, hfirst⟩
    exact Rules.ends_of_firstRead (fun _ _ => rfl) (fun _ => goneOrStopped_iff arn limit) hfirst
      ((decides_stopped_iff arn limit).mpr ⟨rfl, hfirst.counts⟩) []

end GatedRollout.Engine
