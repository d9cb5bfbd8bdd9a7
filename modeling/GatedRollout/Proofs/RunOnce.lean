import GatedRollout.Proofs.Canary.Launching
import GatedRollout.Proofs.Canary.Requests
import GatedRollout.Proofs.Wait.Reads
import GatedRollout.RunOnce

/-!
# The exit code of a single task

What a single task comes to is told by its reads: `Concludes` follows them from the launch to the
read that ends the matter. The exit code that is reported is the one of that read.
-/

namespace GatedRollout

namespace RunOnce

open Canary

variable {S : Type} (once : RunOnce) (input : Input) (env : Environment controlPlane S)
  (token : Token) (actor : Option Nat) (w : World controlPlane S)

/-! ## Launching -/

/-- The request that launches the task. -/
def launchRequest (overrides : List ContainerOverride) : ControlPlane.Request :=
  match once.engine.placement with
  | .pinned host =>
      .startTask
        { cluster := once.engine.cluster
          taskDefinition := once.taskDefinition.arn
          group := taskGroup
          containerInstance := host
          networkConfiguration := once.attachments.networkConfiguration
          overrides }
  | .onDemand =>
      .runTask
        { cluster := once.engine.cluster
          taskDefinition := once.taskDefinition.arn
          group := taskGroup
          launchType := once.engine.config.canary.launchType
          networkConfiguration := once.attachments.networkConfiguration
          platformVersion := once.attachments.platformVersion
          overrides }

/-- The call is answered with a launched task, which leaves this world. -/
def Accepts (r : ControlPlane.Request) (arn : TaskArn) (w₁ : World controlPlane S) : Prop :=
  ∃ answer, w.Tells (ι := controlPlane) env actor r answer ∧
    mark? (.returned r answer) = some (.launched arn) ∧
      w₁ = w.told (ι := controlPlane) env actor r answer

/-- What is known of a task that has been launched. -/
def launchedState (arn : TaskArn) : State :=
  ((State.fresh once.engine.placement).setPhase .starting).setTaskArn arn

/-- The command override of a launch, where a command is given. -/
def commandOverrides : List ContainerOverride :=
  (input.command.map fun command => ⟨input.container, command⟩).toList

/-! ## From the launch to the last read -/

/-- The task is launched and waited for up to its last read: nothing cuts short the pause after the
launch, the first read that shows the task running or stopped shows it running, and the first read
after that which lacks it or shows it stopped shows this. -/
inductive Concludes : TaskArn → Option Task → World controlPlane S → Prop
  | intro {arn w₁ w₂ running w₃ last w'}
      (launched : Accepts env actor w (once.launchRequest (commandOverrides input)) arn w₁)
      (rests : w₁.rested env token actor launchGrace = (.elapsed, w₂))
      (starts : once.engine.FirstTaskRead env token actor arn (once.engine.limit .taskRunning)
        Engine.RunsOrStopped w₂ (some running) w₃)
      (runs : running.lastStatus = .running)
      (ends : once.engine.FirstTaskRead env token actor arn (once.engine.limit .taskStopped)
        Engine.GoneOrStopped w₃ last w') : Concludes arn last w'

/-- What is made of the last read. -/
def verdict (arn : TaskArn) (last : Option Task) : Except RunOnceError Int32 :=
  match exitCode input last with
  | some code => .ok code
  | none => .error (.noExitCode arn input.container)

variable {once input env token actor w}

theorem run_launch_ok_iff {overrides : List ContainerOverride} {arn : TaskArn} {t : State}
    {w₁ : World controlPlane S} :
    GatedRollout.run env token actor (launch once.engine once.spec overrides).run
        (State.fresh once.engine.placement) w = ⟨.returned (.ok arn), t, w₁⟩ ↔
      Accepts env actor w (once.launchRequest overrides) arn w₁ ∧ t = once.launchedState arn := by
  show GatedRollout.run env token actor
    (launchOn once.engine once.spec overrides once.engine.placement >>= fun task =>
      Attempt.modify (·.setTaskArn task.arn) >>= fun _ => pure task.arn).run
    ((State.fresh once.engine.placement).setPhase .starting) w = _ ↔ _
  unfold launchRequest Accepts launchedState
  cases once.engine.placement
  all_goals
    refine run_call_returned_iff.trans ⟨?_, ?_⟩
    · rintro ⟨answer, htells, h⟩
      cases answer with
      | error e => cases h
      | ok task =>
          cases h
          exact ⟨⟨.ok task, htells, rfl, rfl⟩, rfl⟩
    · rintro ⟨⟨answer, htells, hmark, rfl⟩, rfl⟩
      refine ⟨answer, htells, ?_⟩
      cases answer with
      | error e => cases hmark
      | ok task =>
          cases hmark
          rfl

theorem run_waitRunning {engine : Engine} {arn : TaskArn} {s : State}
    (hs : s.handle.taskArn = some arn) :
    GatedRollout.run env token actor (waitRunning engine).run s w =
      GatedRollout.run env token actor (Attempt.rest launchGrace (.wait .cancelled) >>= fun _ =>
        (engine.taskRunning arn (engine.limit .taskRunning)).within TaskError.wait >>= fun task =>
          setPhase .running >>= fun _ => pure task).run s w := by
  obtain ⟨⟨_, placement, phase⟩, registration, warnings⟩ := s
  cases hs
  rfl

theorem run_waitRunning_ok_iff {engine : Engine} {arn : TaskArn} {s t : State} {task : Task}
    {w' : World controlPlane S} (hs : s.handle.taskArn = some arn) :
    GatedRollout.run env token actor (waitRunning engine).run s w =
        ⟨.returned (.ok task), t, w'⟩ ↔
      t = s.setPhase .running ∧ task.lastStatus = .running ∧
        ∃ w₁, w.rested env token actor launchGrace = (.elapsed, w₁) ∧
          engine.FirstTaskRead env token actor arn (engine.limit .taskRunning)
            Engine.RunsOrStopped w₁ (some task) w' := by
  have hresult : ∀ e, (.ok task : Except TaskError Task) ≠ .error (.wait e) := nofun
  rw [run_waitRunning hs, run_rest_then_iff]
  simp only [run_within_then_iff hresult, Engine.taskRunning_ok_iff]
  constructor
  · rintro ⟨w₁, hrests, seen, _, _, ⟨rfl, hrunning, hfirst⟩, ⟨⟩⟩
    exact ⟨rfl, hrunning, w₁, hrests, hfirst⟩
  · rintro ⟨rfl, hrunning, w₁, hrests, hfirst⟩
    exact ⟨w₁, hrests, task, s, w', ⟨rfl, hrunning, hfirst⟩, rfl⟩

/-! ## The exit code -/

theorem run_of_known (hcontainer : once.taskDefinition.container input.container ≠ none)
    (s : State) :
    GatedRollout.run env token actor (once.run input).run s w =
      GatedRollout.run env token actor
        ((launch once.engine once.spec (commandOverrides input)).within RunOnceError.launch >>=
          fun arn => (waitRunning once.engine).within RunOnceError.launch >>= fun _ =>
            (once.engine.taskStopped arn (once.engine.limit .taskStopped)).within
              (RunOnceError.waitStopped arn) >>= fun last => liftM (verdict input arn last)).run
        s w := by
  have hsome : ¬(once.taskDefinition.container input.container).isNone = true := by
    simpa using hcontainer
  have hoverrides : overrides input = commandOverrides input := by
    unfold overrides commandOverrides
    cases input.command <;> rfl
  unfold RunOnce.run
  simp only [if_neg hsome, hoverrides]
  refine congrArg (fun move : Activity State RunOnceError Int32 =>
    GatedRollout.run env token actor move.run s w) ?_
  refine bind_congr fun arn => bind_congr fun _ => bind_congr fun last => ?_
  unfold verdict
  cases exitCode input last <;> rfl

/-- Whatever does not come of a failed launch or wait comes of the last read. -/
theorem run_returned_iff {result : Except RunOnceError Int32} {t : State}
    {w' : World controlPlane S} (hcontainer : once.taskDefinition.container input.container ≠ none)
    (hlaunch : ∀ e, result ≠ .error (.launch e))
    (hwait : ∀ arn e, result ≠ .error (.waitStopped arn e)) :
    GatedRollout.run env token actor (once.run input).run (State.fresh once.engine.placement) w =
        ⟨.returned result, t, w'⟩ ↔
      ∃ arn last, Concludes once input env token actor w arn last w' ∧
        t = (once.launchedState arn).setPhase .running ∧ result = verdict input arn last := by
  rw [run_of_known hcontainer]
  simp only [run_within_then_iff hlaunch, run_within_then_iff (hwait _)]
  constructor
  · rintro ⟨arn, _, w₁, hlaunched, running, _, w₃, hrunning, last, _, _, hstopped, ⟨⟩⟩
    obtain ⟨haccepts, rfl⟩ := run_launch_ok_iff.mp hlaunched
    obtain ⟨rfl, hruns, w₂, hrests, hstarts⟩ := (run_waitRunning_ok_iff rfl).mp hrunning
    obtain ⟨rfl, hends⟩ := (Engine.taskStopped_ok_iff _ _ _).mp hstopped
    exact ⟨arn, last, .intro haccepts hrests hstarts hruns hends, rfl, rfl⟩
  · rintro ⟨arn, last, ⟨haccepts, hrests, hstarts, hruns, hends⟩, rfl, rfl⟩
    exact ⟨arn, _, _, run_launch_ok_iff.mpr ⟨haccepts, rfl⟩, _, _, _,
      (run_waitRunning_ok_iff rfl).mpr ⟨rfl, hruns, _, hrests, hstarts⟩, last, _, _,
      (Engine.taskStopped_ok_iff _ _ _).mpr ⟨rfl, hends⟩, rfl⟩

/-! ## Requests -/

/-- Once it is launched, a task is only read. -/
theorem concerns_launched (arn : TaskArn) (w₁ : World controlPlane S) :
    World.Concerns (ι := controlPlane) (· = once.engine.taskRead arn) w₁
      (GatedRollout.run env token actor
        ((waitRunning once.engine).within RunOnceError.launch >>= fun _ =>
          (once.engine.taskStopped arn (once.engine.limit .taskStopped)).within
            (RunOnceError.waitStopped arn) >>= fun last => liftM (verdict input arn last)).run
        (once.launchedState arn) w₁).world := by
  show World.Concerns _ w₁ (GatedRollout.run env token actor
    ((Attempt.rest launchGrace (.wait .cancelled) >>= fun _ =>
        (once.engine.taskRunning arn (once.engine.limit .taskRunning)).within TaskError.wait >>=
          fun task => setPhase .running >>= fun _ => pure task).within RunOnceError.launch >>=
      fun _ => (once.engine.taskStopped arn (once.engine.limit .taskStopped)).within
        (RunOnceError.waitStopped arn) >>= fun last => liftM (verdict input arn last)).run
    (once.launchedState arn) w₁).world
  refine Process.Asks.run env token (.attempt (.within (.attempt (.attempt_rest _ _) fun _ => ?_) _)
    fun _ => .attempt (.within ?_ _) fun last => .known _) actor _ (World.Concerns.refl w₁)
  · refine .attempt (.within ?_ _) fun task => ?_
    · exact once.engine.conforms_await _ (by rfl)
    · exact .attempt (conforms_setPhase (fun _ _ _ => trivial) _) fun _ => .known _
  · exact once.engine.conforms_await _ (by rfl)

theorem requestsIn_launch_then {overrides : List ContainerOverride}
    {ok : ControlPlane.Request → Prop} {f : TaskArn → Activity State RunOnceError Int32}
    (h : ∀ arn w₁, Accepts env actor w (once.launchRequest overrides) arn w₁ →
      World.Concerns (ι := controlPlane) ok w₁
        (GatedRollout.run env token actor (f arn).run (once.launchedState arn) w₁).world) :
    ∃ rest, requestsIn ((GatedRollout.run env token actor
        ((launch once.engine once.spec overrides).within RunOnceError.launch >>= f).run
        (State.fresh once.engine.placement) w).world.since w) =
          once.launchRequest overrides :: rest ∧
      ∀ r ∈ rest, ok r := by
  show ∃ rest, requestsIn ((GatedRollout.run env token actor
      ((launchOn once.engine once.spec overrides once.engine.placement >>= fun task =>
        Attempt.modify (·.setTaskArn task.arn) >>= fun _ => pure task.arn).within
          RunOnceError.launch >>= f).run
      ((State.fresh once.engine.placement).setPhase .starting) w).world.since w) = _ ∧ _
  unfold launchRequest Accepts launchedState at *
  generalize once.engine.placement = placement at h ⊢
  cases placement
  all_goals
    refine requestsIn_run_call (ι := controlPlane) fun answer htells => ?_
    cases answer with
    | error e => exact World.Concerns.refl _
    | ok task => exact h task.arn _ ⟨.ok task, htells, rfl, rfl⟩

theorem launchRequest_ne_stopTask (once : RunOnce) (overrides : List ContainerOverride)
    (cluster : String) (task : TaskArn) (reason : String) :
    once.launchRequest overrides ≠ .stopTask cluster task reason := by
  unfold launchRequest
  cases once.engine.placement <;> nofun

/-- The launch is the only request besides the reads of the task that it launched. -/
theorem requestsIn_run (hcontainer : once.taskDefinition.container input.container ≠ none) :
    let out := GatedRollout.run env token actor (once.run input).run
      (State.fresh once.engine.placement) w
    ∃ reads, requestsIn (out.world.since w) =
        once.launchRequest (commandOverrides input) :: reads ∧
      ∀ r ∈ reads, ∃ arn w₁,
        Accepts env actor w (once.launchRequest (commandOverrides input)) arn w₁ ∧
          r = once.engine.taskRead arn := by
  intro out
  show ∃ reads, requestsIn ((GatedRollout.run env token actor (once.run input).run _ w).world.since
    w) = _ ∧ _
  rw [run_of_known hcontainer]
  refine requestsIn_launch_then fun arn w₁ haccepts => (concerns_launched arn w₁).mono ?_
  exact fun r hr => ⟨arn, w₁, haccepts, hr⟩

/-! ## The last read -/

theorem exitCode_eq_some_iff {last : Option Task} {code : Int32} :
    exitCode input last = some code ↔ ∃ task container, last = some task ∧
      task.container input.container = some container ∧ container.exitCode = some code := by
  simp only [exitCode, Option.bind_eq_some_iff]
  grind

theorem exitCode_eq_none_iff {last : Option Task} :
    exitCode input last = none ↔ ∀ task container, last = some task →
      task.container input.container = some container → container.exitCode = none := by
  cases last with
  | none => simp [exitCode]
  | some task =>
      simp only [exitCode, Option.bind_some, Option.bind_eq_none_iff]
      grind

theorem verdict_ok_iff {arn : TaskArn} {last : Option Task} {code : Int32} :
    .ok code = verdict input arn last ↔ exitCode input last = some code := by
  unfold verdict
  cases exitCode input last with
  | none => simp
  | some found => simp [eq_comm]

theorem verdict_noExitCode_iff {arn arn' : TaskArn} {name : String} {last : Option Task} :
    .error (.noExitCode arn' name) = verdict input arn last ↔
      arn' = arn ∧ name = input.container ∧ exitCode input last = none := by
  unfold verdict
  cases exitCode input last with
  | none => simp
  | some found => simp

theorem Concludes.stopped {arn : TaskArn} {last : Option Task} {w' : World controlPlane S}
    (h : Concludes once input env token actor w arn last w') : Engine.GoneOrStopped last := by
  obtain ⟨-, -, -, -, tasks, rfl, hfirst⟩ := h
  exact hfirst.counts

theorem ending_iff (result : Except RunOnceError Int32)
    (hcontainer : once.taskDefinition.container input.container ≠ none)
    (hlaunch : ∀ e, result ≠ .error (.launch e))
    (hwait : ∀ arn e, result ≠ .error (.waitStopped arn e)) :
    (GatedRollout.run env token actor (once.run input).run
        (State.fresh once.engine.placement) w).ending = .returned result ↔
      ∃ arn last w', Concludes once input env token actor w arn last w' ∧
        result = verdict input arn last := by
  rcases hout : GatedRollout.run env token actor (once.run input).run
    (State.fresh once.engine.placement) w with ⟨ending, t, w'⟩
  constructor
  · rintro rfl
    obtain ⟨arn, last, hconcludes, -, hresult⟩ :=
      (run_returned_iff hcontainer hlaunch hwait).mp hout
    exact ⟨arn, last, w', hconcludes, hresult⟩
  · rintro ⟨arn, last, w₁, hconcludes, hresult⟩
    have hrun := (run_returned_iff hcontainer hlaunch hwait).mpr
      ⟨arn, last, hconcludes, rfl, hresult⟩
    exact congrArg Aftermath.ending (hout.symm.trans hrun)

/-! ### A scheduler that is told what to report -/

/-- A task that was launched, in this state. -/
def snapshot (status : TaskStatus) (code : Option Int32) : Task where
  arn := ⟨"task/prod/1"⟩
  taskDefinitionArn := ⟨"task-definition/api:2"⟩
  lastStatus := status
  desiredStatus := status
  containers := [{ name := "web", exitCode := code }]

/-- A control plane that launches every task and answers its reads from a list. -/
def narrating : Environment controlPlane (List (List Task)) where
  react reads _ r :=
    (⟨.zero, false, 0, .answer
      (match r with
        | .runTask _ => .ok (snapshot .provisioning none)
        | .describeTasks _ _ => .ok (reads.headD [])
        | _ => .error (.rejected "request" "not expected"))⟩,
      match r with
      | .describeTasks _ _ => reads.tail
      | _ => reads)
  wake reads _ := (⟨false, 0⟩, reads)

def sample : RunOnce where
  engine := { config := { cluster := "prod", service := ⟨"api"⟩ }, patience := 0 }
  taskDefinition :=
    { arn := ⟨"task-definition/api:2"⟩
      family := "api"
      containers := [{ name := "web", image := "web:2" }] }
  attachments := {}

/-- A task is launched once, with the command given for its container, and is otherwise only read.
Its exit code is the one that the last read shows of the container, after one that showed the task
running; a last read without the task or the code comes to no exit code. -/
theorem run_reports_last_read (once : RunOnce) (input : Input) (env : Environment controlPlane S)
    (token : Token) (actor : Option Nat) (w : World controlPlane S) :
    let out := GatedRollout.run env token actor (once.run input).run
      (State.fresh once.engine.placement) w
    let requests := requestsIn (out.world.since w)
    (once.taskDefinition.container input.container = none →
        out.ending = .returned
            (.error (.containerNotFound input.container once.taskDefinition.arn.text)) ∧
          requests = []) ∧
      (once.taskDefinition.container input.container ≠ none →
        (∃ reads, requests = once.launchRequest (commandOverrides input) :: reads ∧
          ∀ r ∈ reads, ∃ arn w₁,
            Accepts env actor w (once.launchRequest (commandOverrides input)) arn w₁ ∧
              r = once.engine.taskRead arn) ∧
        (∀ cluster task reason, .stopTask cluster task reason ∉ requests) ∧
        (∀ code, out.ending = .returned (.ok code) ↔
          ∃ arn task container w', Concludes once input env token actor w arn (some task) w' ∧
            task.lastStatus = .stopped ∧ task.container input.container = some container ∧
              container.exitCode = some code) ∧
        ∀ arn name, out.ending = .returned (.error (.noExitCode arn name)) ↔
          name = input.container ∧
            ∃ last w', Concludes once input env token actor w arn last w' ∧
              ∀ task container, last = some task →
                task.container input.container = some container → container.exitCode = none) := by
  intro out requests
  refine ⟨fun hnone => ?_, fun hcontainer => ?_⟩
  · have hout : out = ⟨.returned
        (.error (.containerNotFound input.container once.taskDefinition.arn.text)),
        State.fresh once.engine.placement, w⟩ := by
      show GatedRollout.run env token actor (once.run input).run _ w = _
      unfold RunOnce.run
      simp only [hnone]
      rfl
    refine ⟨congrArg Aftermath.ending hout, ?_⟩
    show requestsIn (out.world.since w) = []
    rw [hout, World.since_self]
    rfl
  · have hrequests : ∃ reads, requests = _ :: reads ∧ _ := requestsIn_run hcontainer
    refine ⟨hrequests, ?_, fun code => ?_, fun arn name => ?_⟩
    · intro cluster task reason hmem
      obtain ⟨reads, hrequests, hreads⟩ := hrequests
      rw [hrequests] at hmem
      rcases List.mem_cons.mp hmem with hlaunch | hread
      · exact launchRequest_ne_stopTask _ _ _ _ _ hlaunch.symm
      · obtain ⟨_, _, -, hread⟩ := hreads _ hread
        cases hread
    · refine (ending_iff (.ok code) hcontainer nofun nofun).trans ⟨?_, ?_⟩
      · rintro ⟨arn, last, w', hconcludes, hcode⟩
        obtain ⟨task, container, rfl, hfound, hcode⟩ :=
          exitCode_eq_some_iff.mp (verdict_ok_iff.mp hcode)
        exact ⟨arn, task, container, w', hconcludes, hconcludes.stopped task rfl, hfound, hcode⟩
      · rintro ⟨arn, task, container, w', hconcludes, -, hfound, hcode⟩
        exact ⟨arn, _, w', hconcludes,
          verdict_ok_iff.mpr (exitCode_eq_some_iff.mpr ⟨task, container, rfl, hfound, hcode⟩)⟩
    · refine (ending_iff (.error (.noExitCode arn name)) hcontainer nofun nofun).trans ⟨?_, ?_⟩
      · rintro ⟨arn', last, w', hconcludes, hresult⟩
        obtain ⟨rfl, hname, hnone⟩ := verdict_noExitCode_iff.mp hresult
        exact ⟨hname, last, w', hconcludes, exitCode_eq_none_iff.mp hnone⟩
      · rintro ⟨hname, last, w', hconcludes, hnone⟩
        exact ⟨arn, last, w', hconcludes,
          verdict_noExitCode_iff.mpr ⟨rfl, hname, exitCode_eq_none_iff.mpr hnone⟩⟩

/-- A task that is gone after it was seen running has no exit code, whatever was seen of it. -/
theorem run_reports_last_read_gone :
    let w : World controlPlane (List (List Task)) :=
      .start default false [[snapshot .running (some 3)]]
    let out := GatedRollout.run narrating .caller none (sample.run ⟨"web", none⟩).run
      (State.fresh .onDemand) w
    out.ending = .returned (.error (.noExitCode ⟨"task/prod/1"⟩ "web")) ∧
      ∃ reads, requestsIn (out.world.since w) = sample.launchRequest [] :: reads := by
  intro w out
  have hcontainer : sample.taskDefinition.container "web" ≠ none := by decide
  obtain ⟨w', hconcludes⟩ : ∃ w', Concludes sample ⟨"web", none⟩ narrating .caller none w
      ⟨"task/prod/1"⟩ none w' := by
    refine ⟨_, .intro ⟨.ok _, rfl, rfl, rfl⟩ rfl ⟨_, rfl, .here rfl ?_⟩ rfl ⟨_, rfl, .here rfl ?_⟩⟩
    · exact ⟨_, rfl, .inl rfl⟩
    · rintro _ ⟨⟩
  obtain ⟨-, hknown⟩ := run_reports_last_read sample ⟨"web", none⟩ narrating .caller none w
  obtain ⟨⟨reads, hrequests, -⟩, -, -, hnone⟩ := hknown hcontainer
  refine ⟨(hnone _ _).mpr ⟨rfl, none, w', hconcludes, ?_⟩, reads, hrequests⟩
  rintro _ _ ⟨⟩

/-! ## A task that has finished -/

/-- The task is launched, nothing cuts short the pause after the launch, and its reads come within
the limits to one that shows it stopped and this exit code of the container. The flag says whether a
read before that shows the task running. -/
inductive Finishes (once : RunOnce) (input : Input) (env : Environment controlPlane S)
    (token : Token) (actor : Option Nat) (w : World controlPlane S) :
    Bool → TaskArn → Task → Int32 → Prop
  | seenRunning {arn task container code w'}
      (concludes : Concludes once input env token actor w arn (some task) w')
      (found : task.container input.container = some container)
      (exited : container.exitCode = some code) :
      Finishes once input env token actor w true arn task code
  | unseen {arn w₁ w₂ task container code w'}
      (launched : Accepts env actor w (once.launchRequest (commandOverrides input)) arn w₁)
      (rests : w₁.rested env token actor launchGrace = (.elapsed, w₂))
      (ends : once.engine.FirstTaskRead env token actor arn (once.engine.limit .taskRunning)
        Engine.RunsOrStopped w₂ (some task) w')
      (stopped : task.lastStatus = .stopped)
      (found : task.container input.container = some container)
      (exited : container.exitCode = some code) :
      Finishes once input env token actor w false arn task code

/-- A task that is first seen when it has stopped fails the wait for it to run. -/
theorem run_waitRunning_of_stopped {engine : Engine} {arn : TaskArn} {s : State} {task : Task}
    {w₁ w₂ w' : World controlPlane S} (hs : s.handle.taskArn = some arn)
    (hrests : w₁.rested env token actor launchGrace = (.elapsed, w₂))
    (hends : engine.FirstTaskRead env token actor arn (engine.limit .taskRunning)
      Engine.RunsOrStopped w₂ (some task) w') (hstopped : task.lastStatus = .stopped) :
    GatedRollout.run env token actor (waitRunning engine).run s w₁ =
      ⟨.returned (.error (.wait (.taskStopped arn task.stoppedReasonOrDefault))), s, w'⟩ := by
  have hrested : GatedRollout.run env token actor
      (Attempt.rest (ι := controlPlane) launchGrace (TaskError.wait .cancelled)).run s w₁ =
        ⟨.returned (.ok ()), s, w₂⟩ := by
    show GatedRollout.run env token actor (.pause launchGrace _) s w₁ = _
    rw [run_pause_rested, hrests]
    rfl
  have hwaited := engine.taskRunning_of_stopped arn _ (s := s) hstopped hends
  rw [run_waitRunning hs]
  refine run_attempt_returned_iff.mpr (.inr ⟨(), s, w₂, hrested, ?_⟩)
  exact run_attempt_returned_iff.mpr
    (.inl ⟨_, rfl, run_within_returned_iff.mpr ⟨_, hwaited, rfl⟩⟩)

theorem run_of_stopped_first {arn : TaskArn} {task : Task} {w₁ w₂ w' : World controlPlane S}
    (hcontainer : once.taskDefinition.container input.container ≠ none)
    (haccepts : Accepts env actor w (once.launchRequest (commandOverrides input)) arn w₁)
    (hrests : w₁.rested env token actor launchGrace = (.elapsed, w₂))
    (hends : once.engine.FirstTaskRead env token actor arn (once.engine.limit .taskRunning)
      Engine.RunsOrStopped w₂ (some task) w') (hstopped : task.lastStatus = .stopped) :
    GatedRollout.run env token actor (once.run input).run (State.fresh once.engine.placement) w =
      ⟨.returned (.error (.launch (.wait (.taskStopped arn task.stoppedReasonOrDefault)))),
        once.launchedState arn, w'⟩ := by
  have hlaunched : GatedRollout.run env token actor
      (launch once.engine once.spec (commandOverrides input)).run _ w = _ :=
    run_launch_ok_iff.mpr ⟨haccepts, rfl⟩
  have hwaiting := run_waitRunning_of_stopped (s := once.launchedState arn) rfl hrests hends
    hstopped
  rw [run_of_known hcontainer]
  refine run_attempt_returned_iff.mpr (.inr ⟨arn, _, w₁, run_within_ok_iff.mpr hlaunched, ?_⟩)
  exact run_attempt_returned_iff.mpr (.inl ⟨_, rfl, run_within_returned_iff.mpr ⟨_, hwaiting, rfl⟩⟩)

/-- The exit code of a task that has finished is reported if and only if a read showed it running
before; a task that was over by the first read that shows it is said not to have started. -/
theorem run_of_finishes (once : RunOnce) (input : Input) (env : Environment controlPlane S)
    (token : Token) (actor : Option Nat) (w : World controlPlane S) {seen : Bool} {arn : TaskArn}
    {task : Task} {code : Int32}
    (hcontainer : once.taskDefinition.container input.container ≠ none)
    (h : Finishes once input env token actor w seen arn task code) :
    (GatedRollout.run env token actor (once.run input).run
        (State.fresh once.engine.placement) w).ending =
      .returned
        (if seen then .ok code
        else .error (.launch (.wait (.taskStopped arn task.stoppedReasonOrDefault)))) := by
  cases h with
  | seenRunning concludes found exited =>
      refine (ending_iff (.ok code) hcontainer nofun nofun).mpr ⟨arn, _, _, concludes, ?_⟩
      exact verdict_ok_iff.mpr (exitCode_eq_some_iff.mpr ⟨task, _, rfl, found, exited⟩)
  | unseen launched rests ends stopped found exited =>
      exact congrArg Aftermath.ending
        (run_of_stopped_first hcontainer launched rests ends stopped)

theorem run_of_finishes_sample :
    let w : World controlPlane (List (List Task)) :=
      .start default false [[snapshot .running none], [snapshot .stopped (some 3)]]
    let out := GatedRollout.run narrating .caller none (sample.run ⟨"web", none⟩).run
      (State.fresh .onDemand) w
    Finishes sample ⟨"web", none⟩ narrating .caller none w true ⟨"task/prod/1"⟩
        (snapshot .stopped (some 3)) 3 ∧
      out.ending = .returned (.ok 3) := by
  intro w out
  have hfinishes : Finishes sample ⟨"web", none⟩ narrating .caller none w true ⟨"task/prod/1"⟩
      (snapshot .stopped (some 3)) 3 := by
    refine .seenRunning (.intro ⟨.ok _, rfl, rfl, rfl⟩ rfl ⟨_, rfl, .here rfl ?_⟩ rfl
      ⟨_, rfl, .here rfl ?_⟩) rfl rfl
    · exact ⟨_, rfl, .inl rfl⟩
    · rintro _ ⟨⟩
      rfl
  exact ⟨hfinishes, run_of_finishes sample ⟨"web", none⟩ narrating .caller none w nofun hfinishes⟩

/-- A task that has run and exited before its first read is not said to have exited. -/
theorem run_overlooks_brief_task :
    let w : World controlPlane (List (List Task)) :=
      .start default false [[snapshot .stopped (some 0)]]
    let out := GatedRollout.run narrating .caller none (sample.run ⟨"web", none⟩).run
      (State.fresh .onDemand) w
    Finishes sample ⟨"web", none⟩ narrating .caller none w false ⟨"task/prod/1"⟩
        (snapshot .stopped (some 0)) 0 ∧
      out.ending = .returned
        (.error (.launch (.wait (.taskStopped ⟨"task/prod/1"⟩ "no reason reported")))) := by
  intro w out
  refine ⟨.unseen ⟨.ok _, rfl, rfl, rfl⟩ rfl ⟨_, rfl, .here rfl ?_⟩ rfl rfl rfl, rfl⟩
  exact ⟨_, rfl, .inr rfl⟩

end RunOnce

end GatedRollout
