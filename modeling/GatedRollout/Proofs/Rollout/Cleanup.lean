import GatedRollout.Proofs.Canary.Balance
import GatedRollout.Proofs.Rollout.Body

/-!
# The cleanup of a rollout

Whatever the canaries of a rollout began, its cleanup ends: the marks of each actor are settled on
every path, and so those of the whole trace balance. Only a cleanup that panics, or whose budget
runs out, leaves something behind.
-/

namespace GatedRollout.Rollout

open Canary

variable {S : Type} {rollout : Rollout} {scope : RolloutScope} {env : Environment controlPlane S}
  {progress : Progress} {w : World controlPlane S} {attachments : Attachments} {body : Body S}

/-! ## The deeds of a rollout -/

/-- The rollout itself begins and ends nothing, except that it may update the service once. -/
theorem Reaches.own_marks (h : rollout.Reaches scope env progress w attachments body) :
    ∃ y, body.world.deeds none = w.deeds none ++ y ∧
      (marks y = [] ∨ marks y = [.updated (rollout.update scope)]) := by
  obtain ⟨-, -, y, hy, hquiet, -⟩ := resolve_spec rollout scope env progress w
  rcases h.ran.updates with hsame | ⟨before, hready⟩
  · exact ⟨y, hsame.trans hy, .inl hquiet⟩
  · obtain ⟨z, hz, es, rfl, hes⟩ := hready.updates
    have hbefore := World.deeds_none_of_others hready.others
    let issued : Event controlPlane := .issued (.updateService (rollout.update scope))
    refine ⟨y ++ issued :: es, ?_, .inr ?_⟩
    · rw [hz, hbefore, hy, List.append_assoc]
    · rw [marks_append, hquiet, List.nil_append, ← List.singleton_append, marks_append, hes]
      rfl

/-- What the cleanup adds to a rollout. -/
theorem Reaches.cleanUp (h : rollout.Reaches scope env progress w attachments body) :
    Cleaned (Canary.strategies attachments) (fun i => w.deeds (some i)) body.world
      (rollout.cleanUp env body) :=
  h.ran.accounts.cleanup env .shielded _

theorem Reaches.follows (h : rollout.Reaches scope env progress w attachments body) :
    body.world.Follows w :=
  (resolve_spec rollout scope env progress w).1.trans h.ran.follows

/-- The deeds of a rollout after its cleanup. -/
theorem Reaches.deeds_none (h : rollout.Reaches scope env progress w attachments body) :
    (rollout.cleanUp env body).world.deeds none = body.world.deeds none :=
  World.deeds_none_of_others h.cleanUp.others

theorem Reaches.deeds_beyond (h : rollout.Reaches scope env progress w attachments body) {i : Nat}
    (hi : (Canary.strategies attachments).length ≤ i) :
    (rollout.cleanUp env body).world.deeds (some i) = w.deeds (some i) := by
  obtain ⟨-, hothers, -⟩ := resolve_spec rollout scope env progress w
  have hcleaned := World.deeds_some_of_others h.cleanUp.others hi
  exact hcleaned.trans ((h.ran.others i hi).trans (hothers i))

/-- Where the cleanup returns, every actor has settled marks. -/
theorem Reaches.settled (h : rollout.Reaches scope env progress w attachments body)
    {result : Except TaskError Unit}
    (hresult : (rollout.cleanUp env body).ending = .returned result) (actor : Option Nat) :
    Settled (marks (deedsOf actor ((rollout.cleanUp env body).world.since w))) := by
  have hfollows := h.follows.trans h.cleanUp.follows
  cases actor with
  | none =>
      obtain ⟨y, hy, hmarks⟩ := h.own_marks
      rw [hfollows.deedsOf_since (h.deeds_none.trans hy)]
      rcases hmarks with hnone | hupdated
      · rw [hnone]
        exact settled_nil
      · rw [hupdated]
        exact settled_updated _
  | some i =>
      by_cases hi : i < (Canary.strategies attachments).length
      · obtain ⟨s, z, hz, -, hmarks⟩ := h.cleanUp.each i hi
        rw [hfollows.deedsOf_since hz, hmarks result hresult]
        exact settled_released s
      · have hsame := h.deeds_beyond (Nat.le_of_not_lt hi)
        rw [hfollows.deedsOf_since (hsame.trans (List.append_nil _).symm)]
        exact settled_nil

/-- A rollout that returns or panics has stopped every task that it launched and left every place
that its canaries entered, once each and nothing else, if its cleanup returned. -/
theorem rollOut_balances (rollout : Rollout) (scope : RolloutScope)
    (env : Environment controlPlane S) (progress : Progress) (w : World controlPlane S)
    (hending : (rollout.rollOut env scope progress w).ending ≠ .hung)
    (hcleanup : ∀ attachments body, rollout.Reaches scope env progress w attachments body →
      ∃ result, (rollout.cleanUp env body).ending = .returned result) :
    Balanced ((rollout.rollOut env scope progress w).world.since w) := by
  refine balanced_of_settled fun actor => ?_
  cases rollout.finishes_rollOut scope env progress w with
  | early unresolved world_eq =>
      obtain ⟨hfollows, hothers, y, hy, hquiet, -⟩ := resolve_spec rollout scope env progress w
      rw [world_eq]
      cases actor with
      | none =>
          rw [hfollows.deedsOf_since hy, hquiet]
          exact settled_nil
      | some i =>
          rw [hfollows.deedsOf_since ((hothers i).trans (List.append_nil _).symm)]
          exact settled_nil
  | stuck reached hung world_eq => exact absurd hung hending
  | cleaned reached world_eq =>
      obtain ⟨result, hresult⟩ := hcleanup _ _ reached
      rw [world_eq]
      exact reached.settled hresult actor

/-! ## A rollout that is let through -/

/-- A control plane with one task and one service behind a load balancer. -/
structure Bench where
  task : Task
  service : Service
  health : Option TargetHealth

namespace Bench

/-- It accepts what a canary behind a load balancer asks for. -/
def reply (bench : Bench) : (r : ControlPlane.Request) → Except ClientError r.Reply
  | .describeService _ _ => .ok (some bench.service)
  | .updateService _ => .ok ()
  | .runTask _ => .ok bench.task
  | .stopTask _ _ _ => .ok ()
  | .describeTasks _ _ => .ok [bench.task]
  | .deregistrationDelay _ => .ok none
  | .describeTargetHealth _ _ => .ok bench.health
  | .registerTarget _ _ => .ok ()
  | .deregisterTarget _ _ => .ok ()
  | .describeSubnet subnet => .ok ⟨subnet, "zone-a"⟩
  | _ => .error (.rejected "request" "not expected")

def next (bench : Bench) : ControlPlane.Request → Bench
  | .stopTask _ _ _ => { bench with task := { bench.task with lastStatus := .stopped } }
  | .deregisterTarget _ _ => { bench with health := none }
  | _ => bench

def environment : Environment controlPlane Bench where
  react bench _ r := (⟨.zero, false, 0, .answer (bench.reply r)⟩, bench.next r)
  wake bench _ := (⟨false, 0⟩, bench)

def sample : Bench where
  task :=
    { arn := ⟨"task/prod/1"⟩
      taskDefinitionArn := ⟨"task-definition/api:2"⟩
      lastStatus := .running
      desiredStatus := .running
      attachment := some ⟨some "10.0.0.1", some "subnet-a"⟩ }
  service :=
    { serviceName := ⟨"api"⟩
      serviceArn := ⟨"service/prod/api"⟩
      status := .active
      desiredCount := 1
      runningCount := 1
      taskDefinition := ⟨"task-definition/api:1"⟩
      deployments := [⟨"1", "PRIMARY", 1, 1⟩]
      loadBalancers := [⟨⟨"targetgroup/api"⟩, "web", 80⟩] }
  health := some { state := .healthy }

def world : World controlPlane Bench := .start default false sample

end Bench

/-- A rollout of a task definition with one container. -/
def sample : Rollout where
  engine :=
    { config := { cluster := "prod", service := ⟨"api"⟩, timeouts := .uniform (.ofSeconds 1) }
      patience := 0 }
  taskDefinition :=
    { arn := ⟨"task-definition/api:2"⟩
      family := "api"
      containers := [{ name := "web", image := "web:2" }] }

theorem sample_cleanUp_returns {attachments : Attachments} {body : Body Bench}
    (h : sample.Reaches .taskDefinition Bench.environment {} Bench.world attachments body) :
    ∃ result, (sample.cleanUp Bench.environment body).ending = .returned result := by
  obtain ⟨hresolved, rfl⟩ := h
  have hlive : Ending.returned (.ok Bench.sample.service.attachments) =
      (.returned (.ok attachments) : Ending (Except RolloutError Attachments)) := hresolved
  cases hlive
  exact ⟨.ok (), rfl⟩

theorem rollOut_balances_sample :
    let out := sample.rollOut Bench.environment .taskDefinition {} Bench.world
    let place := Place.group ⟨"targetgroup/api"⟩ ⟨"10.0.0.1", 80, some "zone-a"⟩
    marksOf (out.world.since Bench.world) =
        [.launched ⟨"task/prod/1"⟩, .entered place, .updated (sample.update .taskDefinition),
          .left place, .stopped ⟨"task/prod/1"⟩] ∧
      Balanced (out.world.since Bench.world) := by
  intro out place
  have hending : out.ending ≠ .hung := by
    rw [show out.ending = .returned (.ok ()) from rfl]
    exact nofun
  refine ⟨by decide, ?_⟩
  exact rollOut_balances sample .taskDefinition Bench.environment {} Bench.world hending
    fun _ _ => sample_cleanUp_returns

end GatedRollout.Rollout
