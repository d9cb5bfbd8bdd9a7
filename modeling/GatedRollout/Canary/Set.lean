import GatedRollout.Canary.Task
import GatedRollout.Process.FanOut

/-!
# Sets of canaries

The canaries of one rollout, as a unit. They are started one after the other up to the first
failure, and waited for and stopped side by side. Waiting and stopping run for every canary
whatever the others do, and fail with the error of the canary that failed first in time.
-/

namespace GatedRollout

variable {ι : Interface} {S σ : Type}

structure CanarySet.Entry (ι : Interface) (σ : Type) where
  task : CanaryTask ι σ
  state : σ

structure CanarySet (ι : Interface) (σ : Type) where
  entries : List (CanarySet.Entry ι σ)
  entries_ne_nil : entries ≠ []

namespace CanarySet

abbrev Outcome (ι : Interface) (S σ : Type) :=
  Aftermath ι S (CanarySet ι σ) (Except TaskError Unit)

def states (set : CanarySet ι σ) : List σ := set.entries.map (·.state)

def handles (set : CanarySet ι σ) : List Canary.Handle :=
  set.entries.map fun e => e.task.handle e.state

def warnings (set : CanarySet ι σ) : List Warning :=
  set.entries.flatMap fun e => e.task.warnings e.state

def withStates (set : CanarySet ι σ) (states : List σ) : CanarySet ι σ where
  entries := set.entries.mapIdx fun i e => { e with state := states.getD i e.state }
  entries_ne_nil := by simp [set.entries_ne_nil]

@[simp] theorem length_withStates (set : CanarySet ι σ) (states : List σ) :
    (set.withStates states).entries.length = set.entries.length := by
  simp [withStates]

/-! ## Starting -/

def startFrom (env : Environment ι S) (token : Token) :
    Nat → List (Entry ι σ) → World ι S → Aftermath ι S (List (Entry ι σ)) (Except TaskError Unit)
  | _, [], w => ⟨.returned (.ok ()), [], w⟩
  | i, e :: rest, w =>
      let begun := run env token (some i) e.task.start.run e.state w
      let e := { e with state := begun.state }
      match begun.ending with
      | .returned (.ok _) =>
          let others := startFrom env token (i + 1) rest begun.world
          ⟨others.ending, e :: others.state, others.world⟩
      | ending => ⟨ending, e :: rest, begun.world⟩

def start (env : Environment ι S) (token : Token) (set : CanarySet ι σ) (w : World ι S) :
    Outcome ι S σ :=
  let begun := startFrom env token 0 set.entries w
  ⟨begun.ending, set.withStates (begun.state.map (·.state)), begun.world⟩

/-! ## Waiting and stopping -/

/-- The error that came first. -/
def firstError (results : List (Nat × Except TaskError Unit)) : Except TaskError Unit :=
  match results.find? fun (_, result) => !result.isOk with
  | some (_, result) => result
  | none => .ok ()

def gather (set : CanarySet ι σ) (g : Gathered ι S σ (Except TaskError Unit)) :
    Outcome ι S σ :=
  let ending := match g.ending with
    | .returned results => .returned (firstError results)
    | .panicked message => .panicked message
    | .hung => .hung
  ⟨ending, set.withStates g.states, g.world⟩

def wait (env : Environment ι S) (token : Token) (set : CanarySet ι σ) (w : World ι S) :
    Outcome ι S σ :=
  set.gather (fanOut env token (set.entries.map fun e => (e.task.wait.run, e.state)) w)

def cleanup (env : Environment ι S) (token : Token) (set : CanarySet ι σ) (w : World ι S) :
    Outcome ι S σ :=
  set.gather (fanOut env token (set.entries.map fun e => (e.task.stop.run, e.state)) w)

/-- Stop every canary within a budget of real time. The ending `hung` says that the budget ran out:
after the rounds that the environment gives it, or when nothing was left that could happen. -/
def cleanupWithin (env : Environment ι S) (token : Token) (budget : Duration)
    (set : CanarySet ι σ) (w : World ι S) : Outcome ι S σ :=
  set.gather (fanOutWithin env token (w.roundsWithin env budget)
    (set.entries.map fun e => (e.task.stop.run, e.state)) w)

/-- Start the canaries, and wait for them if every start succeeded. -/
def exec (env : Environment ι S) (token : Token) (set : CanarySet ι σ) (w : World ι S) :
    Outcome ι S σ :=
  let begun := set.start env token w
  match begun.ending with
  | .returned (.ok _) => begun.state.wait env token begun.world
  | _ => begun

end CanarySet

/-! ## The canaries of a service -/

namespace Canary

/-- One canary for each load balancer; without any, one for each registry; without any, one that
stands alone. -/
def strategies (attachments : Attachments) : List Strategy :=
  match attachments.loadBalancers, attachments.serviceRegistries with
  | [], [] => [.standalone]
  | [], registries => registries.map .registry
  | balancers, _ => balancers.map .loadBalanced

theorem strategies_ne_nil (attachments : Attachments) : strategies attachments ≠ [] := by
  unfold strategies
  split <;> simp_all

def set (engine : Engine) (taskDefinition : TaskDefinition) (attachments : Attachments) :
    CanarySet controlPlane State where
  entries :=
    let spec := LaunchSpec.canary engine taskDefinition attachments
    (strategies attachments).map fun strategy =>
      ⟨task engine spec strategy, State.fresh engine.placement⟩
  entries_ne_nil := by simp [strategies_ne_nil]

end Canary

end GatedRollout
