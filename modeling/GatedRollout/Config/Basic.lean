import GatedRollout.Model.Service
import GatedRollout.Time.Duration

/-!
# Configuration

The cluster and service that a rollout is for, how its canaries are launched and cleaned up, and
the limits of its waits. A configuration is usable if its cluster and its task group are more
than blanks.

A limit that is unset, which a zero stands for, is that of the default; a default of zero is fifteen
minutes.
-/

namespace GatedRollout

/-! ## Timeouts -/

inductive Phase
  | taskRunning | taskHealthCheck | taskStopped | serviceStable | targetHealthCheck | canaryIdle
  deriving DecidableEq, Repr

namespace Phase

def all : List Phase :=
  [taskRunning, taskHealthCheck, taskStopped, serviceStable, targetHealthCheck, canaryIdle]

def title : Phase → String
  | taskRunning => "task running"
  | taskHealthCheck => "container health check"
  | taskStopped => "task stopped"
  | serviceStable => "service stable"
  | targetHealthCheck => "target health check"
  | canaryIdle => "canary idle"

def key : Phase → String
  | taskRunning => "task_running"
  | taskHealthCheck => "task_health_check"
  | taskStopped => "task_stopped"
  | serviceStable => "service_stable"
  | targetHealthCheck => "target_health_check"
  | canaryIdle => "canary_idle"

end Phase

/-- The limit where neither the wait nor the default has one. -/
def fallbackTimeout : Duration := .ofSeconds 900

structure Timeouts where
  standard : Duration := fallbackTimeout
  taskRunning : Duration := .zero
  taskHealthCheck : Duration := .zero
  taskStopped : Duration := .zero
  serviceStable : Duration := .zero
  targetHealthCheck : Duration := .zero
  canaryIdle : Duration := .zero
  deriving DecidableEq

namespace Timeouts

def uniform (standard : Duration) : Timeouts := { standard }

/-- The limit set for a wait, zero where none is. -/
def configured (t : Timeouts) : Phase → Duration
  | .taskRunning => t.taskRunning
  | .taskHealthCheck => t.taskHealthCheck
  | .taskStopped => t.taskStopped
  | .serviceStable => t.serviceStable
  | .targetHealthCheck => t.targetHealthCheck
  | .canaryIdle => t.canaryIdle

def withPhase (t : Timeouts) (phase : Phase) (d : Duration) : Timeouts :=
  match phase with
  | .taskRunning => { t with taskRunning := d }
  | .taskHealthCheck => { t with taskHealthCheck := d }
  | .taskStopped => { t with taskStopped := d }
  | .serviceStable => { t with serviceStable := d }
  | .targetHealthCheck => { t with targetHealthCheck := d }
  | .canaryIdle => { t with canaryIdle := d }

def defaultTimeout (t : Timeouts) : Duration :=
  if t.standard.isZero then fallbackTimeout else t.standard

def resolve (t : Timeouts) (phase : Phase) : Duration :=
  if (t.configured phase).isZero then t.defaultTimeout else t.configured phase

theorem configured_withPhase (t : Timeouts) (phase other : Phase) (d : Duration) :
    (t.withPhase phase d).configured other =
      if other = phase then d else t.configured other := by
  cases phase <;> cases other <;> rfl

theorem defaultTimeout_withPhase (t : Timeouts) (phase : Phase) (d : Duration) :
    (t.withPhase phase d).defaultTimeout = t.defaultTimeout := by
  cases phase <;> rfl

end Timeouts

/-! ## Blank texts -/

namespace Text

/-- The ranges of the property White_Space, first and last code point of each. -/
def blankRanges : List (Nat × Nat) :=
  [(0x9, 0xD), (0x20, 0x20), (0x85, 0x85), (0xA0, 0xA0), (0x1680, 0x1680), (0x2000, 0x200A),
    (0x2028, 0x2029), (0x202F, 0x202F), (0x205F, 0x205F), (0x3000, 0x3000)]

def isBlank (c : Char) : Bool :=
  blankRanges.any fun (first, last) => first ≤ c.toNat && c.toNat ≤ last

/-- A text without a visible character, the empty text included. -/
def allBlank (s : String) : Bool := s.toList.all isBlank

theorem allBlank_eq_false_iff (s : String) :
    allBlank s = false ↔ ∃ c ∈ s.toList, isBlank c = false := by
  simp [allBlank]

end Text

/-! ## Configurations -/

structure CanaryConfig where
  /-- The container instance to pin canaries to; without one they run on demand. -/
  instanceArn : Option ContainerInstanceArn := none
  launchType : Option LaunchType := none
  taskGroup : String := "canary-task"
  cleanupTimeout : Duration := .ofSeconds 600
  deriving DecidableEq

structure Config where
  cluster : String
  service : ServiceName
  canary : CanaryConfig := {}
  timeouts : Timeouts := {}
  deriving DecidableEq

inductive ConfigError
  /-- No configuration file stands in the directory. -/
  | notFound (directory : String)
  | clusterBlank
  | taskGroupBlank
  | unreadable
  | malformed
  deriving DecidableEq, Repr

namespace ConfigError

def message : ConfigError → String
  | notFound directory => s!"configuration file not found in {directory}"
  | clusterBlank => "invalid configuration: cluster cannot be empty"
  | taskGroupBlank => "invalid configuration: canary.task_group cannot be empty"
  | unreadable => "configuration file cannot be read"
  | malformed => "configuration file is malformed"

end ConfigError

namespace Config

def validate (c : Config) : Except ConfigError Config :=
  if Text.allBlank c.cluster then .error .clusterBlank
  else if Text.allBlank c.canary.taskGroup then .error .taskGroupBlank
  else .ok c

end Config

end GatedRollout
