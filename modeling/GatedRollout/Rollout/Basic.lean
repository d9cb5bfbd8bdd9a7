import GatedRollout.Canary.Set
import GatedRollout.Rollout.Error

/-!
# Rollouts

A rollout verifies a task definition with canary tasks and then switches the live service to it.
Once there are canaries, every path ends in their cleanup, which has a token and a time budget of
its own and cannot change what the rollout returns.
-/

namespace GatedRollout

inductive RolloutScope
  /-- The task definition alone; the canaries borrow from the live service. -/
  | taskDefinition
  /-- The configuration of the service as well; the canaries borrow from the pending definition. -/
  | configuration
  deriving DecidableEq, Repr

structure Rollout where
  engine : Engine
  taskDefinition : TaskDefinition
  pending : Option ServiceDefinition := none

namespace Rollout

variable {S σ : Type}

structure Progress where
  /-- Whether the live service has ever been updated. -/
  serviceUpdated : Bool := false
  diagnostics : Diagnostics := {}
  deriving DecidableEq, Repr

abbrev Outcome (S : Type) := Aftermath controlPlane S Progress (Except RolloutError Unit)

variable (rollout : Rollout)

/-! ## Before the canaries -/

/-- The attachments of the live service, which has to exist and to be active or draining. -/
def liveAttachments (service : ServiceName) : Option Service → Except RolloutError Attachments
  | none => .error (.serviceNotFound service)
  | some live => if live.isInactive then .error (.serviceInactive service) else .ok live.attachments

def resolveAttachments : RolloutScope → Activity σ RolloutError Attachments
  | .configuration =>
      match rollout.pending with
      | some definition => return definition.attachments
      | none => throw .missingServiceDefinition
  | .taskDefinition => do
      let service := rollout.engine.service
      let live ← Attempt.ask (ι := controlPlane)
        (.describeService rollout.engine.cluster service) (RolloutError.describeService service)
      liveAttachments service live

/-- Resolve the attachments, with diagnostics that start anew. -/
def resolve (env : Environment controlPlane S) (scope : RolloutScope) (progress : Progress)
    (w : World controlPlane S) :
    Aftermath controlPlane S Progress (Except RolloutError Attachments) :=
  run env .caller none (rollout.resolveAttachments scope).run { progress with diagnostics := {} } w

/-! ## The update -/

def update (scope : RolloutScope) : ControlPlane.ServiceUpdate :=
  let update := (ControlPlane.ServiceUpdate.unchanged rollout.engine.cluster
    rollout.engine.service).withTaskDefinition rollout.taskDefinition.arn
  match scope, rollout.pending with
  | .configuration, some definition => update.withConfiguration definition
  | _, _ => update

/-- Update the service, and wait until it is stable. That it was updated is noted as soon as the
update is accepted. -/
def updateService (scope : RolloutScope) : Activity Progress RolloutError Unit := do
  let service := rollout.engine.service
  Attempt.ask (ι := controlPlane) (.updateService (rollout.update scope))
    (RolloutError.updateService service)
  Attempt.modify fun progress => { progress with serviceUpdated := true }
  let _ ← (rollout.engine.serviceStable service (rollout.engine.limit .serviceStable)).within
    (RolloutError.serviceStable service)

/-! ## The canaries -/

structure Body (S : Type) where
  ending : Ending (Except RolloutError Unit)
  progress : Progress
  canaries : CanarySet controlPlane Canary.State
  world : World controlPlane S

def verifyAndUpdate (env : Environment controlPlane S) (scope : RolloutScope)
    (progress : Progress) (canaries : CanarySet controlPlane Canary.State)
    (w : World controlPlane S) : Body S :=
  let started := canaries.start env .caller w
  match started.ending with
  | .panicked message => ⟨.panicked message, progress, started.state, started.world⟩
  | .hung => ⟨.hung, progress, started.state, started.world⟩
  | .returned (.error e) =>
      ⟨.returned (.error (.startCanary e)), progress, started.state, started.world⟩
  | .returned (.ok _) =>
      let waited := started.state.wait env .caller started.world
      match waited.ending with
      | .panicked message => ⟨.panicked message, progress, waited.state, waited.world⟩
      | .hung => ⟨.hung, progress, waited.state, waited.world⟩
      | .returned (.error e) =>
          ⟨.returned (.error (.verifyCanary e)), progress, waited.state, waited.world⟩
      | .returned (.ok _) =>
          let updated := run env .caller none (rollout.updateService scope).run progress
            waited.world
          ⟨updated.ending, updated.state, waited.state, updated.world⟩

/-- What a cleanup that ended as given adds to the diagnostics, before the canaries' own
warnings. -/
def cleanupWarnings (budget : Duration) : Ending (Except TaskError Unit) → List Warning
  | .returned (.ok _) => []
  | .returned (.error e) => [⟨.taskStop, s!"failed to stop canary task: {e.message}"⟩]
  | .hung =>
      [⟨.cleanupTimeout, s!"canary cleanup did not finish within {budget.seconds}s"⟩]
  | .panicked _ => []

/-- Stop the canaries of a body, with a token and a time budget of their own. -/
def cleanUp (env : Environment controlPlane S) (body : Body S) :
    CanarySet.Outcome controlPlane S Canary.State :=
  body.canaries.cleanupWithin env .shielded rollout.engine.config.canary.cleanupTimeout body.world

/-- Stop the canaries, and then return as the body did. A panic of the cleanup itself goes on to
the caller, with the diagnostics left as they were. -/
def finish (env : Environment controlPlane S) (body : Body S) : Outcome S :=
  let cleaned := rollout.cleanUp env body
  match cleaned.ending with
  | .panicked message => ⟨.panicked message, body.progress, cleaned.world⟩
  | ending =>
      let diagnostics := body.progress.diagnostics.absorb
        (cleanupWarnings rollout.engine.config.canary.cleanupTimeout ending ++
          cleaned.state.warnings)
      ⟨body.ending, { body.progress with diagnostics }, cleaned.world⟩

/-- Verify the task definition with canaries, and switch the service to it. A body that never
returns is never cleaned up after. -/
def rollOut (env : Environment controlPlane S) (scope : RolloutScope) (progress : Progress)
    (w : World controlPlane S) : Outcome S :=
  let resolved := rollout.resolve env scope progress w
  match resolved.ending with
  | .panicked message => ⟨.panicked message, resolved.state, resolved.world⟩
  | .hung => ⟨.hung, resolved.state, resolved.world⟩
  | .returned (.error e) => ⟨.returned (.error e), resolved.state, resolved.world⟩
  | .returned (.ok attachments) =>
      let canaries := Canary.set rollout.engine rollout.taskDefinition attachments
      let body := rollout.verifyAndUpdate env scope resolved.state canaries resolved.world
      match body.ending with
      | .hung => ⟨.hung, body.progress, body.world⟩
      | _ => rollout.finish env body

end Rollout

end GatedRollout
