import GatedRollout.Proofs.Canary.Ledger
import GatedRollout.Proofs.Wait.Await

/-!
# Evidence of a canary

A canary is verified by what it has observed, in an order. `Shows` says that a trace has events
with given properties in their order, and a canary that `Stands` so far has a launched task, an
account and a list of properties that its trace shows. Each thing that a canary does carries it
from one such list to a longer one; `Evidence` is the list at the end of a verification.
-/

namespace GatedRollout.Canary

/-! ## Observations in order -/

/-- The trace has an event with the first property, after it one with the second, and so on. -/
def Shows : List (Event controlPlane → Prop) → Deeds → Prop
  | [], _ => True
  | P :: rest, x => ∃ before e after, x = before ++ e :: after ∧ P e ∧ Shows rest after

theorem Shows.append {ps : List (Event controlPlane → Prop)} {x : Deeds} (h : Shows ps x)
    (y : Deeds) : Shows ps (x ++ y) := by
  induction ps generalizing x with
  | nil => trivial
  | cons P rest ih =>
      obtain ⟨before, e, after, rfl, hP, hrest⟩ := h
      exact ⟨before, e, after ++ y, by simp, hP, ih hrest⟩

/-- What comes later is shown last. -/
theorem Shows.snoc {ps : List (Event controlPlane → Prop)} {x y : Deeds} (h : Shows ps x)
    {P : Event controlPlane → Prop} {e : Event controlPlane} (he : e ∈ y) (hP : P e) :
    Shows (ps ++ [P]) (x ++ y) := by
  induction ps generalizing x with
  | nil =>
      obtain ⟨before, after, rfl⟩ := List.append_of_mem he
      exact ⟨x ++ before, e, after, by simp, hP, trivial⟩
  | cons Q rest ih =>
      obtain ⟨before, d, after, rfl, hQ, hrest⟩ := h
      exact ⟨before, d, after ++ y, by simp, hQ, ih hrest⟩

theorem Shows.of_append {ps qs : List (Event controlPlane → Prop)} {x : Deeds}
    (h : Shows (ps ++ qs) x) : Shows ps x := by
  induction ps generalizing x with
  | nil => trivial
  | cons P rest ih =>
      obtain ⟨before, e, after, hx, hP, hrest⟩ := h
      exact ⟨before, e, after, hx, hP, ih hrest⟩

theorem Shows.weaken_last {ps : List (Event controlPlane → Prop)} {P Q : Event controlPlane → Prop}
    {x : Deeds} (h : Shows (ps ++ [P]) x) (hPQ : ∀ e, P e → Q e) : Shows (ps ++ [Q]) x := by
  induction ps generalizing x with
  | nil =>
      obtain ⟨before, e, after, hx, hP, -⟩ := h
      exact ⟨before, e, after, hx, hPQ e hP, trivial⟩
  | cons R rest ih =>
      obtain ⟨before, e, after, hx, hR, hrest⟩ := h
      exact ⟨before, e, after, hx, hR, ih hrest⟩

/-! ## Observations of a canary -/

def Launched (arn : TaskArn) (e : Event controlPlane) : Prop := mark? e = some (.launched arn)

/-- A single read shows the task running, and in a state with the property. -/
def SeenRunning (cluster : String) (arn : TaskArn) (P : Task → Prop) (e : Event controlPlane) :
    Prop :=
  ∃ tasks task, e = .returned (.describeTasks cluster [arn]) (.ok tasks) ∧
    Engine.reported arn tasks = some task ∧ task.lastStatus = .running ∧ P task

/-- Every container of the task that declares a health check is healthy. -/
def AllHealthy (d : TaskDefinition) (task : Task) : Prop :=
  ∀ c ∈ d.containers, c.hasHealthCheck = true →
    ∃ state, task.container c.name = some state ∧ state.healthStatus = .healthy

/-- What a canary shows at the health gate of its containers, if any of them has to be healthy. -/
def gate (cluster : String) (d : TaskDefinition) (arn : TaskArn) :
    List (Event controlPlane → Prop) :=
  if d.containers.any (·.hasHealthCheck) then [SeenRunning cluster arn (AllHealthy d)] else []

/-- What a canary shows once its containers are healthy. -/
def started (cluster : String) (d : TaskDefinition) (arn : TaskArn) :
    List (Event controlPlane → Prop) :=
  [Launched arn, SeenRunning cluster arn fun _ => True] ++ gate cluster d arn

/-- A target was accepted in the group, and the latest of its health reads, which is the latest
event of all, is healthy. -/
def TargetVerified (balancer : LoadBalancer) (before : List (Event controlPlane → Prop))
    (x : Deeds) : Prop :=
  ∃ target health, health.state = .healthy ∧
    Shows (before ++
      [fun e => mark? e = some (.entered (.group balancer.targetGroupArn target))]) x ∧
      x.getLast? = some (.returned (.describeTargetHealth balancer.targetGroupArn target)
        (.ok (some health)))

/-- The instance is found among the healthy ones of the service. -/
def Discovered (engine : Engine) (domain service instanceId : String) (e : Event controlPlane) :
    Prop :=
  ∃ found, e = .returned (.discoverInstances domain service .healthy (instanceQuery engine))
    (.ok found) ∧ ∃ i ∈ found, i.instanceId = instanceId

/-- An instance was accepted in the registry, then declared healthy, and then found among the
healthy ones of the registry's service. -/
def InstanceVerified (engine : Engine) (registry : ServiceRegistry) (arn : TaskArn)
    (before : List (Event controlPlane → Prop)) (x : Deeds) : Prop :=
  let serviceId := registry.registryArn.resourceId
  let instanceId := arn.resourceId
  ∃ (service : DiscoveryService) (domain : Namespace), Shows (before ++
    [(· = .returned (.getService serviceId) (.ok service)),
      (· = .returned (.getNamespace service.namespaceId) (.ok domain)),
      fun e => mark? e = some (.entered (.registry serviceId instanceId)),
      (· = .returned (.updateInstanceHealth serviceId instanceId .healthy) (.ok ())),
      Discovered engine domain.name service.name instanceId]) x

/-- The evidence for a task definition that a canary with this strategy gives by its trace. -/
def Evidence (engine : Engine) (d : TaskDefinition) (strategy : Strategy) (x : Deeds) : Prop :=
  ∃ arn,
    match strategy with
    | .standalone =>
        Shows (started engine.cluster d arn ++ [SeenRunning engine.cluster arn fun _ => True]) x
    | .loadBalanced balancer => TargetVerified balancer (started engine.cluster d arn) x
    | .registry registry => InstanceVerified engine registry arn (started engine.cluster d arn) x

/-! ## Standing -/

/-- A canary that was launched, with what it is registered as and what its trace shows so far. -/
structure Stands (strategy : Strategy) (arn : TaskArn) (registration : Option Registration)
    (ps : List (Event controlPlane → Prop)) (s : State) (x : Deeds) : Prop where
  account : Account strategy s x
  taskArn_eq : s.handle.taskArn = some arn
  registration_eq : s.registration = registration
  shows : Shows ps x

/-- What a move leaves: the property where it succeeds, the account in any case. -/
def Then {α : Type} (strategy : Strategy) (R : α → State → Deeds → Prop) :
    Except TaskError α → State → Deeds → Prop
  | .ok a => R a
  | .error _ => Account strategy

section Standing

variable {strategy : Strategy} {arn : TaskArn} {registration : Option Registration}
  {ps : List (Event controlPlane → Prop)} {s : State} {x es : Deeds}

theorem Stands.quiet (h : Stands strategy arn registration ps s x) (hes : marks es = []) :
    Stands strategy arn registration ps s (x ++ es) :=
  ⟨h.account.quiet hes, h.taskArn_eq, h.registration_eq, h.shows.append es⟩

theorem Stands.observe (h : Stands strategy arn registration ps s x) (hes : marks es = [])
    {P : Event controlPlane → Prop} {e : Event controlPlane} (he : e ∈ es) (hP : P e) :
    Stands strategy arn registration (ps ++ [P]) s (x ++ es) :=
  ⟨h.account.quiet hes, h.taskArn_eq, h.registration_eq, h.shows.snoc he hP⟩

theorem Stands.setPhase (h : Stands strategy arn registration ps s x) {phase : Phase}
    (hphase : phase ≠ .stopped) :
    Stands strategy arn registration ps (s.setPhase phase) x :=
  ⟨h.account.setPhase hphase, h.taskArn_eq, h.registration_eq, h.shows⟩

theorem Stands.of_append {qs : List (Event controlPlane → Prop)}
    (h : Stands strategy arn registration (ps ++ qs) s x) :
    Stands strategy arn registration ps s x :=
  ⟨h.account, h.taskArn_eq, h.registration_eq, h.shows.of_append⟩

variable {α β γ : Type} {R : α → State → Deeds → Prop}

/-- A move that first asks for the identifier of its task. -/
theorem Stands.taskArn_then {f : TaskArn → Move α} (h : Stands strategy arn registration ps s x)
    (next : Secures recorded (Account strategy) (Then strategy R) (f arn).run s x) :
    Secures recorded (Account strategy) (Then strategy R) (taskArn >>= f).run s x := by
  refine Secures.attempt (Q := fun result t y => result = .ok arn ∧ t = s ∧ y = x) ?_ ?_ ?_
  · apply Secures.state_then
    rw [h.taskArn_eq]
    exact Secures.attempt_pure ⟨rfl, rfl, rfl⟩
  · rintro _ _ _ ⟨⟨⟩, rfl, rfl⟩
    exact next
  · rintro e _ _ ⟨⟨⟩, _⟩

/-- A request that neither begins nor ends anything. That it was accepted may be shown
afterwards. -/
theorem Stands.ask_then {r : ControlPlane.Request} {fault : ClientError → TaskError}
    {f : controlPlane.Reply r → Move α} (h : Stands strategy arn registration ps s x)
    (hr : ∀ e : Event controlPlane, e.IsAbout r → mark? e = none)
    (next : ∀ reply y, Stands strategy arn registration
      (ps ++ [(· = .returned r (.ok reply))]) s y →
        Secures recorded (Account strategy) (Then strategy R) (f reply).run s y) :
    Secures recorded (Account strategy) (Then strategy R)
      (Attempt.ask (ι := controlPlane) r fault >>= f).run s x := by
  have hissued : marks [.issued r] = [] := marks_of_quiet (hr (.issued r) rfl)
  have hreturned : ∀ answer, marks [.returned r answer] = [] := fun answer =>
    marks_of_quiet (hr (.returned r answer) rfl)
  refine Secures.recorded_ask_then (h.account.quiet hissued) (fun reply => ?_) (fun e => ?_)
  · exact next reply _ ((h.quiet hissued).observe (hreturned _) (List.mem_singleton_self _) rfl)
  · exact (h.account.quiet hissued).quiet (hreturned _)

theorem Stands.read_then {r : ControlPlane.Request} {fault : ClientError → TaskError}
    {f : controlPlane.Reply r → Move α} (h : Stands strategy arn registration ps s x)
    (hr : r.isRead = true)
    (next : ∀ reply y, Stands strategy arn registration
      (ps ++ [(· = .returned r (.ok reply))]) s y →
        Secures recorded (Account strategy) (Then strategy R) (f reply).run s y) :
    Secures recorded (Account strategy) (Then strategy R)
      (Attempt.ask (ι := controlPlane) r fault >>= f).run s x :=
  h.ask_then (fun _ he => mark?_of_about hr he) next

/-- A watch, whose deeds are quiet. -/
theorem Stands.watch_then {watch : Watch controlPlane β γ} {f : Watched β γ → Move α}
    (h : Stands strategy arn registration ps s x) (hr : watch.request.isRead = true)
    (patience : Nat)
    (next : ∀ es result, watch.Observes es result → marks es = [] →
      Secures recorded (Account strategy) (Then strategy R) (f result).run s (x ++ es)) :
    Secures recorded (Account strategy) (Then strategy R)
      ((ExceptT.lift (watch.run patience) : Move (Watched β γ)) >>= f).run s x := by
  refine Secures.run_then (Watch.secures_run (fun es hes =>
    h.account.quiet (marks_of_about hr hes.about)) (fun es result hes => ?_) _)
  exact next es result hes (marks_of_about hr hes.about)

end Standing

end GatedRollout.Canary
