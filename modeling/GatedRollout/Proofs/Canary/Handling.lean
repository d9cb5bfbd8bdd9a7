import GatedRollout.Proofs.Canary.Requests
import GatedRollout.Proofs.Rollout.Cleanup

/-!
# Canaries under any use

A canary may be started, waited for and stopped in any order and number. `Handled` is what its state
and its deeds have in common through all of that: the task that it notes is the one launch that was
accepted, and it is registered only with a task and only as its strategy admits. A stop that has
returned leaves nothing that another one would have to do.
-/

namespace GatedRollout

/-! ## Uses -/

/-- What can be done with a canary task. -/
inductive Operation
  | start
  | wait
  | stop
  deriving DecidableEq, Repr

/-- An operation on a canary task, as it is called. -/
structure Use where
  operation : Operation
  token : Token := .caller
  /-- Whether the caller's token has fired by then. -/
  fired : Bool := false

namespace CanaryTask

variable {ι : Interface} {S σ : Type}

def operate (task : CanaryTask ι σ) : Operation → Attempt ι σ TaskError Unit
  | .start => task.start
  | .wait => task.wait
  | .stop => task.stop

/-- Use the task once, by the actor given. -/
def use (task : CanaryTask ι σ) (env : Environment ι S) (actor : Option Nat) (u : Use) (s : σ)
    (w : World ι S) : Aftermath ι S σ (Except TaskError Unit) :=
  run env u.token actor (task.operate u.operation).run s { w with fired := u.fired }

/-- How each of several uses ended, and what they left behind. -/
structure Uses (ι : Interface) (S σ : Type) where
  endings : List (Ending (Except TaskError Unit))
  state : σ
  world : World ι S

/-- Use the task several times, one after the other, however each of them ends. -/
def useAll (task : CanaryTask ι σ) (env : Environment ι S) (actor : Option Nat) :
    List Use → σ → World ι S → Uses ι S σ
  | [], s, w => ⟨[], s, w⟩
  | u :: rest, s, w =>
      let out := task.use env actor u s w
      let later := task.useAll env actor rest out.state out.world
      ⟨out.ending :: later.endings, later.state, later.world⟩

end CanaryTask

namespace Canary

open Process

variable {S : Type} {engine : Engine} {spec : LaunchSpec} {strategy : Strategy} {s : State}
  {x : Deeds}

/-! ## The handle -/

/-- The tasks whose launch was accepted. -/
def launchedIn (trace : Deeds) : List TaskArn := (marks trace).filterMap Mark.launch?

theorem launchedIn_append (x y : Deeds) : launchedIn (x ++ y) = launchedIn x ++ launchedIn y := by
  rw [launchedIn, marks_append, List.filterMap_append]
  rfl

theorem launch?_of_role {e : Event controlPlane} {m : Mark}
    (he : e.Concerns fun r : ControlPlane.Request => r.role ≠ .launches) (hm : mark? e = some m) :
    m.launch? = none := by
  cases m with
  | launched task =>
      cases e with
      | issued r => cases r <;> simp [mark?] at hm
      | returned r answer =>
          cases r <;> cases answer <;>
            simp_all [mark?, Event.Concerns, ControlPlane.Request.role]
      | slept d => cases hm
      | fired => cases hm
  | _ => rfl

/-- Only a launch launches. -/
theorem launchedIn_eq_nil {ok : ControlPlane.Request → Prop} (hok : ∀ r, ok r → r.role ≠ .launches)
    {es : Deeds} (hes : ∀ e ∈ es, e.Concerns (ι := controlPlane) ok) : launchedIn es = [] := by
  refine List.filterMap_eq_nil_iff.mpr fun m hm => ?_
  obtain ⟨e, he, hmark⟩ := List.mem_filterMap.mp hm
  exact launch?_of_role ((hes e he).mono hok) hmark

/-- The task of the handle is this one, and without a task nothing is registered. -/
structure Bound (strategy : Strategy) (arn : Option TaskArn) (s : State) : Prop where
  taskArn_eq : s.handle.taskArn = arn
  backed : s.registration.isSome = true → arn.isSome = true
  admits : ∀ r, s.registration = some r → strategy.admits r = true

/-- The task of the handle is the only one that was launched. -/
def Handled (strategy : Strategy) (s : State) (x : Deeds) : Prop :=
  ∃ arn, Bound strategy arn s ∧ launchedIn x = arn.toList

theorem handled_fresh (strategy : Strategy) (placement : Placement) :
    Handled strategy (State.fresh placement) [] :=
  ⟨none, ⟨rfl, nofun, nofun⟩, rfl⟩

theorem Bound.setPhase {arn : Option TaskArn} (h : Bound strategy arn s) (phase : Phase) :
    Bound strategy arn (s.setPhase phase) :=
  ⟨h.taskArn_eq, h.backed, h.admits⟩

theorem Bound.warn {arn : Option TaskArn} (h : Bound strategy arn s) (warning : Warning) :
    Bound strategy arn (s.warn warning) :=
  ⟨h.taskArn_eq, h.backed, h.admits⟩

theorem Bound.register {arn : TaskArn} (h : Bound strategy (some arn) s) {r : Registration}
    (hr : strategy.admits r = true) :
    Bound strategy (some arn) (s.setRegistration (some r)) := by
  refine ⟨h.taskArn_eq, fun _ => rfl, fun r' hr' => ?_⟩
  cases hr'
  exact hr

theorem Bound.vacate {arn : Option TaskArn} (h : Bound strategy arn s) :
    Bound strategy arn (s.setRegistration none) :=
  ⟨h.taskArn_eq, nofun, nofun⟩

theorem Handled.quiet (h : Handled strategy s x) {es : Deeds} (hes : launchedIn es = []) :
    Handled strategy s (x ++ es) := by
  obtain ⟨arn, hbound, hlaunched⟩ := h
  exact ⟨arn, hbound, by rw [launchedIn_append, hes, List.append_nil, hlaunched]⟩

theorem Handled.setPhase (h : Handled strategy s x) (phase : Phase) :
    Handled strategy (s.setPhase phase) x := by
  obtain ⟨arn, hbound, hlaunched⟩ := h
  exact ⟨arn, hbound.setPhase phase, hlaunched⟩

theorem Handled.setTaskArn (h : Handled strategy s x) (hnone : s.handle.taskArn = none)
    {arn : TaskArn} {e : Event controlPlane} (he : mark? e = some (.launched arn)) :
    Handled strategy (s.setTaskArn arn) (x ++ [e]) := by
  obtain ⟨arn', hbound, hlaunched⟩ := h
  obtain rfl : arn' = none := hbound.taskArn_eq.symm.trans hnone
  refine ⟨some arn, ⟨rfl, fun _ => rfl, hbound.admits⟩, ?_⟩
  rw [launchedIn_append, hlaunched, launchedIn, marks_of_mark he]
  rfl

/-! ## Operations -/

theorem Handled.secures_launchOn (h : Handled strategy s x) (hnone : s.handle.taskArn = none)
    (engine : Engine) (spec : LaunchSpec) (placement : Placement) :
    Secures recorded (Handled strategy) (fun _ => Handled strategy)
      (launchOn engine spec [] placement >>= fun task =>
        Attempt.modify (·.setTaskArn task.arn) >>= fun _ => pure task.arn).run s x := by
  cases placement with
  | onDemand =>
      refine Secures.recorded_ask_then (h.quiet rfl) (fun task => ?_) (fun e => ?_)
      · exact Secures.modify_then (Secures.attempt_pure ((h.quiet rfl).setTaskArn hnone rfl))
      · exact (h.quiet rfl).quiet rfl
  | pinned host =>
      refine Secures.recorded_ask_then (h.quiet rfl) (fun task => ?_) (fun e => ?_)
      · exact Secures.modify_then (Secures.attempt_pure ((h.quiet rfl).setTaskArn hnone rfl))
      · exact (h.quiet rfl).quiet rfl

theorem Handled.secures_settle {move : Move Unit} {phase : Phase}
    (h : Secures recorded (Handled strategy) (fun _ => Handled strategy) move.run s x) :
    Secures recorded (Handled strategy) (fun _ => Handled strategy) (settle move phase).run s x :=
  Secures.bind h fun _ _ _ hpost _ _ => hpost.setPhase _

/-- A task is launched where there is none yet. -/
theorem Handled.secures_start (h : Handled strategy s x) (engine : Engine) (spec : LaunchSpec) :
    Secures recorded (Handled strategy) (fun _ => Handled strategy) (start engine spec).run s
      x := by
  refine secures_settle (Secures.cancelled_then fun cancelled => ?_)
  cases cancelled with
  | true => exact Secures.attempt_throw h
  | false =>
      refine Secures.attempt (Q := fun _ => Handled strategy) ?_
        (fun _ _ _ ht => Secures.attempt_pure ht) (fun _ _ _ ht => ht)
      apply Secures.state_then
      dsimp only
      cases hnone : s.handle.taskArn with
      | some arn => exact Secures.attempt_pure h
      | none =>
          exact Secures.modify_then ((h.setPhase .starting).secures_launchOn hnone engine spec _)

/-- An operation that launches nothing keeps the task, whatever else it writes. -/
theorem Bound.secures {arn : Option TaskArn} {ok : ControlPlane.Request → Prop}
    {p : Process controlPlane State (Except TaskError Unit)} (hlaunched : launchedIn x = arn.toList)
    (hasks : p.Asks ok) (hok : ∀ r, ok r → r.role ≠ .launches)
    (hp : Secures recorded (fun t _ => Bound strategy arn t) (fun _ t _ => Bound strategy arn t) p
      s x) :
    Secures recorded (Handled strategy) (fun _ => Handled strategy) p s x := by
  have hkept : ∀ {t : State} {y : Deeds}, Bound strategy arn t ∧ Adds (ι := controlPlane) ok x y →
      Handled strategy t y := by
    rintro t _ ⟨hbound, es, rfl, hes⟩
    refine ⟨arn, hbound, ?_⟩
    rw [launchedIn_append, launchedIn_eq_nil hok hes, List.append_nil, hlaunched]
  exact (hp.both (hasks.secures (.refl x))).mono (fun _ _ => hkept) fun _ _ _ => hkept

/-- Without a task there is nothing to wait for. -/
theorem secures_verify_unlaunched (engine : Engine) (spec : LaunchSpec) (strategy : Strategy)
    (hnone : s.handle.taskArn = none) :
    Secures recorded (fun _ _ => False) (fun _ t y => t = s ∧ y = x)
      (verify engine spec strategy).run s x := by
  have hrunning : Secures recorded (fun _ _ => False)
      (fun result t y => result = .error .notStarted ∧ t = s ∧ y = x) (waitRunning engine).run s
        x := by
    refine Secures.attempt (Q := fun result t y => result = .error .notStarted ∧ t = s ∧ y = x)
      ?_ (fun _ _ _ ht => ?_) (fun _ _ _ ht => ?_)
    · apply Secures.state_then
      rw [hnone]
      exact Secures.attempt_throw ⟨rfl, rfl, rfl⟩
    · cases ht.1
    · cases ht.1
      exact ⟨rfl, ht.2⟩
  cases strategy with
  | standalone => exact Secures.attempt hrunning (fun _ _ _ ht => nomatch ht.1) fun _ _ _ ht => ht.2
  | loadBalanced balancer =>
      exact Secures.attempt hrunning (fun _ _ _ ht => nomatch ht.1) fun _ _ _ ht => ht.2
  | registry registry =>
      exact Secures.attempt hrunning (fun _ _ _ ht => nomatch ht.1) fun _ _ _ ht => ht.2

theorem Handled.secures_wait (h : Handled strategy s x) (engine : Engine) (spec : LaunchSpec) :
    Secures recorded (Handled strategy) (fun _ => Handled strategy)
      (task engine spec strategy).wait.run s x := by
  obtain ⟨arn, hbound, hlaunched⟩ := h
  cases arn with
  | none =>
      apply secures_settle
      refine (secures_verify_unlaunched engine spec strategy hbound.taskArn_eq).mono
        (fun _ _ hf => hf.elim) fun _ t y ht => ?_
      obtain ⟨rfl, rfl⟩ := ht
      exact ⟨none, hbound, hlaunched⟩
  | some arn =>
      refine Bound.secures hlaunched (asks_wait engine spec strategy) ne_launches_of_waits ?_
      have hmaintains :
          (task engine spec strategy).wait.run.Maintains (Bound strategy (some arn)) :=
        conforms_wait engine spec (fun _ _ => trivial) (fun _ phase ht => Bound.setPhase ht phase)
          strategy fun _ _ hr ht => Bound.register ht hr
      exact hmaintains.secures hbound x

theorem Handled.secures_stop (h : Handled strategy s x) (engine : Engine) (spec : LaunchSpec) :
    Secures recorded (Handled strategy) (fun _ => Handled strategy)
      (task engine spec strategy).stop.run s x := by
  obtain ⟨arn, hbound, hlaunched⟩ := h
  refine Bound.secures hlaunched (asks_stop engine spec strategy) ?_ ?_
  · rintro r (hr | hr) <;> simp [hr]
  · have hmaintains : (task engine spec strategy).stop.run.Maintains (Bound strategy arn) :=
      conforms_stop engine spec (fun _ _ => trivial) (fun _ warning ht => Bound.warn ht warning)
        (fun _ => Bound.vacate) (fun _ phase ht => Bound.setPhase ht phase) (fun _ _ _ _ => trivial)
        strategy
    exact hmaintains.secures hbound x

theorem Handled.secures (h : Handled strategy s x) (engine : Engine) (spec : LaunchSpec)
    (operation : Operation) :
    Secures recorded (Handled strategy) (fun _ => Handled strategy)
      ((task engine spec strategy).operate operation).run s x := by
  cases operation with
  | start => exact h.secures_start engine spec
  | wait => exact h.secures_wait engine spec
  | stop => exact h.secures_stop engine spec

/-! ## Stops -/

theorem secures_stopped (engine : Engine) (spec : LaunchSpec) (strategy : Strategy) :
    Secures recorded (fun _ _ => True)
      (fun result t _ => result = .ok () → t.handle.phase = .stopped)
      (task engine spec strategy).stop.run s x := by
  refine Secures.run_then ((Secures.anything _ s x).weaken fun _ t y _ => ?_)
  apply Secures.state_then
  dsimp only
  split
  · next hstopped => exact Secures.attempt_pure fun _ => hstopped
  · split
    · exact Secures.attempt_modify fun _ => rfl
    · refine Secures.modify_then (Secures.recorded_ask_then trivial (fun _ => ?_) (fun _ => nofun))
      exact Secures.attempt (Q := fun _ _ _ => True) (Secures.anything _ _ _)
        (fun _ _ _ _ => Secures.attempt_modify fun _ => rfl) (fun _ _ _ _ => nofun)

variable {env : Environment controlPlane S} {actor : Option Nat} {w : World controlPlane S}

/-- A stop of a canary that holds nothing is done at once. -/
theorem run_stop_of_none (engine : Engine) (spec : LaunchSpec) (strategy : Strategy)
    (env : Environment controlPlane S) (token : Token) (actor : Option Nat)
    (w : World controlPlane S) (hregistration : s.registration = none)
    (hs : s.handle.phase = .stopped ∨ s.handle.taskArn = none) :
    run env token actor (task engine spec strategy).stop.run s w =
      ⟨.returned (.ok ()), s.setPhase .stopped, w⟩ := by
  obtain ⟨⟨arn, placement, phase⟩, registration, warnings⟩ := s
  obtain rfl : registration = none := hregistration
  rcases hs with hphase | harn
  · obtain rfl : phase = .stopped := hphase
    cases strategy <;> rfl
  · obtain rfl : arn = none := harn
    cases strategy <;> cases phase <;> rfl

theorem use_stop (engine : Engine) (spec : LaunchSpec) (strategy : Strategy)
    (env : Environment controlPlane S) (actor : Option Nat) {u : Use} (hu : u.operation = .stop)
    (s : State) (w : World controlPlane S) :
    (task engine spec strategy).use env actor u s w =
      run env u.token actor (task engine spec strategy).stop.run s { w with fired := u.fired } := by
  rw [CanaryTask.use, hu]
  rfl

/-- A stop without a task is done at once. -/
theorem Bound.use_stop_none (h : Bound strategy none s) (engine : Engine) (spec : LaunchSpec)
    (env : Environment controlPlane S) (actor : Option Nat) {u : Use} (hu : u.operation = .stop)
    (w : World controlPlane S) : (task engine spec strategy).use env actor u s w =
      ⟨.returned (.ok ()), s.setPhase .stopped, { w with fired := u.fired }⟩ := by
  have hregistration : s.registration = none :=
    Option.not_isSome_iff_eq_none.mp fun hsome => Bool.noConfusion (h.backed hsome)
  rw [use_stop engine spec strategy env actor hu]
  exact run_stop_of_none engine spec strategy env u.token actor _ hregistration (.inr h.taskArn_eq)

/-- The registration is taken back before anything is asked. -/
theorem Bound.secures_vacated {arn : Option TaskArn} (h : Bound strategy arn s) (engine : Engine)
    (x : Deeds) :
    Secures recorded (fun t _ => t.registration = none) (fun _ t _ => t.registration = none)
      (deregister engine strategy) s x := by
  have hadmits := h.admits
  cases strategy with
  | standalone =>
      cases hr : s.registration with
      | none => exact Secures.pure hr
      | some r => cases hadmits r hr
  | loadBalanced balancer =>
      apply Secures.state_bind
      cases hr : s.registration with
      | none => exact Secures.pure hr
      | some r =>
          cases r with
          | discovery member => cases hadmits _ hr
          | target target =>
              have hleave : (leaveGroup engine target).Maintains fun t => t.registration = none :=
                conforms_leaveGroup engine (fun _ _ => trivial) (fun _ _ ht => ht)
                  (fun _ _ _ _ => trivial) target
              exact Secures.modify_bind (hleave.secures rfl x)
  | registry registry =>
      apply Secures.state_bind
      cases hr : s.registration with
      | none => exact Secures.pure hr
      | some r =>
          cases r with
          | target target => cases hadmits _ hr
          | discovery member =>
              have hleave : (leaveRegistry member).Maintains fun t => t.registration = none :=
                conforms_leaveRegistry (fun _ _ => trivial) (fun _ _ ht => ht) member
              exact Secures.modify_bind (hleave.secures rfl x)

theorem Bound.secures_stop_vacated {arn : Option TaskArn} (h : Bound strategy arn s)
    (engine : Engine) (spec : LaunchSpec) (x : Deeds) :
    Secures recorded (fun t _ => t.registration = none) (fun _ t _ => t.registration = none)
      (task engine spec strategy).stop.run s x := by
  have hstops : (stopTask engine).run.Maintains fun t => t.registration = none :=
    conforms_stopTask engine (fun _ _ => trivial) fun _ _ ht => ht
  exact Secures.run_then ((h.secures_vacated engine x).weaken fun _ t y ht => hstops.secures ht y)

/-- The registration is gone by the end of any stop, and one that succeeds ends stopped. -/
theorem Bound.use_stop_ok {arn : Option TaskArn} (h : Bound strategy arn s) (engine : Engine)
    (spec : LaunchSpec) (env : Environment controlPlane S) (actor : Option Nat) {u : Use}
    (hu : u.operation = .stop) (w : World controlPlane S) :
    let stopped := (task engine spec strategy).use env actor u s w
    stopped.ending = .returned (.ok ()) →
      stopped.state.registration = none ∧ stopped.state.handle.phase = .stopped := by
  intro stopped hreturned
  have hvacated := h.secures_stop_vacated engine spec []
  obtain ⟨_, -, hsecured⟩ := (hvacated.both (secures_stopped engine spec strategy)).run env
    u.token actor (w := { w with fired := u.fired }) (List.append_nil _).symm
  rw [← use_stop engine spec strategy env actor hu, hreturned] at hsecured
  obtain ⟨hregistration, hphase⟩ := hsecured
  exact ⟨hregistration, hphase rfl⟩

/-- Stops of a canary that has been stopped change nothing. -/
theorem useAll_stopped (engine : Engine) (spec : LaunchSpec) (strategy : Strategy)
    (env : Environment controlPlane S) (actor : Option Nat)
    (hregistration : s.registration = none) (hphase : s.handle.phase = .stopped) (stops : List Use)
    (hstops : ∀ u ∈ stops, u.operation = .stop) (w : World controlPlane S) :
    let out := (task engine spec strategy).useAll env actor stops s w
    out.endings = stops.map (fun _ => .returned (.ok ())) ∧ out.state = s ∧
      out.world = { w with fired := out.world.fired } := by
  induction stops generalizing w with
  | nil => exact ⟨rfl, rfl, rfl⟩
  | cons u rest ih =>
      have hstop : (task engine spec strategy).use env actor u s w =
          ⟨.returned (.ok ()), s, { w with fired := u.fired }⟩ := by
        have hrun := run_stop_of_none engine spec strategy env u.token actor
          { w with fired := u.fired } hregistration (.inl hphase)
        have hsame : s.setPhase .stopped = s := by
          rw [State.setPhase, ← hphase]
        rw [hsame] at hrun
        rw [use_stop engine spec strategy env actor (hstops u List.mem_cons_self)]
        exact hrun
      obtain ⟨hendings, hstate, hworld⟩ :=
        ih (fun u' hu' => hstops u' (List.mem_cons_of_mem _ hu')) { w with fired := u.fired }
      simp only [CanaryTask.useAll, hstop]
      exact ⟨congrArg _ hendings, hstate, hworld⟩

/-! ## Sequences of uses -/

theorem useAll_follows {ι : Interface} {σ : Type} (task : CanaryTask ι σ) (env : Environment ι S)
    (actor : Option Nat) (uses : List Use) (s : σ) (w : World ι S) :
    (task.useAll env actor uses s w).world.Follows w := by
  induction uses generalizing s w with
  | nil => exact World.Follows.refl w
  | cons u rest ih =>
      have hused : (task.use env actor u s w).world.Follows w :=
        run_follows env u.token actor _ s { w with fired := u.fired }
      exact hused.trans (ih _ _)

theorem useAll_others {ι : Interface} {σ : Type} (task : CanaryTask ι σ) (env : Environment ι S)
    {actor other : Option Nat} (hne : actor ≠ other) (uses : List Use) (s : σ) (w : World ι S) :
    (task.useAll env actor uses s w).world.deeds other = w.deeds other := by
  induction uses generalizing s w with
  | nil => rfl
  | cons u rest ih =>
      exact (ih _ _).trans (run_others env u.token hne _ s { w with fired := u.fired })

theorem Handled.useAll (h : Handled strategy s x) {past : Deeds} (hw : w.deeds actor = past ++ x)
    (engine : Engine) (spec : LaunchSpec) (env : Environment controlPlane S) (uses : List Use) :
    let out := (task engine spec strategy).useAll env actor uses s w
    ∃ y, out.world.deeds actor = past ++ y ∧ Handled strategy out.state y := by
  induction uses generalizing s w x with
  | nil => exact ⟨x, hw, h⟩
  | cons u rest ih =>
      obtain ⟨y, hy, hsecured⟩ := (h.secures engine spec u.operation).run env u.token actor
        (w := { w with fired := u.fired }) hw
      exact ih hsecured.elim hy

/-- A task that was launched stays the task of the canary. -/
theorem Handled.taskArn_useAll (h : Handled strategy s x) {past : Deeds}
    (hw : w.deeds actor = past ++ x) (engine : Engine) (spec : LaunchSpec)
    (env : Environment controlPlane S) (uses : List Use) {arn : TaskArn}
    (harn : s.handle.taskArn = some arn) :
    ((task engine spec strategy).useAll env actor uses s w).state.handle.taskArn = some arn := by
  have hfollows := useAll_follows (task engine spec strategy) env actor uses s w
  obtain ⟨y, hy, arn', hbound, hlaunched⟩ := h.useAll hw engine spec env uses
  obtain ⟨before, hbefore, hx⟩ := h
  obtain rfl : before = some arn := hbefore.taskArn_eq.symm.trans harn
  have hdeeds := hfollows.deeds_eq actor
  rw [hy, hw, List.append_assoc, List.append_cancel_left_eq] at hdeeds
  rw [hdeeds, launchedIn_append, hx] at hlaunched
  rw [hbound.taskArn_eq]
  cases arn' with
  | none => cases hlaunched
  | some arn' => exact congrArg some (List.cons.inj hlaunched).1.symm

/-- Whatever is done with a canary, in any order and however each operation ends: at most one launch
is accepted, and its task is the canary's from then on; nothing is registered without a task; a stop
without a task is done at once; and after a stop that succeeded nothing is registered, and further
stops succeed without doing anything. -/
theorem uses_keep_handle (engine : Engine) (spec : LaunchSpec) (strategy : Strategy)
    (placement : Placement) (env : Environment controlPlane S) (actor : Option Nat)
    (uses : List Use) (w : World controlPlane S) :
    let task := task engine spec strategy
    let out := task.useAll env actor uses (State.fresh placement) w
    (marksOf (out.world.since w)).filterMap Mark.launch? = out.state.handle.taskArn.toList ∧
      (∀ arn more, out.state.handle.taskArn = some arn →
        (task.useAll env actor more out.state out.world).state.handle.taskArn = some arn) ∧
      (out.state.registration.isSome = true → out.state.handle.taskArn.isSome = true) ∧
      ∀ u : Use, u.operation = .stop →
        let stopped := task.use env actor u out.state out.world
        (out.state.handle.taskArn = none →
          stopped = ⟨.returned (.ok ()), out.state.setPhase .stopped,
            { out.world with fired := u.fired }⟩) ∧
        (stopped.ending = .returned (.ok ()) →
          stopped.state.registration = none ∧
            ∀ stops : List Use, (∀ u ∈ stops, u.operation = .stop) →
              let later := task.useAll env actor stops stopped.state stopped.world
              later.endings = stops.map (fun _ => .returned (.ok ())) ∧
                later.state = stopped.state ∧
                later.world = { stopped.world with fired := later.world.fired }) := by
  intro task out
  have hfollows : out.world.Follows w := useAll_follows task env actor uses _ w
  obtain ⟨y, hy, hhandled⟩ := (handled_fresh strategy placement).useAll
    (List.append_nil (w.deeds actor)).symm engine spec env uses
  have htaskArn : ∀ arn more, out.state.handle.taskArn = some arn →
      (task.useAll env actor more out.state out.world).state.handle.taskArn = some arn :=
    fun _ more harn => hhandled.taskArn_useAll hy engine spec env more harn
  obtain ⟨arn, hbound, hlaunched⟩ := hhandled
  have hbacked : out.state.registration.isSome = true → out.state.handle.taskArn.isSome = true := by
    rw [hbound.taskArn_eq]
    exact hbound.backed
  refine ⟨?_, htaskArn, hbacked, fun u hu => ?_⟩
  · have halone : ∀ other, other ≠ actor → deedsOf other (out.world.since w) = [] := by
      intro other hne
      have hsame := useAll_others task env hne.symm uses (State.fresh placement) w
      exact hfollows.deedsOf_since (hsame.trans (List.append_nil _).symm)
    rw [marksOf_eq_of_alone halone, hfollows.deedsOf_since hy, hbound.taskArn_eq]
    exact hlaunched
  · intro stopped
    refine ⟨fun hnone => ?_, fun hreturned => ?_⟩
    · obtain rfl : arn = none := hbound.taskArn_eq.symm.trans hnone
      exact hbound.use_stop_none engine spec env actor hu out.world
    · obtain ⟨hregistration, hphase⟩ :=
        hbound.use_stop_ok engine spec env actor hu out.world hreturned
      exact ⟨hregistration, fun stops hstops => useAll_stopped engine spec strategy env actor
        hregistration hphase stops hstops stopped.world⟩

/-- How a canary behind a load balancer is launched. -/
def sampleSpec : LaunchSpec :=
  .canary Rollout.sample.engine Rollout.sample.taskDefinition
    Rollout.Bench.sample.service.attachments

def sampleStrategy : Strategy := .loadBalanced ⟨⟨"targetgroup/api"⟩, "web", 80⟩

/-- What is left of the canary after these uses. -/
def sampleUses (uses : List Use) : CanaryTask.Uses controlPlane Rollout.Bench State :=
  (task Rollout.sample.engine sampleSpec sampleStrategy).useAll Rollout.Bench.environment (some 0)
    uses (State.fresh .onDemand) Rollout.Bench.world

/-- A canary that is started, waited for and stopped, and stopped twice more once the token has
fired. -/
theorem uses_keep_handle_sample :
    let task := task Rollout.sample.engine sampleSpec sampleStrategy
    let out := sampleUses [{ operation := .start }, { operation := .wait }]
    let stopped := task.use Rollout.Bench.environment (some 0) { operation := .stop } out.state
      out.world
    let again : List Use := [{ operation := .stop, fired := true }, { operation := .stop }]
    let later := task.useAll Rollout.Bench.environment (some 0) again stopped.state stopped.world
    (out.state.registration.isSome = true ∧ out.state.handle.taskArn = some ⟨"task/prod/1"⟩ ∧
        stopped.ending = .returned (.ok ())) ∧
      stopped.state.registration = none ∧ later.state = stopped.state ∧
        later.endings = [.returned (.ok ()), .returned (.ok ())] := by
  intro task out stopped again later
  have hended : stopped.ending = .returned (.ok ()) := rfl
  obtain ⟨-, -, -, hstops⟩ := uses_keep_handle Rollout.sample.engine sampleSpec sampleStrategy
    .onDemand Rollout.Bench.environment (some 0) [{ operation := .start }, { operation := .wait }]
    Rollout.Bench.world
  obtain ⟨-, hstopped⟩ := hstops { operation := .stop } rfl
  obtain ⟨hregistration, hagain⟩ := hstopped hended
  obtain ⟨hendings, hstate, -⟩ := hagain again (by simp [again])
  exact ⟨⟨by decide, by decide, hended⟩, hregistration, hstate, hendings⟩

end Canary

end GatedRollout
