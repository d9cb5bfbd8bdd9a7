import GatedRollout.Proofs.Canary.Handling
import GatedRollout.Proofs.Process.Passage

/-!
# The phases of a canary

A canary is started once, waited for once if the start succeeded, and then stopped any number of
times, and each of these may be abandoned wherever it waits. `Advances` is what one write of its
state may do to the phase. From these steps it follows that the phase only moves forward, and where
each operation leaves it.
-/

namespace GatedRollout

namespace Canary

open Process

variable {s t : State}

/-! ## Forward steps -/

@[simp] theorem State.phase_setPhase (s : State) (phase : Phase) :
    (s.setPhase phase).handle.phase = phase := rfl

/-- How far a canary in this phase has come. -/
def Phase.rank : Phase → Nat
  | created => 0
  | starting => 1
  | running => 2
  | verifying => 3
  | verified => 4
  | failed => 4
  | stopping => 5
  | stopped => 6

/-- Whether only a canary with a task is ever in this phase. -/
def Phase.needsTask : Phase → Bool
  | running | verifying | verified | stopping => true
  | created | starting | failed | stopped => false

theorem Phase.rank_le_stopped (phase : Phase) : phase.rank ≤ rank .stopped := by
  cases phase <;> decide

theorem Phase.rank_le_stopping {phase : Phase} (h : phase ≠ .stopped) :
    phase.rank ≤ rank .stopping := by
  cases phase with
  | stopped => exact absurd rfl h
  | _ => decide

/-- The canary has a task where its phase needs one. -/
def State.Backed (s : State) : Prop :=
  s.handle.phase.needsTask = true → s.handle.isStarted = true

/-- A step that never takes the phase back, verifies only what was being verified, and enters only
a phase that the canary has the task for. -/
structure Advances (s t : State) : Prop where
  rank_le : s.handle.phase.rank ≤ t.handle.phase.rank
  verified : t.handle.phase = .verified →
    s.handle.phase = .verified ∨ s.handle.phase = .verifying
  backed : t.Backed

theorem advances_of_handle (h : t.handle = s.handle) (hs : s.Backed) : Advances s t := by
  refine ⟨by rw [h], fun hverified => .inl (h ▸ hverified), ?_⟩
  unfold State.Backed
  rw [h]
  exact hs

theorem advances_setPhase {phase : Phase} (hrank : s.handle.phase.rank ≤ phase.rank)
    (hverified : phase = .verified → s.handle.phase = .verifying)
    (hbacked : phase.needsTask = true → s.handle.isStarted = true) :
    Advances s (s.setPhase phase) :=
  ⟨hrank, fun h => .inr (hverified h), hbacked⟩

theorem advances_setTaskArn (s : State) (arn : TaskArn) : Advances s (s.setTaskArn arn) :=
  ⟨Nat.le_refl _, .inl, fun _ => rfl⟩

section Moves

variable (engine : Engine) (spec : LaunchSpec)

/-- A move that settles goes on to the phase given, or to `failed`. -/
theorem treads_settle {α : Type} {move : Move α} {phase : Phase}
    {Q post : Except TaskError α → State → Prop} (h : move.run.Treads Advances Q s)
    (ok : ∀ a t, Q (.ok a) t → Advances t (t.setPhase phase) ∧ post (.ok a) (t.setPhase phase))
    (error : ∀ e t, Q (.error e) t → t.handle.phase.rank ≤ Phase.rank .failed ∧
      post (.error e) (t.setPhase .failed)) :
    (settle move phase).run.Treads Advances post s := by
  refine .bind h fun result t hQ => ?_
  cases result with
  | ok a =>
      obtain ⟨hstep, hpost⟩ := ok a t hQ
      exact Treads.modify_bind hstep hpost
  | error e =>
      obtain ⟨hrank, hpost⟩ := error e t hQ
      exact Treads.modify_bind (advances_setPhase hrank nofun nofun) hpost

/-! ## Starting -/

theorem treads_launch (overrides : List ContainerOverride)
    (hs : s.handle.phase.rank ≤ Phase.rank .starting) :
    (launch engine spec overrides).run.Treads Advances
      (fun result t => t.handle.phase.rank ≤ Phase.rank .starting ∧
        ∀ arn, result = .ok arn → t.handle.isStarted = true) s := by
  refine .state_then ?_
  dsimp only
  split
  · next arn harn =>
      refine ⟨hs, fun _ _ => ?_⟩
      rw [Handle.isStarted, harn]
      rfl
  · refine .modify_then (advances_setPhase hs nofun nofun) ?_
    refine .still_then (conforms_launchOn engine spec (fun _ _ => trivial) overrides _)
      (fun task => ?_) fun e => ?_
    · exact .modify_then (advances_setTaskArn _ _) ⟨Nat.le_refl _, fun _ _ => rfl⟩
    · exact ⟨Nat.le_refl _, nofun⟩

/-- A start that succeeds leaves the canary with its task, and any other leaves it failed. -/
theorem treads_start (hs : s.handle.phase.rank ≤ Phase.rank .starting) :
    (start engine spec).run.Treads Advances
      (fun result t => match result with
        | .ok () => t.handle.phase = .starting ∧ t.handle.isStarted = true
        | .error _ => t.handle.phase = .failed) s := by
  refine treads_settle (Q := fun result t => t.handle.phase.rank ≤ Phase.rank .starting ∧
    (result = .ok () → t.handle.isStarted = true)) ?_ ?_ ?_
  · refine .still_then .attempt_cancelled (fun cancelled => ?_) fun e => ⟨hs, nofun⟩
    cases cancelled with
    | true => exact ⟨hs, nofun⟩
    | false =>
        refine .attempt (treads_launch engine spec [] hs) ?_ ?_
        · rintro arn t ⟨hrank, hstarted⟩
          exact ⟨hrank, fun _ => hstarted arn rfl⟩
        · rintro e t ⟨hrank, -⟩
          exact ⟨hrank, nofun⟩
  · rintro ⟨⟩ t ⟨hrank, hstarted⟩
    exact ⟨advances_setPhase hrank nofun nofun, rfl, hstarted rfl⟩
  · rintro e t ⟨hrank, -⟩
    exact ⟨Nat.le_trans hrank (by decide), rfl⟩

/-! ## Waiting -/

/-- A verification under way: it has the task, and where it succeeds it is still verifying. -/
structure Verifies (result : Except TaskError Unit) (t : State) : Prop where
  rank_le : t.handle.phase.rank ≤ Phase.rank .verifying
  verifying : result = .ok () → t.handle.phase = .verifying
  started : t.handle.isStarted = true

theorem verifies_of_verifying (hphase : s.handle.phase = .verifying)
    (hstarted : s.handle.isStarted = true) (result : Except TaskError Unit) : Verifies result s :=
  ⟨by rw [hphase], fun _ => hphase, hstarted⟩

variable (hphase : s.handle.phase = .starting) (hstarted : s.handle.isStarted = true)
include hphase hstarted

/-- However a canary is verified, it first comes to run, to be healthy and to be verified. -/
theorem treads_verifying {f : Task → Move Unit}
    (h : ∀ task, (f task).run.Treads Advances Verifies (s.setPhase .verifying)) :
    (do
      let task ← waitRunning engine
      waitContainerHealth engine spec
      setPhase .verifying
      f task : Move Unit).run.Treads Advances Verifies s := by
  have hfailed : ∀ e, Verifies (.error e) s := fun e => ⟨by rw [hphase]; decide, nofun, hstarted⟩
  have hrunning : ∀ e, Verifies (.error e) (s.setPhase .running) :=
    fun e => ⟨by simp [Phase.rank], nofun, hstarted⟩
  have hrun : (waitRunning engine).run.Treads Advances
      (fun result t => match result with
        | .ok _ => t = s.setPhase .running
        | .error _ => t = s) s := by
    refine .still_then conforms_taskArn (fun arn => ?_) fun e => rfl
    refine .still_then (.attempt_rest _ _) (fun _ => ?_) fun e => rfl
    refine .still_then (.within (engine.conforms_await _ trivial) _) (fun task => ?_) fun e => rfl
    exact .modify_then (advances_setPhase (by rw [hphase]; decide) nofun fun _ => hstarted) rfl
  refine .attempt hrun ?_ ?_
  · rintro task _ rfl
    refine Treads.still_then (conforms_waitContainerHealth engine spec fun _ _ => trivial)
      (fun _ => ?_) hrunning
    exact .modify_then (advances_setPhase (by simp [Phase.rank]) nofun fun _ => hstarted) (h task)
  · rintro e _ rfl
    exact hfailed e

theorem treads_verify (strategy : Strategy) :
    (verify engine spec strategy).run.Treads Advances Verifies s := by
  have hverifying : ∀ result, Verifies result (s.setPhase .verifying) :=
    verifies_of_verifying rfl hstarted
  have herror : ∀ e, Verifies (.error e) (s.setPhase .verifying) := fun e => hverifying _
  have hbacked : (s.setPhase .verifying).Backed := fun _ => hstarted
  cases strategy with
  | standalone =>
      refine treads_verifying engine spec hphase hstarted fun _ => ?_
      refine .of_still (.attempt conforms_taskArn fun _ => ?_) hverifying
      refine .attempt (.run_attempt (.idle _ _ _)) fun rest => ?_
      cases rest with
      | cancelled => exact .known (.error _)
      | elapsed =>
          exact .attempt (conforms_ensureRunning engine fun _ _ => trivial) fun _ => .known (.ok _)
  | loadBalanced balancer =>
      refine treads_verifying engine spec hphase hstarted fun task => ?_
      refine .still_then (.known _) (fun port => ?_) herror
      refine .still_then (conforms_networkIdentity engine (fun _ _ => trivial) task)
        (fun identity => ?_) herror
      refine .still_then (.attempt_ask trivial _) (fun _ => ?_) herror
      refine .modify_then (advances_of_handle rfl hbacked) ?_
      exact .of_still (conforms_waitTargetHealthy engine (fun _ _ => trivial) _)
        (verifies_of_verifying rfl hstarted)
  | registry registry =>
      refine treads_verifying engine spec hphase hstarted fun task => ?_
      refine .still_then (.attempt_ask trivial _) (fun service => ?_) herror
      refine .still_then (.attempt_ask trivial _) (fun domain => ?_) herror
      refine .still_then (.known _) (fun port => ?_) herror
      refine .still_then (conforms_networkIdentity engine (fun _ _ => trivial) task)
        (fun identity => ?_) herror
      refine .still_then (.attempt_ask trivial _) (fun _ => ?_) herror
      refine .modify_then (advances_of_handle rfl hbacked) ?_
      refine .of_still (.attempt (.attempt_ask trivial _) fun _ => ?_)
        (verifies_of_verifying rfl hstarted)
      exact conforms_waitDiscoverable engine (fun _ _ => trivial) _ _ _

theorem treads_wait (strategy : Strategy) :
    (task engine spec strategy).wait.run.Treads Advances
      (fun result t => t.handle.phase = if result.isOk then .verified else .failed) s := by
  refine treads_settle (treads_verify engine spec hphase hstarted strategy) ?_ ?_
  · rintro ⟨⟩ t ht
    have hverifying := ht.verifying rfl
    exact ⟨advances_setPhase (by rw [hverifying]; decide) (fun _ => hverifying)
      fun _ => ht.started, rfl⟩
  · rintro e t ht
    exact ⟨Nat.le_trans ht.rank_le (by decide), rfl⟩

omit hphase hstarted

/-! ## Stopping -/

/-- Leaving its place, a canary keeps its handle. -/
theorem treads_deregister (hs : s.Backed) (strategy : Strategy) :
    (deregister engine strategy).Treads Advances (fun _ t => t.handle = s.handle) s := by
  have hkept : (deregister engine strategy).Maintains fun t => t.handle = s.handle :=
    conforms_deregister engine (fun _ _ => trivial) (fun _ _ ht => ht) (fun _ ht => ht)
      (fun _ _ _ _ => trivial) strategy
  refine hkept.treads (fun t u ht hu => advances_of_handle (hu.trans ht.symm) ?_) rfl
  unfold State.Backed
  rw [ht]
  exact hs

theorem treads_stopTask :
    (stopTask engine).run.Treads Advances
      (fun result t => t.Backed ∧ (result = .ok () → t.handle.phase = .stopped)) s := by
  refine .state_then ?_
  dsimp only
  split
  · next hstopped =>
      refine ⟨fun hneeds => ?_, fun _ => hstopped⟩
      rw [hstopped] at hneeds
      cases hneeds
  · next hrunning =>
      split
      · exact .attempt_modify (advances_setPhase (Phase.rank_le_stopped _) nofun nofun)
          ⟨nofun, fun _ => rfl⟩
      · next arn harn =>
          have hstarted : s.handle.isStarted = true := by
            rw [Handle.isStarted, harn]
            rfl
          have hbacked : (s.setPhase .stopping).Backed := fun _ => hstarted
          refine .modify_then
            (advances_setPhase (Phase.rank_le_stopping hrunning) nofun fun _ => hstarted) ?_
          refine .still_then (.attempt_ask trivial _) (fun _ => ?_) fun e => ⟨hbacked, nofun⟩
          refine .still_then (.within (engine.conforms_await _ trivial) _) (fun _ => ?_)
            fun e => ⟨hbacked, nofun⟩
          exact .attempt_modify (advances_setPhase (Phase.rank_le_stopped _) nofun nofun)
            ⟨nofun, fun _ => rfl⟩

theorem treads_stop (hs : s.Backed) (strategy : Strategy) :
    (task engine spec strategy).stop.run.Treads Advances
      (fun result t => result = .ok () → t.handle.phase = .stopped) s := by
  refine .attempt (Q := fun _ t => t.handle = s.handle) ?_ ?_ ?_
  · refine .bind (treads_deregister engine hs strategy) ?_
    exact fun _ t ht => ht
  · intro _ t _
    exact (treads_stopTask engine).weaken fun _ _ h => h.2
  · exact fun e t _ => nofun

end Moves

/-! ## Courses -/

/-- One use of a canary: the states that it wrote, and what it returned, unless it was abandoned,
panicked or got stuck. -/
structure Episode where
  operation : Operation
  before : State
  written : List State
  result : Option (Except TaskError Unit)

namespace Episode

/-- The state in which the canary was left. -/
def after (e : Episode) : State := e.written.getLastD e.before

/-- The operation may go this way. -/
def Of (task : CanaryTask controlPlane State) (e : Episode) : Prop :=
  Passes (task.operate e.operation).run e.before e.written e.result

/-- Where an operation that returned leaves the phase. -/
structure Settles (e : Episode) : Prop where
  start : e.operation = .start → ∀ error, e.result = some (.error error) →
    e.after.handle.phase = .failed
  wait : e.operation = .wait → ∀ result, e.result = some result →
    e.after.handle.phase = if result.isOk then .verified else .failed
  stop : e.operation = .stop → e.result = some (.ok ()) → e.after.handle.phase = .stopped

end Episode

/-- Every run of an operation is an episode of its canary. -/
theorem exists_episode {S : Type} (task : CanaryTask controlPlane State) (operation : Operation)
    (env : Environment controlPlane S) (token : Token) (actor : Option Nat) (s : State)
    (w : World controlPlane S) :
    let out := run env token actor (task.operate operation).run s w
    ∃ e : Episode, e.operation = operation ∧ e.before = s ∧ e.Of task ∧
      e.result = out.ending.answer? ∧ e.after = out.state := by
  intro out
  obtain ⟨ts, hpasses, hlast⟩ := run_passes env token actor (task.operate operation).run s w
  exact ⟨⟨operation, s, ts, out.ending.answer?⟩, rfl, rfl, hpasses, rfl, hlast⟩

/-- What may be done with a canary after an operation that ended so, besides stopping it. -/
def afterwards : Operation → Option (Except TaskError Unit) → Operation
  | .start, some (.ok ()) => .wait
  | _, _ => .stop

/-- The uses of a canary, from a state on. What is due at first is its start, after a start that
succeeded it is the wait, and then nothing but stops; and a stop may come at any time. -/
inductive Course (task : CanaryTask controlPlane State) : Operation → State → List Episode → Prop
  | nil (due : Operation) (s : State) : Course task due s []
  | cons {due e es s} (allowed : e.operation = due ∨ e.operation = .stop) (before : e.before = s)
      (of : e.Of task) (later : Course task (afterwards e.operation e.result) e.after es) :
      Course task due s (e :: es)

/-- What is true of a canary where such an operation is due. -/
def State.ReadyFor (s : State) : Operation → Prop
  | .start => s.handle.phase = .created
  | .wait => s.handle.phase = .starting ∧ s.handle.isStarted = true
  | .stop => s.Backed

theorem State.ReadyFor.backed {due : Operation} (h : s.ReadyFor due) : s.Backed := by
  intro hneeds
  cases due with
  | start =>
      have hphase : s.handle.phase = .created := h
      rw [hphase] at hneeds
      cases hneeds
  | wait => exact h.2
  | stop => exact h hneeds

/-- After any steps forward, the canary has a task where its phase needs one. -/
theorem backed_of_isChain {ts : List State} (h : List.IsChain Advances (s :: ts)) (hs : s.Backed) :
    ∀ t ∈ s :: ts, t.Backed :=
  List.forall_mem_cons.mpr ⟨hs, forall_mem_of_isChain (fun _ _ hstep => hstep.backed) h⟩

theorem Episode.Of.advances {engine : Engine} {spec : LaunchSpec} {strategy : Strategy}
    {e : Episode} (of : e.Of (task engine spec strategy))
    (ready : e.before.ReadyFor e.operation) :
    List.IsChain Advances (e.before :: e.written) ∧ e.Settles ∧
      e.after.ReadyFor (afterwards e.operation e.result) := by
  obtain ⟨operation, before, written, result⟩ := e
  have hbacked : before.Backed := ready.backed
  cases operation with
  | start =>
      have hphase : before.handle.phase = .created := ready
      obtain ⟨hchain, hpost⟩ := (treads_start engine spec (by rw [hphase]; decide)).passes of
      refine ⟨hchain, ⟨fun _ error herror => hpost _ herror, nofun, nofun⟩, ?_⟩
      match result with
      | some (.ok ()) => exact hpost _ rfl
      | some (.error _) | none =>
          exact backed_of_isChain hchain hbacked _ List.getLastD_mem_cons
  | wait =>
      obtain ⟨hphase, hstarted⟩ := ready
      obtain ⟨hchain, hpost⟩ := (treads_wait engine spec hphase hstarted strategy).passes of
      exact ⟨hchain, ⟨nofun, fun _ => hpost, nofun⟩,
        backed_of_isChain hchain hbacked _ List.getLastD_mem_cons⟩
  | stop =>
      obtain ⟨hchain, hpost⟩ := (treads_stop engine spec hbacked strategy).passes of
      exact ⟨hchain, ⟨nofun, nofun, fun _ hok => hpost _ hok rfl⟩,
        backed_of_isChain hchain hbacked _ List.getLastD_mem_cons⟩

theorem Course.advances {engine : Engine} {spec : LaunchSpec} {strategy : Strategy}
    {due : Operation} {es : List Episode}
    (course : Course (task engine spec strategy) due s es) (ready : s.ReadyFor due) :
    List.IsChain Advances (s :: es.flatMap (·.written)) ∧ ∀ e ∈ es, e.Settles := by
  induction course with
  | nil due s => exact ⟨.singleton s, List.forall_mem_nil _⟩
  | @cons due e es s allowed before of later ih =>
      subst before
      have hready : e.before.ReadyFor e.operation := by
        rcases allowed with rfl | hstop
        · exact ready
        · rw [hstop]
          exact ready.backed
      obtain ⟨hchain, hsettled, hnext⟩ := of.advances hready
      obtain ⟨hlater, hsettles⟩ := ih hnext
      exact ⟨isChain_cons_append hchain hlater, List.forall_mem_cons.mpr ⟨hsettled, hsettles⟩⟩

/-- Through every course of a canary, its phase moves forward only, it is verified only from
verifying, and it has a task in every phase that needs one. A start that fails leaves it failed, a
wait that returns leaves it verified or failed, and a stop that succeeds leaves it stopped. -/
theorem phases_advance (engine : Engine) (spec : LaunchSpec) (strategy : Strategy)
    (placement : Placement) {es : List Episode}
    (course : Course (task engine spec strategy) .start (State.fresh placement) es) :
    let states := State.fresh placement :: es.flatMap (·.written)
    (states.IsChain fun s t => s.handle.phase.rank ≤ t.handle.phase.rank ∧
        (t.handle.phase = .verified →
          s.handle.phase = .verified ∨ s.handle.phase = .verifying)) ∧
      (∀ t ∈ states, t.handle.phase.needsTask = true → t.handle.isStarted = true) ∧
        ∀ e ∈ es, e.Settles := by
  obtain ⟨hchain, hsettles⟩ := course.advances rfl
  refine ⟨hchain.imp fun s t h => ⟨h.rank_le, h.verified⟩, ?_, hsettles⟩
  exact backed_of_isChain hchain nofun

/-- A canary behind a load balancer that is started, verified and stopped. -/
theorem phases_advance_sample :
    let task := task Rollout.sample.engine sampleSpec sampleStrategy
    ∃ es, Course task .start (State.fresh .onDemand) es ∧
      es.map (·.operation) = [.start, .wait, .stop] ∧
        es.map (·.after.handle.phase) = [.starting, .verified, .stopped] ∧
          ∀ e ∈ es, e.Settles := by
  intro task
  let go := fun operation s w =>
    run Rollout.Bench.environment .caller none (task.operate operation).run s w
  let started := go .start (State.fresh .onDemand) Rollout.Bench.world
  let waited := go .wait started.state started.world
  let stopped := go .stop waited.state waited.world
  have hended : started.ending = .returned (.ok ()) := rfl
  have hphases : [started.state, waited.state, stopped.state].map (·.handle.phase) =
      [.starting, .verified, .stopped] := by decide
  have episode : ∀ operation s w, ∃ e : Episode, e.operation = operation ∧ e.before = s ∧
      e.Of task ∧ e.result = (go operation s w).ending.answer? ∧
        e.after = (go operation s w).state :=
    fun operation s w => exists_episode task operation Rollout.Bench.environment .caller none s w
  obtain ⟨e₁, hstart, hbefore₁, hof₁, hresult, hafter₁⟩ :=
    episode .start (State.fresh .onDemand) Rollout.Bench.world
  obtain ⟨e₂, hwait, hbefore₂, hof₂, -, hafter₂⟩ := episode .wait started.state started.world
  obtain ⟨e₃, hstop, hbefore₃, hof₃, -, hafter₃⟩ := episode .stop waited.state waited.world
  have hdue : afterwards e₁.operation e₁.result = .wait := by
    rw [hstart, hresult.trans (congrArg Ending.answer? hended)]
    rfl
  have hlater : Course task .wait e₁.after [e₂, e₃] :=
    .cons (.inl hwait) (hbefore₂.trans hafter₁.symm) hof₂
      (.cons (.inr hstop) (hbefore₃.trans hafter₂.symm) hof₃ (.nil _ _))
  have course := Course.cons (.inl hstart) hbefore₁ hof₁ (hdue ▸ hlater)
  obtain ⟨-, -, hsettles⟩ := phases_advance Rollout.sample.engine sampleSpec sampleStrategy
    .onDemand course
  refine ⟨[e₁, e₂, e₃], course, by simp [hstart, hwait, hstop], ?_, hsettles⟩
  calc [e₁.after, e₂.after, e₃.after].map (·.handle.phase)
      = [started.state, waited.state, stopped.state].map (·.handle.phase) := by
        rw [hafter₁, hafter₂, hafter₃]
    _ = [.starting, .verified, .stopped] := hphases

end Canary

end GatedRollout
