import GatedRollout.Proofs.Process.Coupling
import GatedRollout.Proofs.Rollout.Cleanup
import GatedRollout.Proofs.Rollout.Requests

/-!
# What a cleanup cannot change

What a rollout returns is settled when its body ends: two control planes that differ only from the
first thing on that is let go of lead to the same result. And what a cleanup does is settled by the
control plane alone: whether and when the caller's token fires is nothing to it.
-/

namespace GatedRollout

/-! ## The canaries in two worlds -/

namespace CanarySet

variable {ι : Interface} {S S' σ : Type} {ok : ι.Request → Prop} {env : Environment ι S}
  {env' : Environment ι S'} {token : Token} {alike : World ι S → World ι S' → Prop}
  (couples : Couples ok env env' token alike) {set : CanarySet ι σ} {w : World ι S}
  {w' : World ι S'}

include couples

theorem startFrom_coupled (entries : List (Entry ι σ)) :
    ∀ i w w', (∀ e ∈ entries, e.task.start.run.Asks ok) → alike w w' → ∃ ending begun v v',
      startFrom env token i entries w = ⟨ending, begun, v⟩ ∧
        startFrom env' token i entries w' = ⟨ending, begun, v'⟩ ∧ alike v v' := by
  induction entries with
  | nil => exact fun i w w' _ h => ⟨_, _, _, _, rfl, rfl, h⟩
  | cons e rest ih =>
      intro i w w' hasks h
      obtain ⟨hfirst, hrest⟩ := List.forall_mem_cons.mp hasks
      obtain ⟨ending, s, v, v', hrun, hrun', hv⟩ := couples.run (some i) hfirst e.state h
      simp only [startFrom, hrun, hrun']
      split
      · obtain ⟨ending, begun, u, u', hothers, hothers', hu⟩ := ih (i + 1) v v' hrest hv
        simp only [hothers, hothers']
        exact ⟨_, _, _, _, rfl, rfl, hu⟩
      · exact ⟨_, _, _, _, rfl, rfl, hv⟩

theorem start_coupled (hasks : ∀ e ∈ set.entries, e.task.start.run.Asks ok) (h : alike w w') :
    ∃ ending begun v v', set.start env token w = ⟨ending, begun, v⟩ ∧
      set.start env' token w' = ⟨ending, begun, v'⟩ ∧ alike v v' := by
  obtain ⟨ending, begun, v, v', hstart, hstart', hv⟩ :=
    startFrom_coupled couples set.entries 0 w w' hasks h
  simp only [start, hstart, hstart']
  exact ⟨_, _, _, _, rfl, rfl, hv⟩

theorem wait_coupled (hasks : ∀ e ∈ set.entries, e.task.wait.run.Asks ok) (h : alike w w') :
    ∃ ending waited v v', set.wait env token w = ⟨ending, waited, v⟩ ∧
      set.wait env' token w' = ⟨ending, waited, v'⟩ ∧ alike v v' := by
  have hwaits : ∀ p ∈ set.entries.map fun e => (e.task.wait.run, e.state), p.1.Asks ok := by
    intro p hp
    obtain ⟨e, he, rfl⟩ := List.mem_map.mp hp
    exact hasks e he
  obtain ⟨ending, states, v, v', hfan, hfan', hv⟩ := couples.fanOutWithin none hwaits h
  simp only [fanOutWithin] at hfan hfan'
  simp only [wait, hfan, hfan', gather]
  exact ⟨_, _, _, _, rfl, rfl, hv⟩

theorem cleanupWithin_coupled (hasks : ∀ e ∈ set.entries, e.task.stop.run.Asks ok)
    {budget : Duration} (hbudget : w.roundsWithin env budget = w'.roundsWithin env' budget)
    (h : alike w w') :
    ∃ ending stopped v v', set.cleanupWithin env token budget w = ⟨ending, stopped, v⟩ ∧
      set.cleanupWithin env' token budget w' = ⟨ending, stopped, v'⟩ ∧ alike v v' := by
  have hstops : ∀ p ∈ set.entries.map fun e => (e.task.stop.run, e.state), p.1.Asks ok := by
    intro p hp
    obtain ⟨e, he, rfl⟩ := List.mem_map.mp hp
    exact hasks e he
  obtain ⟨ending, states, v, v', hfan, hfan', hv⟩ :=
    couples.fanOutWithin (w.roundsWithin env budget) hstops h
  simp only [cleanupWithin, ← hbudget, hfan, hfan', gather]
  exact ⟨_, _, _, _, rfl, rfl, hv⟩

end CanarySet

namespace Rollout

open Canary

variable {S S' : Type}

/-! ## Control planes that differ in a cleanup -/

/-- In states that are alike, both control planes react in the same way to pauses and to every
request that lets go of nothing. What they make of the others is left open, and so is everything
after. -/
structure SameUntilRelease (env : Environment controlPlane S) (env' : Environment controlPlane S')
    (alike : S → S' → Prop) : Prop where
  react : ∀ {s s'} (now : Instant) {r : ControlPlane.Request}, alike s s' → Retains r →
    (env.react s now r).1 = (env'.react s' now r).1 ∧
      alike (env.react s now r).2 (env'.react s' now r).2
  wake : ∀ {s s'} (now : Instant), alike s s' →
    (env.wake s now).1 = (env'.wake s' now).1 ∧ alike (env.wake s now).2 (env'.wake s' now).2

/-- The same has happened in both worlds. -/
structure SameSoFar (alike : S → S' → Prop) (w : World controlPlane S)
    (w' : World controlPlane S') : Prop where
  clock : w.clock = w'.clock
  fired : w.fired = w'.fired
  history : w.history = w'.history
  env : alike w.env w'.env

theorem SameSoFar.note {alike : S → S' → Prop} {w : World controlPlane S}
    {w' : World controlPlane S'} (h : SameSoFar alike w w') (actor : Option Nat)
    (event : Event controlPlane) : SameSoFar alike (w.note actor event) (w'.note actor event) :=
  ⟨h.clock, h.fired, by simp [World.note, h.clock, h.history], h.env⟩

theorem SameSoFar.fireIf {alike : S → S' → Prop} {w : World controlPlane S}
    {w' : World controlPlane S'} (h : SameSoFar alike w w') (fires : Bool) :
    SameSoFar alike (w.fireIf fires) (w'.fireIf fires) := by
  unfold World.fireIf World.fire
  rw [← h.fired]
  split
  · split
    · exact h
    · have hnoted := h.note none .fired
      exact ⟨hnoted.clock, rfl, hnoted.history, hnoted.env⟩
  · exact h

theorem SameUntilRelease.couples {env : Environment controlPlane S}
    {env' : Environment controlPlane S'} {alike : S → S' → Prop}
    (same : SameUntilRelease env env' alike) :
    Couples Retains env env' .caller (SameSoFar alike) where
  clock h := h.clock
  cancelled h := h.fired
  issue {w w' r} actor h hr := by
    obtain ⟨hreaction, hstate⟩ := same.react w.clock h.env hr
    simp only [World.issue, World.note, ← h.clock, ← hreaction]
    refine ⟨trivial, trivial, SameSoFar.fireIf ?_ _⟩
    exact ⟨rfl, h.fired, congrArg _ h.history, hstate⟩
  sleep {w w'} actor d h := by
    obtain ⟨hwaking, hstate⟩ := same.wake (w.clock.advance d) h.env
    simp only [World.sleep, World.note, ← h.clock, ← hwaking]
    refine ⟨trivial, SameSoFar.fireIf ?_ _⟩
    exact ⟨rfl, h.fired, congrArg _ h.history, hstate⟩
  returned actor r answer h := h.note actor _

variable {rollout : Rollout} {scope : RolloutScope} {env : Environment controlPlane S}
  {env' : Environment controlPlane S'} {progress : Progress} {alike : S → S' → Prop}
  {w : World controlPlane S} {w' : World controlPlane S'}

/-- The body ends in the same way in both worlds. -/
theorem SameUntilRelease.body (same : SameUntilRelease env env' alike) {engine : Engine}
    {spec : LaunchSpec} {canaries : CanarySet controlPlane State}
    (hstaffs : Staffs engine spec canaries) (h : SameSoFar alike w w') (rollout : Rollout)
    (scope : RolloutScope) (progress : Progress) :
    ∃ ending progress' stopped v v',
      rollout.verifyAndUpdate env scope progress canaries w = ⟨ending, progress', stopped, v⟩ ∧
        rollout.verifyAndUpdate env' scope progress canaries w' =
          ⟨ending, progress', stopped, v'⟩ ∧ SameSoFar alike v v' := by
  have hlaunches := fun e he => (hstaffs.asks_start e he).mono retains_of_launches
  obtain ⟨ending, begun, v, v', hstart, hstart', hv⟩ :=
    CanarySet.start_coupled same.couples hlaunches h
  have hbegun : Staffs engine spec begun := by
    have hstarted := hstaffs.start env .caller w
    rwa [hstart] at hstarted
  have hwaits := fun e he => (hbegun.asks_wait e he).mono retains_of_waits
  obtain ⟨ending', waited, u, u', hwait, hwait', hu⟩ :=
    CanarySet.wait_coupled same.couples hwaits hv
  have hupdate := (asks_updateService rollout scope).mono retains_of_applies
  obtain ⟨ending'', updated, t, t', hrun, hrun', ht⟩ :=
    same.couples.run none hupdate progress hu
  simp only [verifyAndUpdate, hstart, hstart']
  cases ending with
  | panicked message => exact ⟨_, _, _, _, _, rfl, rfl, hv⟩
  | hung => exact ⟨_, _, _, _, _, rfl, rfl, hv⟩
  | returned result =>
      cases result with
      | error e => exact ⟨_, _, _, _, _, rfl, rfl, hv⟩
      | ok u =>
          simp only [hwait, hwait']
          cases ending' with
          | panicked message => exact ⟨_, _, _, _, _, rfl, rfl, hu⟩
          | hung => exact ⟨_, _, _, _, _, rfl, rfl, hu⟩
          | returned result =>
              cases result with
              | error e => exact ⟨_, _, _, _, _, rfl, rfl, hu⟩
              | ok u =>
                  simp only [hrun, hrun']
                  exact ⟨_, _, _, _, _, rfl, rfl, ht⟩

/-! ## What a cleanup leaves -/

theorem serviceUpdated_finish (rollout : Rollout) (env : Environment controlPlane S)
    (body : Body S) :
    (rollout.finish env body).state.serviceUpdated = body.progress.serviceUpdated := by
  unfold finish
  dsimp only
  split <;> rfl

/-- A cleanup that does not panic leaves the result of the body as it is. -/
theorem ending_finish {body : Body S}
    (h : ∀ message, (rollout.cleanUp env body).ending ≠ .panicked message) :
    (rollout.finish env body).ending = body.ending := by
  unfold finish
  dsimp only
  split
  · next message hpanicked => exact absurd hpanicked (h message)
  · rfl

/-- The cleanup of a rollout does not panic. -/
def CleansUp (rollout : Rollout) (scope : RolloutScope) (env : Environment controlPlane S)
    (progress : Progress) (w : World controlPlane S) : Prop :=
  ∀ attachments body, rollout.Reaches scope env progress w attachments body →
    ∀ message, (rollout.cleanUp env body).ending ≠ .panicked message

/-- A rollout has the same result on both control planes. -/
theorem SameUntilRelease.rollOut (same : SameUntilRelease env env' alike)
    (h : SameSoFar alike w w') (rollout : Rollout) (scope : RolloutScope) (progress : Progress) :
    let out := rollout.rollOut env scope progress w
    let out' := rollout.rollOut env' scope progress w'
    out.state.serviceUpdated = out'.state.serviceUpdated ∧
      (rollout.CleansUp scope env progress w → rollout.CleansUp scope env' progress w' →
        out.ending = out'.ending) := by
  obtain ⟨ending, s, v, v', hresolve, hresolve', hv⟩ := same.couples.run none
    (asks_resolve rollout scope) { progress with diagnostics := {} } h
  have hresolved : rollout.resolve env scope progress w = ⟨ending, s, v⟩ := hresolve
  have hresolved' : rollout.resolve env' scope progress w' = ⟨ending, s, v'⟩ := hresolve'
  simp only [Rollout.rollOut, hresolved, hresolved']
  cases ending with
  | panicked message => exact ⟨rfl, fun _ _ => rfl⟩
  | hung => exact ⟨rfl, fun _ _ => rfl⟩
  | returned result =>
      cases result with
      | error e => exact ⟨rfl, fun _ _ => rfl⟩
      | ok attachments =>
          have hstaffs := staffs_set rollout.engine rollout.taskDefinition attachments
          obtain ⟨ending, progress', stopped, u, u', hbody, hbody', -⟩ :=
            same.body hstaffs hv rollout scope s
          simp only [hbody, hbody']
          have hreaches : rollout.Reaches scope env progress w attachments
              ⟨ending, progress', stopped, u⟩ := ⟨by rw [hresolved], by rw [hresolved, hbody]⟩
          have hreaches' : rollout.Reaches scope env' progress w' attachments
              ⟨ending, progress', stopped, u'⟩ := ⟨by rw [hresolved'], by rw [hresolved', hbody']⟩
          cases ending with
          | hung => exact ⟨rfl, fun _ _ => rfl⟩
          | _ =>
              refine ⟨?_, fun hcleans hcleans' => ?_⟩
              · rw [serviceUpdated_finish, serviceUpdated_finish]
              · rw [ending_finish (hcleans _ _ hreaches), ending_finish (hcleans' _ _ hreaches')]

/-! ## The first that a cleanup asks for -/

/-- Nothing was done, or something was let go of before anything else. -/
def LetsGo (y : Deeds) : Prop :=
  y = [] ∨ ∃ r rest, r.role = .releases ∧ y = .issued r :: rest

section LetsGo

variable {σ ε α β : Type} {s : σ}

theorem secures_letsGo_after {r : ControlPlane.Request} (hr : r.role = .releases)
    {x : Deeds} (hx : [.issued r] <+: x) (p : Process controlPlane σ α) :
    Secures recorded (fun _ y => LetsGo y) (fun _ _ y => LetsGo y) p s x := by
  have hbegun : ∀ y : Deeds, [.issued r] <+: y → LetsGo y := by
    intro y hy
    obtain ⟨rest, rfl⟩ := hy
    exact .inr ⟨r, rest, hr, rfl⟩
  exact ((Secures.anything p s x).extends hx).mono (fun _ _ h => hbegun _ h.2)
    (fun _ _ _ h => hbegun _ h.2)

theorem secures_letsGo_ask {r : ControlPlane.Request} (hr : r.role = .releases)
    (f : Except ClientError (controlPlane.Reply r) → Process controlPlane σ β) :
    Secures recorded (fun _ y => LetsGo y) (fun _ _ y => LetsGo y) (Process.ask r >>= f) s [] :=
  Secures.recorded_ask_bind (.inr ⟨r, [], hr, rfl⟩) fun _ =>
    secures_letsGo_after hr (List.prefix_append _ _) _

end LetsGo

theorem secures_stopTask_letsGo (engine : Engine) (s : State) :
    Secures recorded (fun _ y => LetsGo y) (fun _ _ y => LetsGo y) (stopTask engine).run s [] := by
  apply Secures.state_then
  dsimp only
  split
  · exact Secures.attempt_pure (.inl rfl)
  · cases s.handle.taskArn with
    | none => exact Secures.attempt_modify (.inl rfl)
    | some arn =>
        refine Secures.modify_then (Secures.recorded_ask_then ?_ (fun accepted => ?_) fun e => ?_)
        · exact .inr ⟨_, [], rfl, rfl⟩
        · exact secures_letsGo_after rfl (List.prefix_append _ _) _
        · exact .inr ⟨_, _, rfl, rfl⟩

theorem secures_deregister_letsGo (engine : Engine) (strategy : Strategy) (s : State) :
    Secures recorded (fun _ y => LetsGo y) (fun _ _ y => LetsGo y) (deregister engine strategy) s
      [] := by
  have hnothing : Secures recorded (fun _ y => LetsGo y) (fun _ _ y => LetsGo y)
      (pure () : Process controlPlane State Unit) s [] := Secures.pure (.inl rfl)
  cases strategy with
  | standalone => exact hnothing
  | loadBalanced balancer =>
      apply Secures.state_bind
      cases s.registration with
      | none => exact hnothing
      | some registration =>
          cases registration with
          | discovery member => exact hnothing
          | target target =>
              have hread : Secures recorded (fun _ y => LetsGo y)
                  (fun _ _ y => [.issued (.deregistrationDelay target.group)] <+: y)
                  (groupDelay target.group) (s.setRegistration none) [] := by
                refine Secures.recorded_ask_bind (.inr ⟨_, [], rfl, rfl⟩) fun answer => ?_
                cases answer with
                | ok delay => exact Secures.pure (List.prefix_append _ _)
                | error e => exact Secures.pure (List.prefix_append _ _)
              exact Secures.modify_bind (Secures.bind hread fun _ _ _ hx =>
                secures_letsGo_after rfl hx _)
  | registry registry =>
      apply Secures.state_bind
      cases s.registration with
      | none => exact hnothing
      | some registration =>
          cases registration with
          | target target => exact hnothing
          | discovery member => exact Secures.modify_bind (secures_letsGo_ask rfl _)

/-- The stop of a canary begins with letting go. -/
theorem secures_stop_letsGo (engine : Engine) (spec : LaunchSpec) (strategy : Strategy)
    (s : State) :
    Secures recorded (fun _ y => LetsGo y) (fun _ _ y => LetsGo y)
      (task engine spec strategy).stop.run s [] := by
  refine Secures.run_then ((secures_deregister_letsGo engine strategy s).weaken ?_)
  intro _ t y hy
  rcases hy with rfl | ⟨r, rest, hr, rfl⟩
  · exact secures_stopTask_letsGo engine t
  · exact secures_letsGo_after hr ⟨rest, rfl⟩ _

/-- Until the body has ended nothing is let go of, and the cleanup begins for each canary with
letting go. -/
theorem Reaches.letsGo {attachments : Attachments} {body : Body S}
    (h : rollout.Reaches scope env progress w attachments body) :
    World.Concerns Retains w body.world ∧
      ∀ actor, LetsGo (deedsOf actor ((rollout.cleanUp env body).world.since body.world)) := by
  have hresolved := (asks_resolve rollout scope).run env .caller none
    { progress with diagnostics := {} } (World.Concerns.refl w)
  refine ⟨hresolved.trans h.concerns, fun actor => ?_⟩
  have hstops : Crew.Secures (fun _ _ y => LetsGo y) (fun _ _ _ y => LetsGo y)
      (fun i => body.world.deeds (some i))
      (body.canaries.entries.map fun e => (e.task.stop.run, e.state)) body.world := by
    refine ⟨fun i p s hi => ⟨[], (List.append_nil _).symm, .inl rfl, ?_⟩⟩
    obtain ⟨e, he, rfl, rfl⟩ := CanarySet.exists_of_crew hi
    obtain ⟨strategy, htask⟩ := h.staffs e (List.mem_of_getElem? he)
    rw [htask]
    exact secures_stop_letsGo ..
  obtain ⟨g, hg, hsecured⟩ := CanarySet.cleanupWithin_eq env .shielded
    rollout.engine.config.canary.cleanupTimeout hstops
  have hworld : (rollout.cleanUp env body).world = g.world := congrArg Aftermath.world hg
  rw [hworld]
  by_cases hactor : ∃ i < body.canaries.entries.length, actor = some i
  · obtain ⟨i, hi, rfl⟩ := hactor
    rw [← hsecured.length_eq] at hi
    obtain ⟨found, y, hy, hfound, -⟩ := hsecured.states i _ (List.getElem?_eq_getElem hi)
    rw [hsecured.follows.deedsOf_since hy]
    exact hfound.elim
  · have hsame := hsecured.others actor fun i hi hsome => hactor ⟨i, hi, hsome⟩
    exact .inl (hsecured.follows.deedsOf_since (hsame.trans (List.append_nil _).symm))

/-! ## The token in a cleanup -/

section Token

variable {ι : Interface} {env env' : Environment ι S} {w w' v v' : World ι S}

/-- The same control plane, except for when the token fires. -/
structure SameButToken (env env' : Environment ι S) : Prop where
  react : ∀ s now r, (env.react s now r).1.advance = (env'.react s now r).1.advance ∧
    (env.react s now r).1.yields = (env'.react s now r).1.yields ∧
      (env.react s now r).1.effect = (env'.react s now r).1.effect ∧
        (env.react s now r).2 = (env'.react s now r).2
  wake : ∀ s now, (env.wake s now).1.yields = (env'.wake s now).1.yields ∧
    (env.wake s now).2 = (env'.wake s now).2
  expires : env.expires = env'.expires

/-- What was done in a history, the firing of the token left out. -/
def doneIn (history : List (Entry ι)) : List (Entry ι) := history.filter (·.event.isDeed)

/-- The same was done in both worlds. -/
structure SameDone (w w' : World ι S) : Prop where
  clock : w.clock = w'.clock
  env : w.env = w'.env
  done : doneIn w.history = doneIn w'.history

@[simp] theorem doneIn_append (first rest : List (Entry ι)) :
    doneIn (first ++ rest) = doneIn first ++ doneIn rest := List.filter_append ..

@[simp] theorem doneIn_reverse (history : List (Entry ι)) :
    doneIn history.reverse = (doneIn history).reverse := List.filter_reverse ..

@[simp] theorem doneIn_fireIf (w : World ι S) (fires : Bool) :
    doneIn (w.fireIf fires).history = doneIn w.history := by
  unfold World.fireIf World.fire
  split
  · split
    · rfl
    · rfl
  · rfl

theorem SameDone.fireIf (h : SameDone w w') (fires fires' : Bool) :
    SameDone (w.fireIf fires) (w'.fireIf fires') :=
  ⟨by simp [h.clock], by simp [h.env], by simp [h.done]⟩

theorem SameDone.note (h : SameDone w w') (actor : Option Nat) (event : Event ι) :
    SameDone (w.note actor event) (w'.note actor event) := by
  refine ⟨h.clock, h.env, ?_⟩
  have hdone := h.done
  simp only [doneIn, World.note, List.filter_cons, h.clock] at hdone ⊢
  rw [hdone]

theorem SameButToken.couples (same : SameButToken env env') :
    Couples (fun _ => True) env env' .shielded SameDone where
  clock h := h.clock
  cancelled _ := rfl
  issue {w w' r} actor h _ := by
    have hnoted := h.note actor (.issued r)
    obtain ⟨hadvance, hyields, heffect, hstate⟩ := same.react w.env w.clock r
    simp only [World.issue, World.note, ← h.clock, ← h.env] at hnoted ⊢
    refine ⟨hyields, heffect, SameDone.fireIf ?_ _ _⟩
    exact ⟨by rw [hadvance], hstate, hnoted.done⟩
  sleep {w w'} actor d h := by
    have hnoted := h.note actor (.slept d)
    obtain ⟨hyields, hstate⟩ := same.wake w.env (w.clock.advance d)
    simp only [World.sleep, World.note, ← h.clock, ← h.env] at hnoted ⊢
    refine ⟨hyields, SameDone.fireIf ?_ _ _⟩
    exact ⟨rfl, hstate, hnoted.done⟩
  returned actor r answer h := h.note actor _

theorem SameDone.since (h : SameDone w w') (h' : SameDone v v') (hv : v.Follows w)
    (hv' : v'.Follows w') : doneIn (v.since w) = doneIn (v'.since w') := by
  have hdone := h'.done
  rw [hv.history_eq, hv'.history_eq, doneIn_append, doneIn_append, h.done,
    List.append_cancel_right_eq] at hdone
  simpa using hdone

end Token

/-- Whether and when the token fires changes nothing that a cleanup does or leaves. -/
theorem SameButToken.finish {env' : Environment controlPlane S} (same : SameButToken env env')
    {engine : Engine} {spec : LaunchSpec} {body : Body S}
    (hstaffs : Staffs engine spec body.canaries) (rollout : Rollout) (fired : Bool) :
    let late : Body S := { body with world := { body.world with fired } }
    let out := rollout.finish env body
    let out' := rollout.finish env' late
    doneIn (out.world.since body.world) = doneIn (out'.world.since late.world) ∧
      out.state = out'.state ∧ out.ending = out'.ending := by
  intro late out out'
  have hbegin : SameDone body.world late.world := ⟨rfl, rfl, rfl⟩
  have hasks := fun e he => (hstaffs.asks_stop e he).mono fun _ _ => trivial
  have hbudget : body.world.roundsWithin env rollout.engine.config.canary.cleanupTimeout =
      late.world.roundsWithin env' rollout.engine.config.canary.cleanupTimeout := by
    simp only [World.roundsWithin, same.expires, late]
  obtain ⟨ending, stopped, v, v', hclean, hclean', hv⟩ := CanarySet.cleanupWithin_coupled
    same.couples hasks hbudget hbegin
  have hcleaned : rollout.cleanUp env body = ⟨ending, stopped, v⟩ := hclean
  have hcleaned' : rollout.cleanUp env' late = ⟨ending, stopped, v'⟩ := hclean'
  have hfollows : v.Follows body.world := by
    have hconcerns := concerns_cleanUp rollout env body hstaffs
    rw [hcleaned] at hconcerns
    exact hconcerns.follows
  have hfollows' : v'.Follows late.world := by
    have hconcerns := concerns_cleanUp rollout env' late hstaffs
    rw [hcleaned'] at hconcerns
    exact hconcerns.follows
  have hdone := hbegin.since hv hfollows hfollows'
  unfold out out' Rollout.finish
  simp only [hcleaned, hcleaned']
  cases ending with
  | returned result => exact ⟨hdone, rfl, rfl⟩
  | panicked message => exact ⟨hdone, rfl, rfl⟩
  | hung => exact ⟨hdone, rfl, rfl⟩

/-! ## The whole rollout -/

/-- A cleanup cannot change what a rollout returns: two control planes that differ only from the
first release on lead to the same result, if neither lets the cleanup panic, and to the same flag in
any case. Nothing is released until the body has ended, and every canary's cleanup begins with a
release. From there on the caller's token makes no difference to what is done, warned of or
returned. -/
theorem cleanup_keeps_outcome (rollout : Rollout) (scope : RolloutScope) (progress : Progress)
    (env : Environment controlPlane S) (w : World controlPlane S) :
    (∀ {S' : Type} (env' : Environment controlPlane S') (alike : S → S' → Prop)
      (w' : World controlPlane S'), SameUntilRelease env env' alike → SameSoFar alike w w' →
        let out := rollout.rollOut env scope progress w
        let out' := rollout.rollOut env' scope progress w'
        out.state.serviceUpdated = out'.state.serviceUpdated ∧
          (rollout.CleansUp scope env progress w → rollout.CleansUp scope env' progress w' →
            out.ending = out'.ending)) ∧
      ∀ attachments body, rollout.Reaches scope env progress w attachments body →
        (World.Concerns Retains w body.world ∧
          ∀ actor, LetsGo (deedsOf actor ((rollout.cleanUp env body).world.since body.world))) ∧
        ∀ (env' : Environment controlPlane S) (fired : Bool), SameButToken env env' →
          let late : Body S := { body with world := { body.world with fired } }
          let out := rollout.finish env body
          let out' := rollout.finish env' late
          doneIn (out.world.since body.world) = doneIn (out'.world.since late.world) ∧
            out.state = out'.state ∧ out.ending = out'.ending := by
  refine ⟨fun env' alike w' same h => same.rollOut h rollout scope progress, ?_⟩
  intro attachments body hreached
  exact ⟨hreached.letsGo, fun env' fired same => same.finish hreached.staffs rollout fired⟩

/-- It never answers what lets go of anything. -/
def Bench.silent : Environment controlPlane Bench where
  react bench now r :=
    match r.role with
    | .releases => (⟨.zero, false, 0, .hang⟩, bench)
    | _ => Bench.environment.react bench now r
  wake := Bench.environment.wake

/-- It fires the token whenever it is asked for anything that lets go. -/
def Bench.hasty : Environment controlPlane Bench where
  react bench now r :=
    let (reaction, bench) := Bench.environment.react bench now r
    ({ reaction with fires := r.role == .releases }, bench)
  wake := Bench.environment.wake

theorem Bench.silent_same : SameUntilRelease Bench.environment Bench.silent Eq := by
  refine ⟨fun {s s'} now r hs hr => ?_, fun {s s'} now hs => ?_⟩
  · subst hs
    have hsame : Bench.silent.react s now r = Bench.environment.react s now r := by
      unfold Bench.silent
      dsimp only
      split
      · next hreleases => exact absurd hreleases hr
      · rfl
    rw [hsame]
    exact ⟨rfl, rfl⟩
  · subst hs
    exact ⟨rfl, rfl⟩

theorem Bench.hasty_same : SameButToken Bench.environment Bench.hasty :=
  ⟨fun _ _ _ => ⟨rfl, rfl, rfl, rfl⟩, fun _ _ => ⟨rfl, rfl⟩, rfl⟩

theorem sample_cleansUp :
    sample.CleansUp .taskDefinition Bench.environment {} Bench.world := by
  intro attachments body hreached message
  obtain ⟨result, hresult⟩ := sample_cleanUp_returns hreached
  rw [hresult]
  exact nofun

theorem sample_cleansUp_silent :
    sample.CleansUp .taskDefinition Bench.silent {} Bench.world := by
  intro attachments body hreached message
  obtain ⟨hresolved, rfl⟩ := hreached
  have hlive : Ending.returned (.ok Bench.sample.service.attachments) =
      (.returned (.ok attachments) : Ending (Except RolloutError Attachments)) := hresolved
  cases hlive
  exact nofun

theorem cleanup_keeps_sample :
    let out := sample.rollOut Bench.environment .taskDefinition {} Bench.world
    let silent := sample.rollOut Bench.silent .taskDefinition {} Bench.world
    (out.state.serviceUpdated = silent.state.serviceUpdated ∧ out.ending = silent.ending ∧
        silent.state.diagnostics.warnings.map (·.kind) = [.cleanupTimeout]) ∧
      ∃ body, sample.Reaches .taskDefinition Bench.environment {} Bench.world
          Bench.sample.service.attachments body ∧
        let late : Body Bench := { body with world := { body.world with fired := true } }
        (sample.finish Bench.environment body).state = (sample.finish Bench.hasty late).state := by
  intro out silent
  obtain ⟨hreleases, htoken⟩ :=
    cleanup_keeps_outcome sample .taskDefinition {} Bench.environment Bench.world
  obtain ⟨hflag, hending⟩ :=
    hreleases Bench.silent Eq Bench.world Bench.silent_same ⟨rfl, rfl, rfl, rfl⟩
  refine ⟨⟨hflag, hending sample_cleansUp sample_cleansUp_silent, rfl⟩, _, ⟨rfl, rfl⟩, ?_⟩
  exact ((htoken _ _ ⟨rfl, rfl⟩).2 Bench.hasty true Bench.hasty_same).2.1

end Rollout

end GatedRollout
