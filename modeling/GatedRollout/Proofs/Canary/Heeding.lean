import GatedRollout.Proofs.Canary.Extent
import GatedRollout.Proofs.Process.Firing

/-!
# How canaries heed the token

The wait of a canary that was launched pauses before it makes any call, and looks at the token in
its pauses alone. Where it finds the token fired, it gives up as cancelled.
-/

namespace GatedRollout

namespace Canary

open Attempt

/-- The error of a wait that was given up. -/
def Cancelled (e : TaskError) : Prop := e = .wait .cancelled

/-- The task was launched. -/
def Started (s : State) : Prop := ∃ arn, s.handle.taskArn = some arn

variable (engine : Engine) (spec : LaunchSpec) {before : Bool}

/-! ## The moves of a wait -/

theorem heeds_taskArn : taskArn.Heeds Cancelled Started before before := by
  refine .state_then fun s hs => ?_
  obtain ⟨arn, harn⟩ := hs
  rw [harn]
  exact .pure arn

theorem heeds_setPhase (phase : Phase) : (setPhase phase).Heeds Cancelled Started before before :=
  .modify fun _ hs => hs

theorem halts_cancelled {α : Type} (s : State) :
    (throw (.wait .cancelled) : Move α).run.Halts (fun result _ => GivesUp Cancelled result) s :=
  ⟨_, rfl, rfl⟩

/-- A failure after a call. -/
theorem heeds_throw {α : Type} (e : TaskError) :
    (throw e : Move α).Heeds Cancelled Started false false :=
  .known (.error e)

theorem heeds_waitRunning : (waitRunning engine).Heeds Cancelled Started before false := by
  refine .bind heeds_taskArn fun arn => .bind (.rest _ rfl) fun _ => ?_
  refine .bind (.within (engine.heeds_await _ _) fun e he => congrArg _ he) fun task => ?_
  exact .bind (heeds_setPhase .running) fun _ => .pure task

theorem heeds_ensureRunning : (ensureRunning engine).Heeds Cancelled Started before false := by
  refine .bind heeds_taskArn fun arn => .bind ?_ fun seen => .known _
  exact .bind (.ask _ _) fun tasks => .pure _

theorem heeds_waitContainerHealth :
    (waitContainerHealth engine spec).Heeds Cancelled Started false false := by
  refine .bind heeds_taskArn fun arn => ?_
  dsimp only
  split
  · exact .pure ()
  · refine .watch_then halts_cancelled fun watched => ?_
    cases watched with
    | settled result => exact .known result
    | _ => exact heeds_throw _

theorem heeds_networkIdentity (task : Task) :
    (networkIdentity engine task).Heeds Cancelled Started false false := by
  refine .state_then fun s _ => ?_
  cases s.handle.placement with
  | onDemand =>
      exact .bind (.known _) fun address => .bind (.ask _ _) fun subnet => .pure _
  | pinned host =>
      refine .bind (.ask _ _) fun container => .bind (.ask _ _) fun machine => ?_
      exact .bind (.ask _ _) fun subnet => .pure _

/-! ## The strategies -/

theorem heeds_verifyIdle : (verifyIdle engine spec).Heeds Cancelled Started before false := by
  refine .bind (heeds_waitRunning engine) fun _ => ?_
  refine .bind (heeds_waitContainerHealth engine spec) fun _ => ?_
  refine .bind (heeds_setPhase .verifying) fun _ => .bind heeds_taskArn fun _ => ?_
  refine .idle_then halts_cancelled ?_
  exact .bind (heeds_ensureRunning engine) fun _ => .pure ()

theorem heeds_verifyTarget (balancer : LoadBalancer) :
    (verifyTarget engine spec balancer).Heeds Cancelled Started before false := by
  refine .bind (heeds_waitRunning engine) fun task => ?_
  refine .bind (heeds_waitContainerHealth engine spec) fun _ => ?_
  refine .bind (heeds_setPhase .verifying) fun _ => .bind (.known _) fun port => ?_
  refine .bind (heeds_networkIdentity engine task) fun identity => .bind (.ask _ _) fun _ => ?_
  refine .bind (.modify fun _ hs => hs) fun _ => .watch_then halts_cancelled fun watched => ?_
  cases watched with
  | settled result => exact .known result
  | _ => exact heeds_throw _

theorem heeds_verifyInstance (registry : ServiceRegistry) :
    (verifyInstance engine spec registry).Heeds Cancelled Started before false := by
  refine .bind (heeds_waitRunning engine) fun task => ?_
  refine .bind (heeds_waitContainerHealth engine spec) fun _ => ?_
  refine .bind (heeds_setPhase .verifying) fun _ => .bind (.ask _ _) fun service => ?_
  refine .bind (.ask _ _) fun domain => .bind (.known _) fun port => ?_
  refine .bind (heeds_networkIdentity engine task) fun identity => .bind (.ask _ _) fun _ => ?_
  refine .bind (.modify fun _ hs => hs) fun _ => .bind (.ask _ _) fun _ => ?_
  refine .watch_then halts_cancelled fun watched => ?_
  cases watched with
  | settled u => exact .pure ()
  | _ => exact heeds_throw _

theorem heeds_verify (strategy : Strategy) :
    (verify engine spec strategy).Heeds Cancelled Started before false := by
  cases strategy with
  | standalone => exact heeds_verifyIdle engine spec
  | loadBalanced balancer => exact heeds_verifyTarget engine spec balancer
  | registry registry => exact heeds_verifyInstance engine spec registry

/-! ## Waits -/

theorem heeds_wait (strategy : Strategy) {s : State} (hs : Started s) (rested : Bool) :
    (task engine spec strategy).wait.run.Heeds (fun result _ => GivesUp Cancelled result)
      (fun rested _ _ => rested = false) rested s := by
  refine (heeds_verify engine spec strategy s rested hs id).bind ?_ ?_
  · exact fun result t hgave _ => hgave
  · intro now result t hcomes glimpse
    refine ⟨rfl, ?_⟩
    cases result with
    | ok u => exact Bool.eq_false_iff.mpr fun h => Bool.false_ne_true (hcomes.2 h)
    | error e => exact hcomes.2

theorem halts_waitRunning {s : State} (hs : Started s) :
    (waitRunning engine).run.Halts (fun result _ => GivesUp Cancelled result) s := by
  obtain ⟨⟨launched, placement, phase⟩, registration, warnings⟩ := s
  obtain ⟨arn, harn⟩ := hs
  obtain rfl : launched = some arn := harn
  refine Process.Obeys.bind (Q := fun result _ => result = .ok arn) (fun now => ?_) ?_
  · show Except.ok arn = Except.ok arn
    rfl
  · rintro _ t rfl
    exact ⟨_, rfl, rfl⟩

/-- Where the token has fired before it begins, the wait of a canary does nothing. -/
theorem halts_wait (strategy : Strategy) {s : State} (hs : Started s) :
    (task engine spec strategy).wait.run.Halts (fun result _ => GivesUp Cancelled result) s := by
  have hrunning := halts_waitRunning engine hs
  have hverify : (verify engine spec strategy).run.Halts
      (fun result _ => GivesUp Cancelled result) s := by
    cases strategy with
    | standalone => exact .attempt hrunning
    | loadBalanced balancer => exact .attempt hrunning
    | registry registry => exact .attempt hrunning
  exact hverify.bind fun result t hgave _ => hgave

/-! ## Starts -/

/-- A start makes one call at most, and never pauses. -/
theorem secures_start_wakeful (placement : Placement) :
    Secures recorded (fun _ y => Wakeful y) (fun _ _ y => Wakeful y) (start engine spec).run
      (State.fresh placement) [] := by
  have hissued : ∀ r : ControlPlane.Request, Wakeful ([] ++ [Event.issued (ι := controlPlane) r]) :=
    fun r => wakeful_nil.append rfl
  refine Secures.bind (Q := fun _ _ y => Wakeful y) (Secures.cancelled_then fun cancelled => ?_)
    fun _ _ _ h => Secures.modify_bind (Secures.pure h)
  cases cancelled with
  | true => exact Secures.attempt_throw wakeful_nil
  | false =>
      refine Secures.attempt (Q := fun _ _ y => Wakeful y)
        (Secures.state_then (Secures.modify_then ?_)) (fun _ _ _ h => Secures.attempt_pure h)
        fun _ _ _ h => h
      cases placement with
      | onDemand =>
          refine Secures.recorded_ask_then (hissued _) (fun task => ?_)
            fun e => (hissued _).append rfl
          exact Secures.modify_then (Secures.attempt_pure ((hissued _).append rfl))
      | pinned host =>
          refine Secures.recorded_ask_then (hissued _) (fun task => ?_)
            fun e => (hissued _).append rfl
          exact Secures.modify_then (Secures.attempt_pure ((hissued _).append rfl))

/-- A canary that was started was launched. -/
theorem started_of_visits {placement : Placement} {s : State} {y : Deeds}
    (h : Visits recorded (start engine spec).run (State.fresh placement) [] (some (.ok ())) s y) :
    Started s := by
  obtain ⟨arn, hstands⟩ := (secures_start engine spec .standalone placement).visits h
  exact ⟨arn, hstands.taskArn_eq⟩

/-! ## Sets -/

section Set

variable {S : Type} (env : Environment controlPlane S) (w : World controlPlane S)
  (d : TaskDefinition) (attachments : Attachments)

theorem sleepless_start (token : Token) :
    Sleepless (((Canary.set engine d attachments).start env token w).world.since w) := by
  let set := Canary.set engine d attachments
  have hstarts : Crew.Secures (fun _ _ y => Wakeful y) (fun _ _ _ y => Wakeful y)
      (fun i => w.deeds (some i)) (set.entries.map fun e => (e.task.start.run, e.state)) w := by
    refine ⟨fun i p s hi => ⟨[], (List.append_nil _).symm, wakeful_nil, ?_⟩⟩
    rw [List.getElem?_map, getElem?_set] at hi
    simp only [Option.map_map, Option.map_eq_some_iff] at hi
    obtain ⟨strategy, -, hps⟩ := hi
    cases hps
    exact secures_start_wakeful engine _ engine.placement
  have hsecured := CanarySet.secured_start env token hstarts
  refine sleepless_of_deedsOf fun actor => ?_
  by_cases hactor : ∃ i < set.entries.length, actor = some i
  · obtain ⟨i, hi, rfl⟩ := hactor
    obtain ⟨s, found, y, -, hy, hwakeful, -⟩ := hsecured.each i _ (List.getElem?_eq_getElem hi)
    rw [hsecured.follows.deedsOf_since hy]
    exact hwakeful.elim
  · have hsame := hsecured.others actor fun i hi hsome => hactor ⟨i, hi, hsome⟩
    rw [hsecured.follows.deedsOf_since (hsame.trans (List.append_nil _).symm)]
    exact wakeful_nil

/-- Where the token has fired, the first canary is not launched, and so none is. -/
theorem start_withheld (hfired : w.fired = true) :
    let started := (Canary.set engine d attachments).start env .caller w
    started.ending = .returned (.error (.wait .cancelled)) ∧ started.world = w := by
  obtain ⟨strategy, rest, hstrategies⟩ := List.exists_cons_of_ne_nil (strategies_ne_nil attachments)
  let spec := LaunchSpec.canary engine d attachments
  have hcancelled : w.cancelled .caller = true := hfired
  have hrun : run env .caller (some 0) (task engine spec strategy).start.run
      (State.fresh engine.placement) w =
        ⟨.returned (.error (.wait .cancelled)),
          (State.fresh engine.placement).setPhase .failed, w⟩ :=
    run_start_withheld hcancelled (some 0) _
  simp only [CanarySet.start, Canary.set, hstrategies, List.map_cons, CanarySet.startFrom]
  rw [hrun]
  exact ⟨rfl, rfl⟩

/-- From the end of the starts on, every canary heeds the token, whether it has fired or not. -/
theorem abides_wait (strategy : Strategy) {s : State} (hs : Started s)
    {v : View (Event controlPlane)} (hv : v = .unfired [] ∨ v = .fired [] []) :
    (Stage.ready (task engine spec strategy).wait.run).Abides (fun _ => True)
      (fun result _ => HeededBy true (GivesUp Cancelled) result) s v := by
  intro v' honward
  have hv' : v' = .unfired [] ∨ v' = .fired [] [] := by
    rcases hv with rfl | rfl
    · exact honward
    · exact .inr (honward.elim id id)
  rcases hv' with rfl | rfl
  · exact ((heeds_wait engine spec strategy hs true).abides_unfired fun _ => rfl).mono
      (fun _ _ _ => trivial) fun _ _ _ h => h
  · refine ((halts_wait engine spec strategy hs).abides rfl).mono (fun _ _ h => h) ?_
    intro result t v hhalted
    rw [hhalted.2]
    exact ⟨⟨wakeful_nil, fun _ => ⟨rfl, hhalted.1⟩, fun _ => rfl⟩, nofun⟩

theorem sees_wait
    (hstarted : ((Canary.set engine d attachments).start env .caller w).ending =
      .returned (.ok ())) :
    let started := (Canary.set engine d attachments).start env .caller w
    ∃ v, World.Sees started.world (started.state.wait env .caller started.world).world v ∧
      ∀ results, (fanOut env .caller
          (started.state.entries.map fun e => (e.task.wait.run, e.state))
          started.world).ending = .returned results →
        ∀ i result, (i, result) ∈ results →
          HeededBy true (GivesUp Cancelled) result (v.deedsOf (some i)) := by
  intro started
  have hlasts : ∀ _ : Nat, Lasts (fun _ => True) fun result (_ : State) =>
      HeededBy (ι := controlPlane) true (GivesUp Cancelled (α := Unit)) result :=
    fun _ => ⟨fun _ _ h _ => h, fun _ _ _ _ h hv => h.onward hv⟩
  have habides : ∀ (i : Nat) (p : Process controlPlane State (Except TaskError Unit)) (s : State),
      (started.state.entries.map fun e => (e.task.wait.run, e.state))[i]? = some (p, s) →
      (Stage.ready p).Abides (fun _ => True)
        (fun result _ => HeededBy true (GivesUp Cancelled) result) s
        (View.deedsOf (some i) (if started.world.fired then .fired [] [] else .unfired [])) := by
    intro i p s hi
    obtain ⟨e, he, rfl, rfl⟩ := CanarySet.exists_of_crew hi
    have hlt : i < started.state.entries.length := (List.getElem?_eq_some_iff.mp he).1
    rw [CanarySet.length_start, length_set] at hlt
    obtain ⟨t, ht, hvisits⟩ := CanarySet.visits_start hstarted (i := i)
      (by rw [getElem?_set, List.getElem?_eq_getElem hlt]; rfl)
    cases ht.symm.trans he
    refine abides_wait engine _ _ (started_of_visits engine _ hvisits) ?_
    cases started.world.fired with
    | true => exact .inr rfl
    | false => exact .inl rfl
  obtain ⟨v, hsees, -, hresults⟩ :=
    abides_fanOut env hlasts (World.sees_self started.world) habides
  refine ⟨v, hsees, fun results hreturned i result hmem => ?_⟩
  obtain ⟨s, hheeded⟩ := hresults results hreturned i result hmem
  exact hheeded

/-! ## Waits for started canaries -/

/-- The latest deed of a canary was a call of its verification: it was past its first pause, and in
none. -/
def Engaged (y : Deeds) : Prop :=
  ∃ e, y.getLast? = some e ∧ e.isCall (fun r : ControlPlane.Request => r.role != .launches) = true

theorem Engaged.of_append {x y : Deeds} (h : Engaged y) : Engaged (x ++ y) := by
  obtain ⟨e, hlast, hcall⟩ := h
  refine ⟨e, ?_, hcall⟩
  rw [List.getLast?_append, hlast]
  rfl

/-- What a wait for the started canaries has come to that returned this result, with the results of
the canaries. -/
structure Waited (engine : Engine) (d : TaskDefinition) (attachments : Attachments)
    (w started waited : World controlPlane S) (v : View (Entry controlPlane))
    (results : List (Nat × Except TaskError Unit)) : Prop where
  begun : started.Follows w
  sees : World.Sees started waited v
  each : ∀ i < (strategies attachments).length, ∃ r, (i, r) ∈ results
  actors : ∀ actor, deedsOf actor (waited.since started) ≠ [] →
    ∃ i r, actor = some i ∧ (i, r) ∈ results
  heeded : ∀ i r, (i, r) ∈ results → HeededBy true (GivesUp Cancelled) r (v.deedsOf (some i))
  concludes : ∀ i r, (i, r) ∈ results → ∃ strategy, (strategies attachments)[i]? = some strategy ∧
    Concludes engine (.canary engine d attachments) strategy r (deedsOf (some i) (waited.since w))

theorem waited {result : Except TaskError Unit} :
    let started := (Canary.set engine d attachments).start env .caller w
    let waited := started.state.wait env .caller started.world
    started.ending = .returned (.ok ()) → waited.ending = .returned result →
      ∃ v results, result = CanarySet.firstError results ∧
        Waited engine d attachments w started.world waited.world v results := by
  intro started waited hstarted hwaited
  obtain ⟨v, hsees, hheeded⟩ := sees_wait engine env w d attachments hstarted
  obtain ⟨results, hresults, hresult, heach, hconcludes⟩ := wait_extent hstarted hwaited
  have hsecured := CanarySet.secured_wait env .caller
    (Crew.secures_visits (started.state.entries.map fun e => (e.task.wait.run, e.state))
      started.world)
  have hbegun := ((staffs_set engine d attachments).concerns_start env .caller w).follows
  refine ⟨v, results, hresult, hbegun, hsees, fun i hi => ?_, fun actor hactor => ?_,
    hheeded results hresults, hconcludes⟩
  · exact heach i _ (List.getElem?_eq_getElem hi)
  · by_cases hcanary : ∃ i < started.state.entries.length, actor = some i
    · obtain ⟨i, hi, rfl⟩ := hcanary
      rw [CanarySet.length_start, length_set] at hi
      obtain ⟨r, hr⟩ := heach i _ (List.getElem?_eq_getElem hi)
      exact ⟨i, r, rfl, hr⟩
    · have hsame := hsecured.others actor fun i hi hsome => hcanary ⟨i, hi, hsome⟩
      exact absurd (hsecured.follows.deedsOf_since (hsame.trans (List.append_nil _).symm)) hactor

namespace Waited

variable {env w d attachments engine} {started waited : World controlPlane S}
  {v : View (Entry controlPlane)} {results : List (Nat × Except TaskError Unit)}
  {before after : List (Entry controlPlane)}
  (h : Waited engine d attachments w started waited v results)

include h

/-- Whoever has done something in the wait is a canary with a result. -/
theorem exists_result (hfires : FiresAt started.fired (waited.since started) before after)
    {actor : Option Nat} (hactor : deedsOf actor before ≠ [] ∨ deedsOf actor after ≠ []) :
    ∃ i r, actor = some i ∧ (i, r) ∈ results := by
  refine h.actors actor fun hnone => ?_
  rw [hfires.deedsOf_eq, List.append_eq_nil_iff] at hnone
  rcases hactor with hactor | hactor
  · exact hactor hnone.1
  · exact hactor hnone.2

/-- Where the token fires in a pause, every canary rests or has ended. So it does nothing more, and
gives up if it rested. -/
theorem rests (hfires : FiresAt started.fired (waited.since started) before after)
    (hpause : InPause before) {i : Nat} {r : Except TaskError Unit} (hr : (i, r) ∈ results) :
    deedsOf (some i) after = [] ∧
      (AtRest true (deedsOf (some i) before) → GivesUp Cancelled r) := by
  have hheeded := h.heeded i r hr
  rw [h.sees.eq_fired hfires] at hheeded
  obtain ⟨⟨-, hrest, hended⟩, -⟩ := hheeded
  refine ⟨?_, fun hatrest => (hrest hatrest).2⟩
  cases hlast : (deedsOf (some i) before).getLast? with
  | none => exact (hrest (.inl ⟨rfl, List.getLast?_eq_none_iff.mp hlast⟩)).1
  | some e =>
      cases e with
      | issued r' => exact absurd hlast (hpause.unanswered (some i) r')
      | returned r' answer => exact hended ⟨r', answer, hlast⟩
      | slept duration => exact (hrest (.inr ⟨duration, hlast⟩)).1
      | fired => exact absurd (of_mem_deedsOf (List.mem_of_getLast? hlast)).1 nofun

/-- Where the token fires in a pause, the wait fails as cancelled, or with the error of a canary
that had failed before. -/
theorem paused (hfires : FiresAt started.fired (waited.since started) before after)
    (hpause : InPause before) :
    after = [] ∧ ∃ error, CanarySet.firstError results = .error error ∧
      (Cancelled error ∨ ∃ i strategy, (strategies attachments)[i]? = some strategy ∧
        Concludes engine (.canary engine d attachments) strategy (.error error)
          (deedsOf (some i) (started.since w ++ before))) := by
  refine ⟨eq_nil_of_deedsOf (fun actor => ?_) (h.sees.once hfires), ?_⟩
  · refine Decidable.byContradiction fun hactor => ?_
    obtain ⟨i, r, rfl, hr⟩ := h.exists_result hfires (.inr hactor)
    exact hactor (h.rests hfires hpause hr).1
  · obtain ⟨actor, duration, hlast⟩ := hpause.asleep.exists_actor
    have hslept : deedsOf actor before ≠ [] := fun hnil => by simp [hnil] at hlast
    obtain ⟨i, r, rfl, hr⟩ := h.exists_result hfires (.inl hslept)
    -- The canary that had fallen asleep fails, so the wait does.
    obtain ⟨e, rfl, -⟩ := (h.rests hfires hpause hr).2 (.inr ⟨duration, hlast⟩)
    cases hfirst : CanarySet.firstError results with
    | ok u => cases CanarySet.firstError_ok hfirst hr
    | error error =>
        obtain ⟨j, hj⟩ := CanarySet.firstError_error hfirst
        obtain ⟨hnone, hgave⟩ := h.rests hfires hpause hj
        refine ⟨error, rfl, ?_⟩
        by_cases hatrest : AtRest true (deedsOf (some j) before)
        · obtain ⟨_, hsame, hcancelled⟩ := hgave hatrest
          cases hsame
          exact .inl hcancelled
        obtain ⟨strategy, hstrategy, hconcludes⟩ := h.concludes j _ hj
        refine .inr ⟨j, strategy, hstrategy, ?_⟩
        rwa [h.begun.since_trans h.sees.follows, deedsOf_append, hfires.deedsOf_eq, hnone,
          List.append_nil, ← deedsOf_append] at hconcludes

/-- Where the wait succeeds, the token fires in no pause: no canary was at rest, and none pauses
again. -/
theorem engaged (hfires : FiresAt started.fired (waited.since started) before after)
    (hok : CanarySet.firstError results = .ok ())
    (hwaits : ∀ e ∈ waited.since started, e.event.Concerns Waits) :
    Sleepless after ∧ ¬EndsAsleep before ∧
      ∀ i < (strategies attachments).length, Engaged (deedsOf (some i) before) := by
  have hheeded : ∀ i r, (i, r) ∈ results → Wakeful (deedsOf (some i) after) ∧
      ¬AtRest true (deedsOf (some i) before) := by
    intro i r hr
    have hheeded := h.heeded i r hr
    rw [h.sees.eq_fired hfires] at hheeded
    obtain ⟨⟨hwakeful, hrest, -⟩, -⟩ := hheeded
    refine ⟨hwakeful, fun hatrest => ?_⟩
    obtain ⟨e, rfl, -⟩ := (hrest hatrest).2
    cases CanarySet.firstError_ok hok hr
  refine ⟨sleepless_of_deedsOf fun actor => ?_, fun hasleep => ?_, fun i hi => ?_⟩
  · by_cases hactor : deedsOf actor after = []
    · rw [hactor]
      exact wakeful_nil
    · obtain ⟨i, r, rfl, hr⟩ := h.exists_result hfires (.inr hactor)
      exact (hheeded i r hr).1
  · obtain ⟨actor, duration, hlast⟩ := hasleep.exists_actor
    have hslept : deedsOf actor before ≠ [] := fun hnil => by simp [hnil] at hlast
    obtain ⟨i, r, rfl, hr⟩ := h.exists_result hfires (.inl hslept)
    exact (hheeded i r hr).2 (.inr ⟨duration, hlast⟩)
  · obtain ⟨r, hr⟩ := h.each i hi
    have hatrest := (hheeded i r hr).2
    cases hlast : (deedsOf (some i) before).getLast? with
    | none => exact absurd (.inl ⟨rfl, List.getLast?_eq_none_iff.mp hlast⟩) hatrest
    | some e =>
        obtain ⟨hdeed, entry, hentry, -, rfl⟩ := of_mem_deedsOf (List.mem_of_getLast? hlast)
        have hconcerns := hwaits entry (hfires.mem (.inl hentry))
        refine ⟨_, hlast, ?_⟩
        cases hevent : entry.event with
        | issued r =>
            rw [hevent] at hconcerns
            exact bne_iff_ne.mpr (ne_launches_of_waits r hconcerns)
        | returned r answer =>
            rw [hevent] at hconcerns
            exact bne_iff_ne.mpr (ne_launches_of_waits r hconcerns)
        | slept duration => exact absurd (.inr ⟨duration, hevent ▸ hlast⟩) hatrest
        | fired => simp [hevent, Event.isDeed] at hdeed

/-- As long as the token has not fired, a wait that returns does not end with a pause. -/
theorem not_endsAsleep (hunfired : waited.fired = false) :
    ¬EndsAsleep (waited.since started) := by
  intro hasleep
  obtain ⟨actor, duration, hlast⟩ := hasleep.exists_actor
  obtain ⟨i, r, rfl, hr⟩ := h.actors actor fun hnil => by simp [hnil] at hlast
  have hheeded := h.heeded i r hr
  have hsees := h.sees
  cases hsees with
  | unfired => exact hheeded.2 _ rfl (.inr ⟨duration, hlast⟩)
  | fired _ hfired _ _ => exact Bool.false_ne_true (hunfired.symm.trans hfired)

/-- A wait that returns heeds the token. -/
theorem heeds : World.Heeds started waited fun before =>
    ∃ error, CanarySet.firstError results = .error error ∧
      (Cancelled error ∨ ∃ i strategy, (strategies attachments)[i]? = some strategy ∧
        Concludes engine (.canary engine d attachments) strategy (.error error)
          (deedsOf (some i) (started.since w ++ before))) where
  sees := ⟨v, h.sees⟩
  paused := h.paused
  awake := h.not_endsAsleep

end Waited

end Set

end Canary

end GatedRollout
