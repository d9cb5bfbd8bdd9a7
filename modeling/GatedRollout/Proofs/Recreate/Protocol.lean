import GatedRollout.Proofs.ControlPlane.Mutation
import GatedRollout.Proofs.Wait.Await
import GatedRollout.Recreate.Basic

/-!
# The protocol of a recreation

A recreation works off a plan of eight steps. Its progress is a number of settled steps, and
perhaps one more that is under way: `Reached` says the first of a trace and of the steps recorded,
`Underway` the second. One lemma for each kind of change leads from `Reached` at a number to
`Reached` at the next, and the transition is the chain of the eight.
-/

namespace GatedRollout.Recreation

/-- A description of a service arrives. -/
def described (cluster : String) (name : ServiceName) (reply : Option Service) :
    Event controlPlane :=
  .returned (.describeService cluster name) (.ok reply)

/-! ## Plans -/

/-- A step as it is planned: what is requested, what is recorded of it, and which description of
its service confirms it. -/
structure Planned where
  step : RecreateStep
  service : ServiceName
  count : UInt32
  request : ControlPlane.Request
  confirms : Option Service → Bool

/-- A service that is stable. -/
def isUp : Option Service → Bool
  | some service => service.isStable
  | none => false

/-- A service that is inactive or absent. -/
def isGone : Option Service → Bool
  | some service => service.isInactive
  | none => true

variable (recreation : Recreation)

def created (step : RecreateStep) (name : ServiceName) : Planned where
  step := step
  service := name
  count := 1
  request := .createService
    { cluster := recreation.engine.cluster
      taskDefinition := recreation.taskDefinition.arn
      definition := { recreation.definition with serviceName := name, desiredCount := 1 } }
  confirms := isUp

def scaled (step : RecreateStep) (name : ServiceName) (count : UInt32) : Planned where
  step := step
  service := name
  count := count
  request := .updateService
    { cluster := recreation.engine.cluster, service := name, desiredCount := some count }
  confirms := isUp

def deleted (step : RecreateStep) (name : ServiceName) : Planned where
  step := step
  service := name
  count := 0
  request := .deleteService recreation.engine.cluster name
  confirms := isGone

/-- The eight steps from the old service, at its desired count, to the final one. -/
def plan (old transit : ServiceName) (count : UInt32) : List Planned :=
  [recreation.created .createTransit transit, recreation.scaled .scaleTransit transit count,
    recreation.scaled .drainOld old 0, recreation.deleted .deleteOld old,
    recreation.created .createFinal old, recreation.scaled .scaleFinal old count,
    recreation.scaled .drainTransit transit 0, recreation.deleted .deleteTransit transit]

namespace Planned

/-- What is recorded of the step once it is complete. -/
def record (p : Planned) : TransitionStep := ⟨p.step, p.service, p.count⟩

/-- In what follows its request, the step was accepted, and a later description of its service
confirms it. -/
def Settled (cluster : String) (p : Planned) (window : Deeds) : Prop :=
  ∃ accepted reply, [Event.returned (ι := controlPlane) p.request (.ok accepted),
    described cluster p.service reply].Sublist window ∧ p.confirms reply = true

end Planned

/-! ## Progress -/

/-- So many steps of a plan are settled and recorded, and no other has begun. -/
structure Reached (cluster : String) (plan : List Planned) (k : Nat) (steps : Steps)
    (trace : Deeds) : Prop where
  le_length : k ≤ plan.length
  issued : mutations trace = (plan.take k).map (·.request)
  settled : ∀ i p, i < k → plan[i]? = some p →
    ∃ window, (windows trace)[i]? = some window ∧ p.Settled cluster window
  steps_eq : steps = (plan.take k).map (·.record)

/-- So many steps of a plan are settled and recorded, and the next has begun. -/
def Underway (cluster : String) (plan : List Planned) (k : Nat) (steps : Steps) (trace : Deeds) :
    Prop :=
  ∃ p past window, plan[k]? = some p ∧ Reached cluster plan k steps past ∧
    trace = past ++ Event.issued p.request :: window ∧ mutations window = [] ∧
      ¬p.Settled cluster window

def Progress (cluster : String) (plan : List Planned) (steps : Steps) (trace : Deeds) : Prop :=
  ∃ k, Reached cluster plan k steps trace ∨ Underway cluster plan k steps trace

section Progress

variable {cluster : String} {plan : List Planned} {k : Nat} {p : Planned} {steps : Steps}
  {past trace : Deeds}

theorem Reached.length_steps (h : Reached cluster plan k steps trace) : steps.length = k := by
  rw [h.steps_eq, List.length_map, List.length_take, Nat.min_eq_left h.le_length]

theorem Reached.length_windows (h : Reached cluster plan k steps trace) :
    (windows trace).length = k := by
  rw [GatedRollout.length_windows, h.issued, List.length_map, List.length_take,
    Nat.min_eq_left h.le_length]

/-- A step that has settled and is recorded adds one to what is reached. -/
theorem Reached.advance (h : Reached cluster plan k steps past) (hp : plan[k]? = some p)
    (hmutates : p.request.isRead = false) {window : Deeds} (hwindow : mutations window = [])
    (hsettled : p.Settled cluster window) :
    Reached cluster plan (k + 1) (steps ++ [p.record])
      (past ++ Event.issued p.request :: window) := by
  have hlt : k < plan.length := (List.getElem?_eq_some_iff.mp hp).1
  have htake : plan.take (k + 1) = plan.take k ++ [p] := by
    rw [List.take_add_one, hp]
    rfl
  have hwindows : windows (past ++ Event.issued p.request :: window) =
      windows past ++ [window] := by
    rw [windows_append_issued past window hmutates, windows_issued hmutates hwindow]
  refine ⟨hlt, ?_, ?_, by rw [htake, h.steps_eq, List.map_append]; rfl⟩
  · rw [← List.singleton_append, mutations_append, mutations_append, mutations_issued hmutates,
      hwindow, h.issued, htake, List.map_append]
    rfl
  · intro i q hi hq
    rw [hwindows]
    rcases Nat.lt_succ_iff_lt_or_eq.mp hi with hlt | rfl
    · rw [List.getElem?_append_left (by rw [h.length_windows]; exact hlt)]
      exact h.settled i q hlt hq
    · refine ⟨window, ?_, Option.some.inj (hp.symm.trans hq) ▸ hsettled⟩
      rw [List.getElem?_append_right (Nat.le_of_eq h.length_windows), h.length_windows,
        Nat.sub_self]
      rfl

/-- While no description has confirmed a step, it has not settled. -/
theorem not_settled_of_pending {watched : Deeds}
    (hwatched : ∀ reply, described cluster p.service reply ∈ watched → p.confirms reply = false)
    (accepted : controlPlane.Reply p.request) :
    ¬p.Settled cluster (.returned p.request (.ok accepted) :: watched) := by
  rintro ⟨_, reply, hsub, hconfirms⟩
  have hmem : described cluster p.service reply ∈ watched := by
    rcases List.sublist_cons_iff.mp hsub with hsub | ⟨tail, htail, hsub⟩
    · exact hsub.subset (by simp)
    · rw [(List.cons.inj htail).2.symm] at hsub
      exact hsub.subset (by simp)
  rw [hwatched reply hmem] at hconfirms
  cases hconfirms

/-- What a step leaves: it is reached, or still under way where it gave up. -/
def Moved {β : Type} (cluster : String) (plan : List Planned) (k : Nat) (p : Planned) :
    Except RecreateError β → Steps → Deeds → Prop
  | .ok _, steps, trace => Reached cluster plan (k + 1) steps trace
  | .error e, steps, trace => Underway cluster plan k steps trace ∧ e.step = some p.step

/-- Issue the request of a step and go on where it is accepted. -/
theorem Reached.secures_change {β : Type} {confirm : Move β} (h : Reached cluster plan k steps past)
    (hp : plan[k]? = some p)
    (hconfirm : ∀ accepted, Secures recorded (Progress cluster plan) (Moved cluster plan k p)
      confirm.run steps
        (past ++ [Event.issued p.request, Event.returned p.request (.ok accepted)])) :
    Secures recorded (Progress cluster plan) (Moved cluster plan k p)
      (Attempt.ask (ι := controlPlane) p.request (RecreateError.mutate p.step p.service) >>=
        fun _ => confirm).run steps past := by
  have hunsettled : ∀ window : Deeds, window.length < 2 → ¬p.Settled cluster window := by
    intro window hlength hsettled
    obtain ⟨_, _, hsub, _⟩ := hsettled
    exact absurd hsub.length_le (by simpa using hlength)
  refine Secures.recorded_ask_then
    ⟨k, .inr ⟨p, past, [], hp, h, rfl, rfl, hunsettled [] (by simp)⟩⟩ (fun accepted => ?_)
    (fun e => ?_)
  · rw [List.append_assoc]
    exact hconfirm accepted
  · exact ⟨⟨p, past, [.returned p.request (.error e)], hp, h, by simp, rfl,
      hunsettled _ (by simp)⟩, rfl⟩

/-- Watch the service of a step until a description confirms it, and record the step. -/
theorem Reached.secures_confirm {β : Type} (h : Reached cluster plan k steps past)
    (hp : plan[k]? = some p) (hmutates : p.request.isRead = false)
    (accepted : controlPlane.Reply p.request) (engine : Engine) (what : String)
    (interval limit : Duration) {judge : Option Service → Judgement (Except WaitError β) String}
    (hjudge : ∀ reply, p.confirms reply = Engine.succeeds (judge reply)) :
    Secures recorded (Progress cluster plan) (Moved cluster plan k p)
      (do
        let b ← (engine.await (σ := Steps) what
          ⟨.describeService cluster p.service, interval, limit, "", fun _ => judge⟩).within
            (RecreateError.settle p.step p.service)
        record p.step p.service p.count
        return b : Move β).run
      steps (past ++ [Event.issued p.request, Event.returned p.request (.ok accepted)]) := by
  let watch : Watch controlPlane (Except WaitError β) String :=
    ⟨.describeService cluster p.service, interval, limit, "", fun _ => judge⟩
  let window (es : Deeds) : Deeds := .returned p.request (.ok accepted) :: es
  have hpends : ∀ es, watch.Pends es → mutations es = [] ∧
      ∀ reply, described cluster p.service reply ∈ es → p.confirms reply = false := by
    intro es hes
    refine ⟨mutations_of_about rfl fun e he => (hes e he).1, fun reply hreply => ?_⟩
    obtain ⟨seen, seen', hpending⟩ := (hes _ hreply).2 reply rfl
    rw [hjudge reply, show judge reply = .pending seen' from hpending]
    rfl
  have hunderway : ∀ es, mutations es = [] →
      (∀ reply, described cluster p.service reply ∈ es → p.confirms reply = false) →
        Underway cluster plan k steps
          (past ++ [Event.issued p.request, Event.returned p.request (.ok accepted)] ++ es) :=
    fun es hes hreplies => ⟨p, past, window es, hp, h, by simp [window], hes,
      not_settled_of_pending hreplies accepted⟩
  refine Secures.attempt (Q := fun result steps' trace => match result with
    | .ok _ => steps' = steps ∧ ∃ es, trace = past ++ Event.issued p.request :: window es ∧
        mutations es = [] ∧ p.Settled cluster (window es)
    | .error e => Underway cluster plan k steps' trace ∧ e.step = some p.step) ?_ ?_ ?_
  · refine Secures.attempt_within (Engine.secures_await_recorded engine what watch ?_ ?_)
    · exact fun es hes => ⟨k, .inr (hunderway es (hpends es hes).1 (hpends es hes).2)⟩
    · rintro es result (⟨before, seen, reply, rfl, hbefore, hsettled⟩ | ⟨hes, e, rfl⟩)
      · obtain ⟨hquiet, hreplies⟩ := hpends before hbefore
        have hsettled : judge reply = .settled result := hsettled
        have hwindow : mutations (before ++ [described cluster p.service reply]) = [] := by
          rw [mutations_append, hquiet]
          rfl
        cases result with
        | ok b =>
            refine ⟨rfl, before ++ [described cluster p.service reply],
              by simp [window, described, watch], hwindow, accepted, reply, ?_,
              by rw [hjudge reply, hsettled]; rfl⟩
            exact (List.singleton_sublist.mpr (by simp)).cons_cons _
        | error e =>
            refine ⟨hunderway _ hwindow fun reply' hreply' => ?_, rfl⟩
            rcases List.mem_append.mp hreply' with hmem | hmem
            · exact hreplies reply' hmem
            · have hsame : reply' = reply := by simpa [described, watch] using hmem
              rw [hsame, hjudge reply, hsettled]
              rfl
      · exact ⟨hunderway es (hpends es hes).1 (hpends es hes).2, rfl⟩
  · rintro b _ _ ⟨rfl, es, rfl, hes, hsettled⟩
    exact Secures.modify_then (Secures.attempt_pure (h.advance hp hmutates hes hsettled))
  · exact fun e steps' trace hmid => hmid

end Progress

/-! ## The changes of a step -/

variable {recreation : Recreation} {plan : List Planned} {k : Nat} {step : RecreateStep}
  {name : ServiceName} {count : UInt32} {steps : Steps} {trace : Deeds}

theorem isUp_eq_succeeds (name : ServiceName) (reply : Option Service) :
    isUp reply = Engine.succeeds (Engine.judgeStable name reply) := by
  cases reply with
  | none => rfl
  | some service =>
      by_cases hinactive : service.isInactive = true
      · have hstatus : service.status = .inactive := by simpa [Service.isInactive] using hinactive
        simp [isUp, Engine.judgeStable, Engine.succeeds, hinactive, Service.isStable, hstatus]
      · by_cases hstable : service.isStable = true
        · simp [isUp, Engine.judgeStable, Engine.succeeds, hinactive, hstable]
        · simp [isUp, Engine.judgeStable, Engine.succeeds, hinactive, hstable]

theorem isGone_eq_succeeds (reply : Option Service) :
    isGone reply = Engine.succeeds (Engine.judgeInactive reply) := by
  cases reply with
  | none => rfl
  | some service =>
      by_cases hinactive : service.isInactive = true
      · simp [isGone, Engine.judgeInactive, Engine.succeeds, hinactive]
      · simp [isGone, Engine.judgeInactive, Engine.succeeds, hinactive]

theorem Reached.secures_create (h : Reached recreation.engine.cluster plan k steps trace)
    (hp : plan[k]? = some (recreation.created step name)) :
    Secures recorded (Progress recreation.engine.cluster plan)
      (Moved recreation.engine.cluster plan k (recreation.created step name))
      (recreation.create step name).run steps trace :=
  h.secures_change hp fun accepted => h.secures_confirm hp rfl accepted _ _ _ _
    (isUp_eq_succeeds name)

theorem Reached.secures_scale (h : Reached recreation.engine.cluster plan k steps trace)
    (hp : plan[k]? = some (recreation.scaled step name count)) :
    Secures recorded (Progress recreation.engine.cluster plan)
      (Moved recreation.engine.cluster plan k (recreation.scaled step name count))
      (recreation.scale step name count).run steps trace :=
  h.secures_change hp fun accepted => h.secures_confirm hp rfl accepted _ _ _ _
    (isUp_eq_succeeds name)

theorem Reached.secures_delete (h : Reached recreation.engine.cluster plan k steps trace)
    (hp : plan[k]? = some (recreation.deleted step name)) :
    Secures recorded (Progress recreation.engine.cluster plan)
      (Moved recreation.engine.cluster plan k (recreation.deleted step name))
      (recreation.delete step name).run steps trace :=
  h.secures_change hp fun accepted => h.secures_confirm hp rfl accepted _ _ _ _
    isGone_eq_succeeds

/-! ## The transition -/

/-- What the transition leaves: the whole plan settled, or the step under way at which it gave
up. -/
def Transited {β : Type} (cluster : String) (plan : List Planned) :
    Except RecreateError β → Steps → Deeds → Prop
  | .ok _, steps, trace => Reached cluster plan plan.length steps trace
  | .error e, steps, trace => ∃ k p, plan[k]? = some p ∧ Underway cluster plan k steps trace ∧
      e.step = some p.step

/-- Go on from one step of a plan to the next. -/
theorem secures_next {β γ : Type} {cluster : String} {p : Planned} {first : Move β}
    {rest : β → Move γ} (hp : plan[k]? = some p)
    (hfirst : Secures recorded (Progress cluster plan) (Moved cluster plan k p) first.run steps
      trace)
    (hrest : ∀ b steps trace, Reached cluster plan (k + 1) steps trace →
      Secures recorded (Progress cluster plan) (Transited cluster plan) (rest b).run steps trace) :
    Secures recorded (Progress cluster plan) (Transited cluster plan) (first >>= rest).run steps
      trace :=
  hfirst.attempt hrest fun _ _ _ hmoved => ⟨k, p, hp, hmoved⟩

theorem secures_transition (old transit : ServiceName) (count : UInt32)
    (h : Reached recreation.engine.cluster (recreation.plan old transit count) 0 steps trace) :
    Secures recorded (Progress recreation.engine.cluster (recreation.plan old transit count))
      (Transited recreation.engine.cluster (recreation.plan old transit count))
      (recreation.transition old transit count).run steps trace := by
  refine secures_next rfl (h.secures_create rfl) fun _ _ _ h => ?_
  refine secures_next rfl (h.secures_scale rfl) fun _ _ _ h => ?_
  refine secures_next rfl (h.secures_scale rfl) fun _ _ _ h => ?_
  refine secures_next rfl (h.secures_delete rfl) fun _ _ _ h => ?_
  refine secures_next rfl (h.secures_create rfl) fun _ _ _ h => ?_
  refine secures_next rfl (h.secures_scale rfl) fun _ _ _ h => ?_
  refine secures_next rfl (h.secures_scale rfl) fun _ _ _ h => ?_
  exact secures_next rfl (h.secures_delete rfl) fun _ _ _ h => Secures.attempt_pure h

/-! ## Whole recreations -/

/-- A trace and the steps recorded are as a plan says. -/
structure FollowsPlan (cluster : String) (plan : List Planned) (trace : Deeds) (steps : Steps) :
    Prop where
  issued : mutations trace <+: plan.map (·.request)
  /-- Every mutation but the first is issued only once the one before it has settled. -/
  gated : ∀ i p window, plan[i]? = some p → (windows trace)[i]? = some window →
    i + 1 < (mutations trace).length → p.Settled cluster window
  steps_eq : steps = (plan.take steps.length).map (·.record)
  /-- Exactly the steps that have settled are recorded. -/
  complete : ∀ i p, plan[i]? = some p →
    (i < steps.length ↔ ∃ window, (windows trace)[i]? = some window ∧ p.Settled cluster window)

theorem Reached.followsPlan {cluster : String} (h : Reached cluster plan k steps trace) :
    FollowsPlan cluster plan trace steps := by
  refine ⟨?_, ?_, by rw [h.length_steps]; exact h.steps_eq, ?_⟩
  · rw [h.issued]
    exact (List.take_prefix k plan).map _
  · intro i p window hp hwindow hi
    rw [← GatedRollout.length_windows, h.length_windows] at hi
    obtain ⟨window', hwindow', hsettled⟩ := h.settled i p (by omega) hp
    rw [hwindow'] at hwindow
    exact Option.some.inj hwindow ▸ hsettled
  · intro i p hp
    rw [h.length_steps]
    refine ⟨fun hi => h.settled i p hi hp, fun ⟨window, hwindow, _⟩ => ?_⟩
    rw [← h.length_windows]
    exact (List.getElem?_eq_some_iff.mp hwindow).1

theorem Underway.followsPlan {cluster : String} (h : Underway cluster plan k steps trace)
    (hplan : ∀ p ∈ plan, p.request.isRead = false) :
    steps.length = k ∧ FollowsPlan cluster plan trace steps := by
  obtain ⟨p, past, window, hp, hreached, rfl, hwindow, hunsettled⟩ := h
  have hmutates := hplan p (List.mem_of_getElem? hp)
  have hwindows : windows (past ++ Event.issued p.request :: window) =
      windows past ++ [window] := by
    rw [windows_append_issued past window hmutates, windows_issued hmutates hwindow]
  have hold : ∀ i, i < k → (windows past ++ [window])[i]? = (windows past)[i]? := fun i hi =>
    List.getElem?_append_left (by rw [hreached.length_windows]; exact hi)
  have hissued : mutations (past ++ Event.issued p.request :: window) =
      (plan.take (k + 1)).map (·.request) := by
    rw [← List.singleton_append, mutations_append, mutations_append, mutations_issued hmutates,
      hwindow, hreached.issued, List.take_add_one, hp, List.map_append]
    rfl
  refine ⟨hreached.length_steps, ⟨?_, ?_, ?_, ?_⟩⟩
  · rw [hissued]
    exact (List.take_prefix _ plan).map _
  · intro i q window' hq hwindow' hi
    rw [← length_windows, hwindows, List.length_append, hreached.length_windows] at hi
    have hik : i < k := by simpa using hi
    rw [hwindows, hold i hik] at hwindow'
    obtain ⟨window'', hwindow'', hsettled⟩ := hreached.settled i q hik hq
    rw [hwindow''] at hwindow'
    exact Option.some.inj hwindow' ▸ hsettled
  · rw [hreached.length_steps]
    exact hreached.steps_eq
  · intro i q hq
    rw [hreached.length_steps, hwindows]
    constructor
    · intro hi
      rw [hold i hi]
      exact hreached.settled i q hi hq
    · rintro ⟨window', hwindow', hsettled⟩
      have hle : i < k + 1 := by
        have := (List.getElem?_eq_some_iff.mp hwindow').1
        rwa [List.length_append, hreached.length_windows] at this
      rcases Nat.lt_succ_iff_lt_or_eq.mp hle with hlt | rfl
      · exact hlt
      · -- The window of the step under way is the last one, and has not settled.
        rw [List.getElem?_append_right (Nat.le_of_eq hreached.length_windows),
          hreached.length_windows, Nat.sub_self] at hwindow'
        obtain rfl := Option.some.inj hwindow'
        exact absurd (Option.some.inj (hp.symm.trans hq) ▸ hsettled) hunsettled

theorem plan_mutates (old transit : ServiceName) (count : UInt32) :
    ∀ p ∈ recreation.plan old transit count, p.request.isRead = false := by
  simp [plan, created, scaled, deleted, ControlPlane.Request.isRead]

theorem plan_steps (old transit : ServiceName) (count : UInt32) :
    (recreation.plan old transit count).map (·.step) = RecreateStep.all := rfl

/-- The plan for the old service as it was described, with the transit service named at this
instant. -/
def planFor (recreation : Recreation) (old : Service) (now : Instant) : List Planned :=
  recreation.plan recreation.engine.service
    (recreation.engine.service.transit (Calendar.stamp now)) old.desiredCount

/-- The trace begins with the description of the old service, which is not inactive. -/
def Begins (recreation : Recreation) (old : Service) (trace : Deeds) : Prop :=
  old.isInactive = false ∧
    [.issued (.describeService recreation.engine.cluster recreation.engine.service),
      described recreation.engine.cluster recreation.engine.service (some old)] <+: trace

/-- Nothing has been changed, and nothing is recorded. -/
def Unbegun (steps : Steps) (trace : Deeds) : Prop := mutations trace = [] ∧ steps = []

/-- What a recreation leaves: the services as they were, or as far as the plan was followed. -/
def Concluded (recreation : Recreation) :
    Except RecreateError Result → Steps → Deeds → Prop
  | .error e, steps, trace => Unbegun steps trace ∧ e.step = none ∨
      ∃ old now, recreation.Begins old trace ∧
        Transited recreation.engine.cluster (recreation.planFor old now)
          (.error e : Except RecreateError Result) steps trace
  | .ok result, steps, trace => result.steps = steps ∧
      ∃ old now, recreation.Begins old trace ∧
        Transited recreation.engine.cluster (recreation.planFor old now) (.ok result) steps trace

/-- What holds of the steps recorded while a recreation waits. -/
def Continues (recreation : Recreation) (steps : Steps) (trace : Deeds) : Prop :=
  Unbegun steps trace ∨ ∃ old now, recreation.Begins old trace ∧
    Progress recreation.engine.cluster (recreation.planFor old now) steps trace

theorem Continues.follows (h : recreation.Continues steps trace) :
    Unbegun steps trace ∨ ∃ old now, recreation.Begins old trace ∧
      FollowsPlan recreation.engine.cluster (recreation.planFor old now) trace steps := by
  rcases h with hunbegun | ⟨old, now, hbegins, k, hreached | hunderway⟩
  · exact .inl hunbegun
  · exact .inr ⟨old, now, hbegins, hreached.followsPlan⟩
  · exact .inr ⟨old, now, hbegins, (hunderway.followsPlan (plan_mutates _ _ _)).2⟩

theorem judgeOld_ok {found : Option Service} {old : Service}
    (h : judgeOld name found = .ok old) : found = some old ∧ old.isInactive = false := by
  cases found with
  | none => cases h
  | some service =>
      by_cases hinactive : service.isInactive = true
      · rw [judgeOld, if_pos hinactive] at h
        cases h
      · rw [judgeOld, if_neg hinactive] at h
        cases h
        exact ⟨rfl, by simpa using hinactive⟩

theorem judgeOld_step {found : Option Service} {e : RecreateError}
    (h : judgeOld name found = .error e) : e.step = none := by
  cases found with
  | none =>
      cases h
      rfl
  | some service =>
      by_cases hinactive : service.isInactive = true
      · rw [judgeOld, if_pos hinactive] at h
        cases h
        rfl
      · rw [judgeOld, if_neg hinactive] at h
        cases h

theorem secures_recreate (recreation : Recreation) (before : Steps) :
    Secures recorded recreation.Continues recreation.Concluded recreation.recreate.run before
      [] := by
  let cluster := recreation.engine.cluster
  let name := recreation.engine.service
  let asked : Deeds := [.issued (.describeService cluster name)]
  refine Secures.modify_then (Secures.recorded_ask_then (.inl ⟨rfl, rfl⟩) (fun found => ?_)
    (fun e => .inl ⟨⟨rfl, rfl⟩, rfl⟩))
  refine Secures.lift_then (fun old hold => ?_) (fun e herror => ?_)
  case refine_2 => exact .inl ⟨⟨rfl, rfl⟩, judgeOld_step herror⟩
  obtain ⟨rfl, hactive⟩ := judgeOld_ok hold
  refine Secures.now_then fun now => ?_
  have hreached : Reached cluster (recreation.planFor old now) 0 []
      (asked ++ [described cluster name (some old)]) :=
    ⟨Nat.zero_le _, rfl, fun _ _ h => absurd h (Nat.not_lt_zero _), rfl⟩
  have htransition := (secures_transition _ _ _ hreached).extends List.prefix_rfl
  refine Secures.attempt (htransition.mono
    (fun steps trace h => .inr ⟨old, now, ⟨hactive, h.2⟩, h.1⟩) fun _ _ _ h => h) ?_ ?_
  · intro service steps trace hpost
    obtain ⟨htransited, hbegins⟩ := hpost
    exact Secures.state_then (Secures.attempt_pure ⟨rfl, old, now, ⟨hactive, hbegins⟩, htransited⟩)
  · intro e steps trace hpost
    obtain ⟨htransited, hbegins⟩ := hpost
    exact .inr ⟨old, now, ⟨hactive, hbegins⟩, htransited⟩

/-- The trace of every recreation follows the plan of eight steps, whatever was recorded before it,
however the control plane answers, whenever it is cancelled and however it ends: the steps recorded
are exactly those that have settled, an error with a step is of the step at which the plan was left,
and any other error leaves the services as they were. -/
theorem recreate_follows_plan {S : Type} (recreation : Recreation)
    (env : Environment controlPlane S) (token : Token) (actor : Option Nat) (before : Steps)
    (w : World controlPlane S) :
    let out := run env token actor recreation.recreate.run before w
    let trace := deedsOf actor (out.world.since w)
    (Unbegun out.state trace ∧
        ∀ result, out.ending = .returned result → ∃ e, result = .error e ∧ e.step = none) ∨
      ∃ old now, recreation.Begins old trace ∧
        FollowsPlan recreation.engine.cluster (recreation.planFor old now) trace out.state ∧
        (∀ e, out.ending = .returned (.error e) →
          ∃ step, e.step = some step ∧ RecreateStep.all[out.state.length]? = some step) ∧
        ∀ result, out.ending = .returned (.ok result) →
          out.state.length = 8 ∧ result.steps = out.state := by
  intro out trace
  obtain ⟨y, hy, hfound⟩ := (secures_recreate recreation before).run env token actor (w := w)
    (List.append_nil _).symm
  obtain rfl : trace = y :=
    (run_follows env token actor recreation.recreate.run before w).deedsOf_since hy
  change Secured recreation.Continues recreation.Concluded out.ending.answer? out.state trace
    at hfound
  cases hending : out.ending with
  | returned result =>
      rw [hending] at hfound
      cases result with
      | error e =>
          rcases hfound with ⟨hunbegun, hstep⟩ | ⟨old, now, hbegins, k, p, hp, hunderway, hstep⟩
          · refine .inl ⟨hunbegun, ?_⟩
            rintro _ ⟨⟩
            exact ⟨e, rfl, hstep⟩
          · obtain ⟨hlength, hfollows⟩ := hunderway.followsPlan (plan_mutates _ _ _)
            refine .inr ⟨old, now, hbegins, hfollows, ?_, by simp⟩
            rintro _ ⟨⟩
            refine ⟨p.step, hstep, ?_⟩
            rw [hlength, ← plan_steps, List.getElem?_map]
            exact congrArg (Option.map (·.step)) hp
      | ok result =>
          obtain ⟨hsteps, old, now, hbegins, hreached⟩ := hfound
          refine .inr ⟨old, now, hbegins, hreached.followsPlan, by simp, ?_⟩
          rintro _ ⟨⟩
          exact ⟨hreached.length_steps, hsteps⟩
  | panicked message =>
      rw [hending] at hfound
      rcases Continues.follows hfound with hunbegun | ⟨old, now, hbegins, hfollows⟩
      · exact .inl ⟨hunbegun, by simp⟩
      · exact .inr ⟨old, now, hbegins, hfollows, by simp, by simp⟩
  | hung =>
      rw [hending] at hfound
      rcases Continues.follows hfound with hunbegun | ⟨old, now, hbegins, hfollows⟩
      · exact .inl ⟨hunbegun, by simp⟩
      · exact .inr ⟨old, now, hbegins, hfollows, by simp, by simp⟩

end GatedRollout.Recreation
