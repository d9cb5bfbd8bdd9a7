import GatedRollout.Proofs.Recreate.Protocol

/-!
# What a recreation has seen of its steps

A step is recorded on a single description of its service, the last one that its window has. A
creation or a scaling asks no more of it than that the service runs as many tasks as it desires
itself, so a description from before the request will do, and the step is recorded at a count that
the service was never seen at. Where no description lags behind the requests, every such step was
seen at the count that is recorded.
-/

namespace GatedRollout

/-- The count that a request asks for, and of which service. -/
def ControlPlane.Request.Desires (name : ServiceName) (count : UInt32) :
    ControlPlane.Request → Prop
  | .createService creation =>
      creation.definition.serviceName = name ∧ creation.definition.desiredCount = count
  | .updateService update => update.service = name ∧ update.desiredCount = some count
  | _ => False

/-- Whether a step leaves no service behind. -/
def RecreateStep.deletes : RecreateStep → Bool
  | .deleteOld | .deleteTransit => true
  | _ => false

namespace Recreation

/-- The last that a window has is this description of the service. -/
def Closes (cluster : String) (name : ServiceName) (reply : Option Service) (window : Deeds) :
    Prop :=
  window.getLast? = some (described cluster name reply)

/-- The window of a recorded step closes with a description of its service, active and with a
single deployment that runs as many tasks as the service desires. -/
structure ShownUp (cluster : String) (record : TransitionStep) (window : Deeds)
    (service : Service) : Prop where
  closes : Closes cluster record.service (some service) window
  active : service.status = .active
  single : service.deployments.length = 1
  running : service.runningCount = service.desiredCount

/-- No description lags: in the window of a request for a count, the service is described with that
count. -/
def Current (cluster : String) (trace : Deeds) : Prop :=
  ∀ (i : Nat) (r : ControlPlane.Request) (window : Deeds) (name : ServiceName) (count : UInt32)
    (service : Service), (mutations trace)[i]? = some r → (windows trace)[i]? = some window →
      r.Desires name count → described cluster name (some service) ∈ window →
        service.desiredCount = count

/-! ## One step -/

section Step

variable {β : Type} {cluster : String} {p : Planned} {steps steps' : Steps} {past trace : Deeds}
  {judge : Option Service → Judgement (Except WaitError β) String}

/-- A step has begun: its request was issued last, and nothing is recorded of it. -/
def Opened (p : Planned) (steps : Steps) (past : Deeds) (steps' : Steps) (trace : Deeds) : Prop :=
  steps' = steps ∧
    ∃ window, trace = past ++ Event.issued p.request :: window ∧ mutations window = []

/-- What a step leaves: where it succeeds it is recorded, on the description that its window closes
with, and otherwise it has only begun. -/
def Stepped (cluster : String) (p : Planned)
    (judge : Option Service → Judgement (Except WaitError β) String) (steps : Steps)
    (past : Deeds) : Except RecreateError β → Steps → Deeds → Prop
  | .ok b, steps', trace => steps' = steps ++ [p.record] ∧
      ∃ window reply, trace = past ++ Event.issued p.request :: window ∧ mutations window = [] ∧
        Closes cluster p.service reply window ∧ judge reply = .settled (.ok b)
  | .error _, steps', trace => Opened p steps past steps' trace

/-- A step is recorded on the description that settled its wait, with which its window closes. -/
theorem secures_step (engine : Engine) (what : String) (interval limit : Duration) :
    Secures recorded (Opened p steps past) (Stepped cluster p judge steps past)
      (Attempt.ask (ι := controlPlane) p.request (RecreateError.mutate p.step p.service) >>=
        fun _ => do
          let b ← (engine.await (σ := Steps) what
            ⟨.describeService cluster p.service, interval, limit, "", fun _ => judge⟩).within
              (RecreateError.settle p.step p.service)
          record p.step p.service p.count
          return b : Move β).run steps past := by
  let watch : Watch controlPlane (Except WaitError β) String :=
    ⟨.describeService cluster p.service, interval, limit, "", fun _ => judge⟩
  have quiet : ∀ {es : Deeds}, (∀ e ∈ es, e.IsAbout watch.request) → mutations es = [] :=
    fun hes => mutations_of_about rfl hes
  refine Secures.recorded_ask_then ⟨rfl, [], rfl, rfl⟩ (fun accepted => ?_)
    (fun e => ⟨rfl, [.returned p.request (.error e)], by simp, by simp⟩)
  have hopened : ∀ es : Deeds, mutations es = [] → Opened p steps past steps
      (past ++ [Event.issued p.request] ++ [Event.returned p.request (.ok accepted)] ++ es) :=
    fun es hes => ⟨rfl, .returned p.request (.ok accepted) :: es, by simp, by
      rw [← List.singleton_append, mutations_append, hes]
      rfl⟩
  refine Secures.attempt (Q := fun result steps' trace => match result with
    | .ok b => steps' = steps ∧ ∃ window reply, trace = past ++ Event.issued p.request :: window ∧
        mutations window = [] ∧ Closes cluster p.service reply window ∧
          judge reply = .settled (.ok b)
    | .error _ => Opened p steps past steps' trace) ?_ ?_ ?_
  · refine Secures.attempt_within (Engine.secures_await_recorded engine what watch ?_ ?_)
    · exact fun es hes => hopened es (quiet hes.about)
    · intro es result hes
      cases result with
      | error e => exact hopened es (quiet hes.about)
      | ok b =>
          rcases hes with ⟨before, seen, reply, rfl, hbefore, hsettled⟩ | ⟨-, e, herror⟩
          · have hmutations : mutations (Event.returned p.request (.ok accepted) ::
                (before ++ [described cluster p.service reply])) = [] := by
              rw [← List.singleton_append, mutations_append, mutations_append,
                quiet hbefore.about]
              rfl
            refine ⟨rfl, _, reply, by simp [described, watch], hmutations, ?_, hsettled⟩
            rw [Closes, ← List.cons_append, List.getLast?_concat]
          · cases herror
  · rintro b _ _ ⟨rfl, hwindow⟩
    exact Secures.modify_then (Secures.attempt_pure ⟨rfl, hwindow⟩)
  · exact fun e steps' trace hmid => hmid

end Step

/-! ## One step after another -/

/-- Every step recorded of a plan was confirmed by the description that its window closes with, and
at most one more step has begun. -/
structure Seen (cluster : String) (plan : List Planned) (steps : Steps) (trace : Deeds) :
    Prop where
  begun : (windows trace).length ≤ steps.length + 1
  closed : ∀ i p, i < steps.length → plan[i]? = some p → ∃ window reply,
    (windows trace)[i]? = some window ∧ Closes cluster p.service reply window ∧
      p.confirms reply = true

/-- So many steps of a plan are recorded, and no other has begun. -/
structure SeenTo (cluster : String) (plan : List Planned) (k : Nat) (steps : Steps)
    (trace : Deeds) : Prop extends Seen cluster plan steps trace where
  length_steps : steps.length = k
  length_windows : (windows trace).length = k

section Plan

variable {β : Type} {cluster : String} {plan : List Planned} {k : Nat} {p : Planned}
  {steps steps' : Steps} {past trace window : Deeds}
  {judge : Option Service → Judgement (Except WaitError β) String}

theorem windows_append_window (past : Deeds) (hmutates : p.request.isRead = false)
    (hwindow : mutations window = []) :
    windows (past ++ Event.issued p.request :: window) = windows past ++ [window] := by
  rw [windows_append_issued past window hmutates, windows_issued hmutates hwindow]

theorem SeenTo.opened (h : SeenTo cluster plan k steps past) (hmutates : p.request.isRead = false)
    (hopened : Opened p steps past steps' trace) : Seen cluster plan steps' trace := by
  obtain ⟨rfl, window, rfl, hwindow⟩ := hopened
  rw [← h.length_steps] at h
  refine ⟨?_, ?_⟩
  · rw [windows_append_window past hmutates hwindow, List.length_append, h.length_windows]
    exact Nat.le_refl _
  · intro i q hi hq
    rw [windows_append_window past hmutates hwindow,
      List.getElem?_append_left (by rw [h.length_windows]; exact hi)]
    exact h.closed i q hi hq

/-- A step that succeeded leaves one more recorded, on the description that settled its wait. -/
def Taken (cluster : String) (plan : List Planned) (k : Nat) (p : Planned)
    (judge : Option Service → Judgement (Except WaitError β) String) (past : Deeds) :
    Except RecreateError β → Steps → Deeds → Prop
  | .ok b, steps, trace => SeenTo cluster plan (k + 1) steps trace ∧
      ∃ window reply, windows trace = windows past ++ [window] ∧
        Closes cluster p.service reply window ∧ judge reply = .settled (.ok b)
  | .error _, steps, trace => Seen cluster plan steps trace

theorem SeenTo.stepped (h : SeenTo cluster plan k steps past) (hp : plan[k]? = some p)
    (hmutates : p.request.isRead = false)
    (hjudge : ∀ reply, p.confirms reply = Engine.succeeds (judge reply))
    {result : Except RecreateError β}
    (hstepped : Stepped cluster p judge steps past result steps' trace) :
    Taken cluster plan k p judge past result steps' trace := by
  cases result with
  | error e => exact h.opened hmutates hstepped
  | ok b =>
      obtain ⟨rfl, window, reply, rfl, hwindow, hcloses, hsettled⟩ := hstepped
      have hwindows := windows_append_window past hmutates hwindow
      have hconfirms : p.confirms reply = true := by
        rw [hjudge reply, hsettled]
        rfl
      refine ⟨⟨⟨?_, ?_⟩, ?_, ?_⟩, window, reply, hwindows, hcloses, hsettled⟩
      · rw [hwindows, List.length_append, List.length_append, h.length_windows, h.length_steps]
        exact Nat.le_succ _
      · intro i q hi hq
        rw [List.length_append, List.length_singleton, h.length_steps] at hi
        rw [hwindows]
        rcases Nat.lt_succ_iff_lt_or_eq.mp hi with hlt | rfl
        · rw [List.getElem?_append_left (by rw [h.length_windows]; exact hlt)]
          exact h.closed i q (by rw [h.length_steps]; exact hlt) hq
        · obtain rfl := Option.some.inj (hp.symm.trans hq)
          refine ⟨window, reply, ?_, hcloses, hconfirms⟩
          rw [← h.length_windows, List.getElem?_concat_length]
      · rw [List.length_append, h.length_steps, List.length_singleton]
      · rw [hwindows, List.length_append, h.length_windows, List.length_singleton]

theorem SeenTo.secures_step (h : SeenTo cluster plan k steps past) (hp : plan[k]? = some p)
    (hmutates : p.request.isRead = false)
    (hjudge : ∀ reply, p.confirms reply = Engine.succeeds (judge reply)) (engine : Engine)
    (what : String) (interval limit : Duration) :
    Secures recorded (Seen cluster plan) (Taken cluster plan k p judge past)
      (Attempt.ask (ι := controlPlane) p.request (RecreateError.mutate p.step p.service) >>=
        fun _ => do
          let b ← (engine.await (σ := Steps) what
            ⟨.describeService cluster p.service, interval, limit, "", fun _ => judge⟩).within
              (RecreateError.settle p.step p.service)
          record p.step p.service p.count
          return b : Move β).run steps past :=
  (Recreation.secures_step engine what interval limit).mono
    (fun _ _ hopened => h.opened hmutates hopened)
    fun _ _ _ hstepped => h.stepped hp hmutates hjudge hstepped

end Plan

variable {recreation : Recreation} {plan : List Planned} {k : Nat} {step : RecreateStep}
  {name : ServiceName} {count : UInt32} {steps : Steps} {past trace : Deeds}

theorem SeenTo.secures_create (h : SeenTo recreation.engine.cluster plan k steps past)
    (hp : plan[k]? = some (recreation.created step name)) :
    Secures recorded (Seen recreation.engine.cluster plan)
      (Taken recreation.engine.cluster plan k (recreation.created step name)
        (Engine.judgeStable name) past)
      (recreation.create step name).run steps past :=
  h.secures_step hp rfl (isUp_eq_succeeds name) _ _ _ _

theorem SeenTo.secures_scale (h : SeenTo recreation.engine.cluster plan k steps past)
    (hp : plan[k]? = some (recreation.scaled step name count)) :
    Secures recorded (Seen recreation.engine.cluster plan)
      (Taken recreation.engine.cluster plan k (recreation.scaled step name count)
        (Engine.judgeStable name) past)
      (recreation.scale step name count).run steps past :=
  h.secures_step hp rfl (isUp_eq_succeeds name) _ _ _ _

theorem SeenTo.secures_delete (h : SeenTo recreation.engine.cluster plan k steps past)
    (hp : plan[k]? = some (recreation.deleted step name)) :
    Secures recorded (Seen recreation.engine.cluster plan)
      (Taken recreation.engine.cluster plan k (recreation.deleted step name) Engine.judgeInactive
        past)
      (recreation.delete step name).run steps past :=
  h.secures_step hp rfl isGone_eq_succeeds _ _ _ _

/-! ## The transition -/

/-- What the transition leaves: the whole plan is recorded, and what it returns is the service that
the window of the sixth step closes with. -/
def Passes (cluster : String) (plan : List Planned) (old : ServiceName) :
    Except RecreateError Service → Steps → Deeds → Prop
  | .ok service, steps, trace => SeenTo cluster plan plan.length steps trace ∧
      ∃ window, (windows trace)[5]? = some window ∧ Closes cluster old (some service) window ∧
        service.isStable = true
  | .error _, steps, trace => Seen cluster plan steps trace

/-- Go on from one step of a plan to the next. -/
theorem secures_after {β : Type} {cluster : String} {old : ServiceName} {p : Planned}
    {judge : Option Service → Judgement (Except WaitError β) String} {first : Move β}
    {rest : β → Move Service}
    (hfirst : Secures recorded (Seen cluster plan) (Taken cluster plan k p judge past) first.run
      steps past)
    (hrest : ∀ b steps trace, SeenTo cluster plan (k + 1) steps trace →
      (∃ window reply, windows trace = windows past ++ [window] ∧
        Closes cluster p.service reply window ∧ judge reply = .settled (.ok b)) →
      Secures recorded (Seen cluster plan) (Passes cluster plan old) (rest b).run steps trace) :
    Secures recorded (Seen cluster plan) (Passes cluster plan old) (first >>= rest).run steps
      past :=
  hfirst.attempt (fun b steps trace h => hrest b steps trace h.1 h.2) fun _ _ _ h => h

theorem transition_seen (old transit : ServiceName) (count : UInt32)
    (h : SeenTo recreation.engine.cluster (recreation.plan old transit count) 0 steps past) :
    Secures recorded (Seen recreation.engine.cluster (recreation.plan old transit count))
      (Passes recreation.engine.cluster (recreation.plan old transit count) old)
      (recreation.transition old transit count).run steps past := by
  refine secures_after (h.secures_create rfl) fun _ _ _ h _ => ?_
  refine secures_after (h.secures_scale rfl) fun _ _ _ h _ => ?_
  refine secures_after (h.secures_scale rfl) fun _ _ _ h _ => ?_
  refine secures_after (h.secures_delete rfl) fun _ _ _ h _ => ?_
  refine secures_after (h.secures_create rfl) fun _ _ fifth hfifth _ => ?_
  refine secures_after (hfifth.secures_scale rfl) fun service _ sixth h hsixth => ?_
  refine secures_after (h.secures_scale rfl) fun _ _ seventh h hseventh => ?_
  refine secures_after (h.secures_delete rfl) fun _ _ eighth h heighth => Secures.attempt_pure ?_
  obtain ⟨window, reply, hwindow, hcloses, hsettled⟩ := hsixth
  obtain ⟨_, _, hwindow₇, -⟩ := hseventh
  obtain ⟨_, _, hwindow₈, -⟩ := heighth
  obtain ⟨rfl, hstable⟩ := Engine.judgeStable_ok hsettled
  have hlength : (windows fifth).length = 5 := hfifth.length_windows
  refine ⟨h, window, ?_, hcloses, hstable⟩
  rw [hwindow₈, hwindow₇, hwindow, List.append_assoc, List.append_assoc, ← hlength,
    List.getElem?_append_right (Nat.le_refl _), Nat.sub_self]
  rfl

/-! ## Whole recreations -/

/-- The plan for the old service that the trace began with was followed as far as the steps recorded
say, each on what its window closes with. -/
def Vouched (recreation : Recreation) (old : Service) (now : Instant) (steps : Steps)
    (trace : Deeds) : Prop :=
  recreation.Begins old trace ∧
    FollowsPlan recreation.engine.cluster (recreation.planFor old now) trace steps ∧
    Seen recreation.engine.cluster (recreation.planFor old now) steps trace

/-- What a recreation leaves of what was seen. -/
def Leaves (recreation : Recreation) : Except RecreateError Result → Steps → Deeds → Prop
  | .ok result, steps, trace => ∃ old now, recreation.Vouched old now steps trace ∧
      steps.length = 8 ∧
      ∃ window, (windows trace)[5]? = some window ∧ result.service.isStable = true ∧
        Closes recreation.engine.cluster recreation.engine.service (some result.service) window
  | .error _, steps, trace =>
      Unbegun steps trace ∨ ∃ old now, recreation.Vouched old now steps trace

theorem transition_vouched (recreation : Recreation) (old : Service) (now : Instant)
    {trace : Deeds} (hactive : old.isInactive = false)
    (htrace : trace = [.issued (.describeService recreation.engine.cluster
      recreation.engine.service), described recreation.engine.cluster recreation.engine.service
        (some old)]) :
    Secures recorded (recreation.Vouched old now)
      (fun result steps trace => recreation.Vouched old now steps trace ∧
        ∀ service, result = .ok service → steps.length = 8 ∧
          ∃ window, (windows trace)[5]? = some window ∧ service.isStable = true ∧
            Closes recreation.engine.cluster recreation.engine.service (some service) window)
      (recreation.transition recreation.engine.service
        (recreation.engine.service.transit (Calendar.stamp now)) old.desiredCount).run []
        trace := by
  subst htrace
  let trace : Deeds := [.issued (.describeService recreation.engine.cluster
    recreation.engine.service), described recreation.engine.cluster recreation.engine.service
      (some old)]
  have hreached : Reached recreation.engine.cluster (recreation.planFor old now) 0 [] trace :=
    ⟨Nat.zero_le _, rfl, fun _ _ h => absurd h (Nat.not_lt_zero _), rfl⟩
  have hseen : SeenTo recreation.engine.cluster (recreation.planFor old now) 0 [] trace :=
    ⟨⟨Nat.zero_le _, fun _ _ h => absurd h (Nat.not_lt_zero _)⟩, rfl, rfl⟩
  have hextends := ((secures_transition _ _ _ hreached).both (transition_seen _ _ _ hseen)).extends
    List.prefix_rfl
  refine hextends.mono ?_ ?_
  · intro steps trace' h
    obtain ⟨⟨⟨k, hprogress⟩, hseen⟩, hbegins⟩ := h
    refine ⟨⟨hactive, hbegins⟩, ?_, hseen⟩
    rcases hprogress with hreached | hunderway
    · exact hreached.followsPlan
    · exact (hunderway.followsPlan (plan_mutates _ _ _)).2
  · intro result steps trace' h
    obtain ⟨⟨htransited, hpasses⟩, hbegins⟩ := h
    cases result with
    | ok service =>
        obtain ⟨hseen, window, hwindow, hcloses, hstable⟩ := hpasses
        have hreached : Reached recreation.engine.cluster (recreation.planFor old now) 8 steps
            trace' := htransited
        refine ⟨⟨⟨hactive, hbegins⟩, hreached.followsPlan, hseen.toSeen⟩, ?_⟩
        rintro _ ⟨⟩
        exact ⟨hseen.length_steps, window, hwindow, hstable, hcloses⟩
    | error e =>
        obtain ⟨k, p, -, hunderway, -⟩ := htransited
        exact ⟨⟨⟨hactive, hbegins⟩, (hunderway.followsPlan (plan_mutates _ _ _)).2, hpasses⟩,
          nofun⟩

theorem recreate_leaves (recreation : Recreation) (before : Steps) :
    Secures recorded
      (fun steps trace => Unbegun steps trace ∨ ∃ old now, recreation.Vouched old now steps trace)
      recreation.Leaves recreation.recreate.run before [] := by
  refine Secures.modify_then (Secures.recorded_ask_then (.inl ⟨rfl, rfl⟩) (fun found => ?_)
    (fun e => .inl ⟨rfl, rfl⟩))
  refine Secures.lift_then (fun old hold => ?_) (fun e herror => .inl ⟨rfl, rfl⟩)
  obtain ⟨rfl, hactive⟩ := judgeOld_ok hold
  refine Secures.now_then fun now => ?_
  refine Secures.attempt ((transition_vouched recreation old now hactive rfl).mono
    (fun _ _ h => .inr ⟨old, now, h⟩) fun _ _ _ h => h) ?_ ?_
  · intro service steps trace h
    obtain ⟨hvouched, hok⟩ := h
    exact Secures.state_then (Secures.attempt_pure ⟨old, now, hvouched, hok service rfl⟩)
  · exact fun e steps trace h => .inr ⟨old, now, h.1⟩

/-! ## What was seen of the recorded steps -/

theorem isUp_some {reply : Option Service} (h : isUp reply = true) :
    ∃ service, reply = some service ∧ service.status = .active ∧
      service.deployments.length = 1 ∧ service.runningCount = service.desiredCount := by
  cases reply with
  | none => cases h
  | some service =>
      have hstable : service.isStable = true := h
      exact ⟨service, rfl, service.isStable_iff.mp hstable⟩

/-- What the plan says of a step that creates or scales. -/
theorem plan_desires (recreation : Recreation) (old transit : ServiceName) (count : UInt32) :
    ∀ p ∈ recreation.plan old transit count, p.step.deletes = false →
      p.confirms = isUp ∧ p.request.Desires p.service p.count := by
  simp [plan, created, scaled, deleted, RecreateStep.deletes, ControlPlane.Request.Desires]

section Vouched

variable {old : Service} {now : Instant} (h : recreation.Vouched old now steps trace)

include h

theorem Vouched.issued {i : Nat} {p : Planned} {window : Deeds}
    (hp : (recreation.planFor old now)[i]? = some p)
    (hwindow : (windows trace)[i]? = some window) : (mutations trace)[i]? = some p.request := by
  obtain ⟨-, hfollows, -⟩ := h
  have hlt : i < (mutations trace).length := by
    rw [← GatedRollout.length_windows]
    exact (List.getElem?_eq_some_iff.mp hwindow).1
  rw [List.getElem?_eq_getElem hlt, ← List.prefix_iff_getElem?.mp hfollows.issued i hlt,
    List.getElem?_map, hp]
  rfl

/-- Every step that creates or scales was recorded on a description of the service that agrees with
itself, and with the count recorded where no description lags. -/
theorem Vouched.shownUp {i : Nat} {record : TransitionStep} (hrecord : steps[i]? = some record)
    (hdeletes : record.step.deletes = false) :
    ∃ window service, (windows trace)[i]? = some window ∧
      ShownUp recreation.engine.cluster record window service ∧
      (Current recreation.engine.cluster trace → service.desiredCount = record.desiredCount) := by
  have hi : i < steps.length := (List.getElem?_eq_some_iff.mp hrecord).1
  obtain ⟨p, hp, rfl⟩ : ∃ p, (recreation.planFor old now)[i]? = some p ∧ p.record = record := by
    rw [h.2.1.steps_eq, List.getElem?_map, List.getElem?_take, if_pos hi] at hrecord
    exact Option.map_eq_some_iff.mp hrecord
  obtain ⟨hconfirms, hdesires⟩ := plan_desires recreation _ _ _ p (List.mem_of_getElem? hp) hdeletes
  obtain ⟨window, reply, hwindow, hcloses, hconfirmed⟩ := h.2.2.closed i p hi hp
  rw [hconfirms] at hconfirmed
  obtain ⟨service, rfl, hactive, hsingle, hrunning⟩ := isUp_some hconfirmed
  refine ⟨window, service, hwindow, ⟨hcloses, hactive, hsingle, hrunning⟩, fun hcurrent => ?_⟩
  exact hcurrent i p.request window p.service p.count service (h.issued hp hwindow) hwindow hdesires
    (List.mem_of_getLast? hcloses)

/-- The old service is drained only once the transit service was described as running as many tasks
as it desires, which is what the old one desired where no description lags. -/
theorem Vouched.drained (hdrained : 2 < (mutations trace).length) :
    (mutations trace)[2]? = some (.updateService
      { cluster := recreation.engine.cluster, service := recreation.engine.service,
        desiredCount := some 0 }) ∧
      ∃ transit window service, steps[1]? = some ⟨.scaleTransit, transit, old.desiredCount⟩ ∧
        (windows trace)[1]? = some window ∧
        ShownUp recreation.engine.cluster ⟨.scaleTransit, transit, old.desiredCount⟩ window
          service ∧
        (Current recreation.engine.cluster trace → service.runningCount = old.desiredCount) := by
  have hlength : 1 < steps.length := by
    have hbegun := h.2.2.begun
    rw [GatedRollout.length_windows] at hbegun
    omega
  have hrecord : steps[1]? = some ⟨.scaleTransit,
      recreation.engine.service.transit (Calendar.stamp now), old.desiredCount⟩ := by
    rw [h.2.1.steps_eq, List.getElem?_map, List.getElem?_take, if_pos hlength]
    rfl
  obtain ⟨window, service, hwindow, hshown, hcounted⟩ := h.shownUp hrecord rfl
  refine ⟨?_, _, window, service, hrecord, hwindow, hshown,
    fun hcurrent => hshown.running.trans (hcounted hcurrent)⟩
  have hopened : 2 < (windows trace).length := by rwa [GatedRollout.length_windows]
  exact h.issued (p := recreation.scaled .drainOld recreation.engine.service 0) rfl
    (List.getElem?_eq_getElem hopened)

end Vouched

/-- What was seen of the services where the old one was described so. -/
structure Confirms (recreation : Recreation) (old : Service) (steps : Steps) (trace : Deeds)
    (ending : Ending (Except RecreateError Result)) : Prop where
  recorded : ∀ (i : Nat) (record : TransitionStep), steps[i]? = some record →
    record.step.deletes = false → ∃ window service, (windows trace)[i]? = some window ∧
      ShownUp recreation.engine.cluster record window service ∧
      (Current recreation.engine.cluster trace → service.desiredCount = record.desiredCount)
  drained : 2 < (mutations trace).length →
    (mutations trace)[2]? = some (.updateService
      { cluster := recreation.engine.cluster, service := recreation.engine.service,
        desiredCount := some 0 }) ∧
      ∃ transit window service, steps[1]? = some ⟨.scaleTransit, transit, old.desiredCount⟩ ∧
        (windows trace)[1]? = some window ∧
        ShownUp recreation.engine.cluster ⟨.scaleTransit, transit, old.desiredCount⟩ window
          service ∧
        (Current recreation.engine.cluster trace → service.runningCount = old.desiredCount)
  returned : ∀ result, ending = .returned (.ok result) →
    result.service.runningCount = result.service.desiredCount ∧
      (Current recreation.engine.cluster trace → result.service.runningCount = old.desiredCount)

theorem Vouched.confirms {old : Service} {now : Instant}
    (h : recreation.Vouched old now steps trace) {ending : Ending (Except RecreateError Result)}
    (hreturned : ∀ result, ending = .returned (.ok result) →
      result.service.runningCount = result.service.desiredCount ∧
        (Current recreation.engine.cluster trace →
          result.service.runningCount = old.desiredCount)) :
    recreation.Confirms old steps trace ending :=
  ⟨fun _ _ hrecord hdeletes => h.shownUp hrecord hdeletes, h.drained, hreturned⟩

/-- What was seen where nothing was returned. -/
theorem confirms_of_failed {ending : Ending (Except RecreateError Result)}
    (h : Unbegun steps trace ∨ ∃ old now, recreation.Vouched old now steps trace)
    (hfailed : ∀ result, ending ≠ .returned (.ok result)) :
    (Unbegun steps trace ∧ ∀ result, ending ≠ .returned (.ok result)) ∨
      ∃ old, recreation.Begins old trace ∧ recreation.Confirms old steps trace ending := by
  rcases h with hunbegun | ⟨old, now, h⟩
  · exact .inl ⟨hunbegun, hfailed⟩
  · exact .inr ⟨old, h.1, h.confirms fun result hreturned => absurd hreturned (hfailed result)⟩

/-- Whatever a recreation records of a step that creates or scales, the last description in the
window of that step has the service active, with one deployment, running the tasks it desires. So
has the one that the old service is drained on, and the service that is returned. Each of them is at
the count that was asked for where no description lags. -/
theorem recreate_confirms_counts {S : Type} (recreation : Recreation)
    (env : Environment controlPlane S) (token : Token) (actor : Option Nat) (before : Steps)
    (w : World controlPlane S) :
    let out := run env token actor recreation.recreate.run before w
    let trace := deedsOf actor (out.world.since w)
    (Unbegun out.state trace ∧ ∀ result, out.ending ≠ .returned (.ok result)) ∨
      ∃ old, recreation.Begins old trace ∧ recreation.Confirms old out.state trace out.ending := by
  intro out trace
  obtain ⟨y, hy, hfound⟩ := (recreate_leaves recreation before).run env token actor (w := w)
    (List.append_nil _).symm
  obtain rfl : trace = y :=
    (run_follows env token actor recreation.recreate.run before w).deedsOf_since hy
  change Secured _ recreation.Leaves out.ending.answer? out.state trace at hfound
  cases hending : out.ending with
  | returned result =>
      rw [hending] at hfound
      cases result with
      | error e => exact confirms_of_failed hfound nofun
      | ok result =>
          obtain ⟨old, now, h, -, window, hwindow, hstable, hcloses⟩ := hfound
          refine .inr ⟨old, h.1, h.confirms ?_⟩
          rintro _ ⟨⟩
          have hup : isUp (some result.service) = true := hstable
          obtain ⟨_, hsame, -, -, hrunning⟩ := isUp_some hup
          cases hsame
          refine ⟨hrunning, fun hcurrent => hrunning.trans ?_⟩
          -- The sixth step scales the service back up, to the count that the old one desired.
          exact hcurrent 5 _ window recreation.engine.service old.desiredCount result.service
            (h.issued (p := recreation.scaled .scaleFinal recreation.engine.service
              old.desiredCount) rfl hwindow) hwindow ⟨rfl, rfl⟩ (List.mem_of_getLast? hcloses)
  | panicked message =>
      rw [hending] at hfound
      exact confirms_of_failed hfound nofun
  | hung =>
      rw [hending] at hfound
      exact confirms_of_failed hfound nofun

/-! ## A lagging control plane -/

/-- A control plane that accepts every change and describes services from a list. -/
def retelling : Environment controlPlane (List (Option Service)) where
  react replies _ r :=
    (⟨.zero, false, 0, .answer
      (match r with
        | .describeService _ _ => .ok replies.head?.join
        | .createService _ => .ok ()
        | .updateService _ => .ok ()
        | .deleteService _ _ => .ok ()
        | _ => .error (.rejected "request" "not expected"))⟩,
      match r with
      | .describeService _ _ => replies.tail
      | _ => replies)
  wake replies _ := (⟨false, 0⟩, replies)

/-- A service at rest at this count. -/
def resting (name : ServiceName) (count : UInt32) : Option Service :=
  some
    { serviceName := name
      serviceArn := ⟨"service/prod/api"⟩
      status := .active
      desiredCount := count
      runningCount := count
      taskDefinition := ⟨"task-definition/api:1"⟩
      deployments := [⟨"1", "PRIMARY", count, count⟩] }

/-- A description from before each of the scalings up is taken for the result of it: the steps are
recorded at three tasks, the old service is drained and the recreation succeeds, and no service was
ever seen with more than one task. -/
theorem recreate_trusts_lagging_counts :
    let name : ServiceName := ⟨"api"⟩
    let transit : ServiceName := ⟨"api-transit-19700101000000"⟩
    let recreation : Recreation :=
      ⟨{ config := { cluster := "prod", service := name }, patience := 0 },
        { arn := ⟨"task-definition/api:2"⟩, family := "api" }, { serviceName := name }⟩
    let replies := [resting name 3, resting transit 1, resting transit 1, resting name 0, none,
      resting name 1, resting name 1, resting transit 0, none]
    let w : World controlPlane (List (Option Service)) := .start default false replies
    let out := run retelling .caller none recreation.recreate.run [] w
    let trace := deedsOf none (out.world.since w)
    (∃ result, out.ending = .returned (.ok result) ∧ result.service.runningCount = 1) ∧
      out.state[1]? = some ⟨.scaleTransit, transit, 3⟩ ∧
      (windows trace)[1]?.bind (·.getLast?) = some (described "prod" transit (resting transit 1)) ∧
      out.state[5]? = some ⟨.scaleFinal, name, 3⟩ ∧
      (windows trace)[5]?.bind (·.getLast?) = some (described "prod" name (resting name 1)) := by
  refine ⟨⟨_, rfl, rfl⟩, rfl, rfl, rfl, rfl⟩

end Recreation

end GatedRollout
