import GatedRollout.Proofs.Canary.Requests
import GatedRollout.Proofs.Canary.Set
import GatedRollout.Proofs.Process.Token
import GatedRollout.Proofs.Process.Turns

/-!
# How far canaries come

Canaries are launched in order, each with a single call, up to the first that is refused or, because
the token has fired, withheld. Once all of them are launched, a wait for them that returns has seen
the wait of every one of them to its end.
-/

namespace GatedRollout

/-! ## Sets -/

namespace CanarySet

variable {ι : Interface} {S σ : Type} {env : Environment ι S} {token : Token}
  {set : CanarySet ι σ} {w : World ι S}

theorem firstError_error {results : List (Nat × Except TaskError Unit)} {e : TaskError}
    (h : firstError results = .error e) : ∃ i, (i, .error e) ∈ results := by
  obtain ⟨before, i, after, rfl, -⟩ := firstError_eq_error h
  exact ⟨i, by simp⟩

theorem length_start : (set.start env token w).state.entries.length = set.entries.length :=
  length_withStates ..

/-- Where every canary was started, each has come to the end of its start. -/
theorem visits_start (h : (set.start env token w).ending = .returned (.ok ())) {i : Nat}
    {e : Entry ι σ} (he : set.entries[i]? = some e) :
    ∃ s, (set.start env token w).state.entries[i]? = some { e with state := s } ∧
      Visits recorded e.task.start.run e.state [] (some (.ok ())) s
        (deedsOf (some i) ((set.start env token w).world.since w)) := by
  have hstart := secured_start env token
    (Crew.secures_visits (set.entries.map fun e => (e.task.start.run, e.state)) w)
  obtain ⟨s, found, y, hs, hy, hfound, hreturned⟩ := hstart.each i e he
  rw [hreturned h] at hfound
  refine ⟨s, hs, ?_⟩
  rw [hstart.follows.deedsOf_since hy]
  exact hfound _ _ (by rw [List.getElem?_map, he]; rfl)

theorem sees_startFrom {earlier : World ι S} (entries : List (Entry ι σ)) :
    ∀ (i : Nat) (w : World ι S), (∃ v, World.Sees earlier w v) →
      ∃ v, World.Sees earlier (startFrom env .caller i entries w).world v := by
  induction entries with
  | nil => exact fun i w h => h
  | cons e rest ih =>
      intro i w h
      obtain ⟨v, hv⟩ := h
      obtain ⟨v', hv', -⟩ := (Abides.anything e.task.start.run e.state _).run env (some i) hv
      simp only [startFrom]
      split
      · exact ih (i + 1) _ ⟨v', hv'⟩
      · exact ⟨v', hv'⟩

/-- A wait for the canaries that returned has a result of every one of them, and each of these is
what the canary's own wait came to. -/
theorem visits_wait {result : Except TaskError Unit}
    (h : (set.wait env token w).ending = .returned result) :
    ∃ results, (fanOut env token (set.entries.map fun e => (e.task.wait.run, e.state)) w).ending =
        .returned results ∧ result = firstError results ∧
      (∀ (i : Nat) (e : Entry ι σ), set.entries[i]? = some e → ∃ r, (i, r) ∈ results) ∧
        ∀ i r, (i, r) ∈ results → ∃ e s, set.entries[i]? = some e ∧
          Visits recorded e.task.wait.run e.state [] (some r) s
            (deedsOf (some i) ((set.wait env token w).world.since w)) := by
  obtain ⟨results, hresults, hresult⟩ := gather_returned h
  obtain ⟨hbound, heach⟩ := visits_fanOut hresults
  have hentry : ∀ (i : Nat) (e : Entry ι σ), set.entries[i]? = some e →
      (set.entries.map fun e => (e.task.wait.run, e.state))[i]? =
        some (e.task.wait.run, e.state) := by
    intro i e he
    rw [List.getElem?_map, he]
    rfl
  refine ⟨results, hresults, hresult, fun i e he => ?_, fun i r hr => ?_⟩
  · obtain ⟨r, s, -, hr⟩ := heach i _ _ (hentry i e he)
    exact ⟨r, (hr r).mpr rfl⟩
  · have hlt := hbound i r hr
    rw [List.length_map] at hlt
    have he := List.getElem?_eq_getElem hlt
    obtain ⟨a, s, hvisits, ha⟩ := heach i _ _ (hentry i _ he)
    obtain rfl := (ha r).mp hr
    exact ⟨_, s, he, hvisits⟩

end CanarySet

namespace Canary

variable {S : Type} {engine : Engine} {spec : LaunchSpec} {env : Environment controlPlane S}
  {token : Token}

/-! ## Launches -/

/-- The calls that are made for a purpose. -/
def callsFor (role : ControlPlane.Role) (trace : List (Entry controlPlane)) :
    List (Option Nat × Event controlPlane) :=
  calls (fun r : ControlPlane.Request => r.role == role) trace

theorem callsFor_append (role : ControlPlane.Role) (first rest : List (Entry controlPlane)) :
    callsFor role (first ++ rest) = callsFor role first ++ callsFor role rest :=
  calls_append first rest

theorem callsFor_eq_nil {ok : ControlPlane.Request → Prop} {w w' : World controlPlane S}
    (h : World.Concerns ok w w') {role : ControlPlane.Role} (hok : ∀ r, ok r → r.role ≠ role) :
    callsFor role (w'.since w) = [] :=
  h.calls_eq_nil fun r hr => by simp [hok r hr]

/-- The canaries from one number on up to another were launched one after the other, each with a
single call that was accepted. -/
inductive LaunchedInOrder : Nat → Nat → List (Option Nat × Event controlPlane) → Prop
  | nil (n : Nat) : LaunchedInOrder n n []
  | cons {i n : Nat} {r : ControlPlane.Request} {task : controlPlane.Reply r}
      {rest : List (Option Nat × Event controlPlane)} (launch : Launches r)
      (others : LaunchedInOrder (i + 1) n rest) :
      LaunchedInOrder i n ((some i, .issued r) :: (some i, .returned r (.ok task)) :: rest)

/-- The launch of a canary failed with this error, or was withheld because the token had fired. -/
inductive Unlaunched (k : Nat) (cancelled : Bool) :
    TaskError → List (Option Nat × Event controlPlane) → Prop
  | refused {r : ControlPlane.Request} (launch : Launches r) (e : ClientError) :
      Unlaunched k cancelled (.launch e)
        [(some k, .issued r), (some k, .returned r (.error e))]
  | withheld (h : cancelled = true) : Unlaunched k cancelled (.wait .cancelled) []

/-- The deeds of a start that the token does not prevent: one call, which decides it. -/
def Decides (result : Except TaskError Unit) (y : Deeds) : Prop :=
  ∃ r answer, Launches r ∧ y = [.issued r, .returned r answer] ∧
    ((∃ task, answer = .ok task ∧ result = .ok ()) ∨
      ∃ e, answer = .error e ∧ result = .error (.launch e))

theorem secures_decides (engine : Engine) (spec : LaunchSpec) (placement : Placement) :
    Secures recorded (fun _ _ => True) (fun result _ y => Decides result y)
      (settle (launch engine spec [] >>= fun _ => pure ()) .starting).run (State.fresh placement)
      [] := by
  have hlaunch : Secures recorded (fun _ _ => True)
      (fun result _ y => Decides (result.map fun _ => ()) y)
      (launch engine spec []).run (State.fresh placement) [] := by
    refine Secures.state_then (Secures.modify_then ?_)
    cases placement with
    | onDemand =>
        refine Secures.recorded_ask_then trivial (fun task => ?_) (fun e => ?_)
        · refine Secures.modify_then (Secures.attempt_pure ?_)
          refine ⟨_, .ok task, ?_, rfl, .inl ⟨task, rfl, rfl⟩⟩
          rfl
        · refine ⟨_, .error e, ?_, rfl, .inr ⟨e, rfl, rfl⟩⟩
          rfl
    | pinned host =>
        refine Secures.recorded_ask_then trivial (fun task => ?_) (fun e => ?_)
        · refine Secures.modify_then (Secures.attempt_pure ?_)
          refine ⟨_, .ok task, ?_, rfl, .inl ⟨task, rfl, rfl⟩⟩
          rfl
        · refine ⟨_, .error e, ?_, rfl, .inr ⟨e, rfl, rfl⟩⟩
          rfl
  refine Secures.bind (Q := fun result _ y => Decides result y) (Secures.attempt hlaunch ?_ ?_) ?_
  · exact fun arn t y h => Secures.attempt_pure h
  · exact fun e t y h => h
  · exact fun result t y h => Secures.modify_bind (Secures.pure h)

theorem run_start_withheld {w : World controlPlane S} (h : w.cancelled token = true)
    (actor : Option Nat) (s : State) :
    run env token actor (start engine spec).run s w =
      ⟨.returned (.error (.wait .cancelled)), s.setPhase .failed, w⟩ := by
  show run env token actor (.look _) s w = _
  rw [run_look, h]
  rfl

theorem run_start_granted {w : World controlPlane S} (h : w.cancelled token = false)
    (actor : Option Nat) (s : State) :
    run env token actor (start engine spec).run s w =
      run env token actor (settle (launch engine spec [] >>= fun _ => pure ()) .starting).run s
        w := by
  show run env token actor (.look _) s w = _
  rw [run_look, h]
  rfl

/-- The start of one canary. -/
theorem run_start (engine : Engine) (spec : LaunchSpec) (env : Environment controlPlane S)
    (token : Token) (i : Nat) (strategy : Strategy) (placement : Placement)
    (w : World controlPlane S) :
    let out := run env token (some i) (task engine spec strategy).start.run
      (State.fresh placement) w
    (out.ending = .returned (.ok ()) → ∃ r task, Launches r ∧
        callsFor .launches (out.world.since w) =
          [(some i, .issued r), (some i, .returned r (.ok task))]) ∧
      ∀ e, out.ending = .returned (.error e) →
        Unlaunched i (out.world.cancelled token) e (callsFor .launches (out.world.since w)) := by
  have hstart : (task engine spec strategy).start = start engine spec := rfl
  rw [hstart]
  cases hcancelled : w.cancelled token with
  | true =>
      rw [run_start_withheld hcancelled]
      refine ⟨nofun, fun e he => ?_⟩
      cases he
      rw [World.since_self]
      exact .withheld hcancelled
  | false =>
      rw [run_start_granted hcancelled]
      have hcalls : callsFor .launches (World.since _ w) = _ := calls_run env token (some i)
        (settle (launch engine spec [] >>= fun _ => pure ()) .starting).run (State.fresh placement)
        w
      obtain ⟨y, hy, hsecured⟩ := (secures_decides engine spec placement).run env token (some i)
        (List.append_nil (w.deeds (some i))).symm
      have hfollows := run_follows env token (some i)
        (settle (launch engine spec [] >>= fun _ => pure ()) .starting).run
        (State.fresh placement) w
      generalize run env token (some i) _ (State.fresh placement) w = out at *
      dsimp only at hcalls ⊢
      rw [hfollows.deedsOf_since hy] at hcalls
      rw [hcalls]
      refine ⟨fun hok => ?_, fun e he => ?_⟩
      · rw [hok] at hsecured
        obtain ⟨r, answer, hr, rfl, ⟨task, rfl, -⟩ | ⟨_, -, hresult⟩⟩ := hsecured
        · exact ⟨r, task, hr, by simp [callsOf, Event.isCall, show r.role = .launches from hr]⟩
        · cases hresult
      · rw [he] at hsecured
        obtain ⟨r, answer, hr, rfl, ⟨task, -, hresult⟩ | ⟨e', rfl, hresult⟩⟩ := hsecured
        · cases hresult
        · cases hresult
          have hlaunch : r.role = .launches := hr
          simp only [callsOf, List.filter_cons, Event.isCall, hlaunch, BEq.rfl, if_true,
            List.filter_nil, List.map_cons, List.map_nil]
          exact .refused hr e'

/-- The canaries from one number on are started in order, up to the first that is not. -/
theorem startFrom_extent (engine : Engine) (spec : LaunchSpec) (env : Environment controlPlane S)
    (token : Token)
    (entries : List (CanarySet.Entry controlPlane State)) :
    ∀ (i : Nat) (w : World controlPlane S),
      (∀ e ∈ entries, ∃ strategy placement,
        e = ⟨task engine spec strategy, State.fresh placement⟩) →
      let out := CanarySet.startFrom env token i entries w
      (out.ending = .returned (.ok ()) →
          LaunchedInOrder i (i + entries.length) (callsFor .launches (out.world.since w))) ∧
        ∀ e, out.ending = .returned (.error e) → ∃ k before failure,
          k < i + entries.length ∧ LaunchedInOrder i k before ∧
            Unlaunched k (out.world.cancelled token) e failure ∧
            callsFor .launches (out.world.since w) = before ++ failure := by
  induction entries with
  | nil =>
      intro i w _
      refine ⟨fun _ => ?_, nofun⟩
      rw [CanarySet.startFrom, World.since_self]
      exact .nil i
  | cons e rest ih =>
      intro i w h
      obtain ⟨strategy, placement, rfl⟩ := h e List.mem_cons_self
      have hrun := run_start engine spec env token i strategy placement w
      have hfollows := run_follows env token (some i) (task engine spec strategy).start.run
        (State.fresh placement) w
      by_cases hok : (run env token (some i) (task engine spec strategy).start.run
          (State.fresh placement) w).ending = .returned (.ok ())
      · rw [CanarySet.startFrom_of_ok env token hok]
        obtain ⟨r, launched, hr, hcalls⟩ := hrun.1 hok
        dsimp only at hcalls ⊢
        generalize (run env token (some i) (task engine spec strategy).start.run
          (State.fresh placement) w).world = w' at hcalls hfollows ⊢
        have hrest := ih (i + 1) w' fun e he => h e (List.mem_cons_of_mem _ he)
        have hfollows' : (CanarySet.startFrom env token (i + 1) rest w').world.Follows w' :=
          (CanarySet.concerns_startFrom rest (i + 1) w'
            fun e _ => Process.Asks.anything e.task.start.run).follows
        rw [hfollows.since_trans hfollows', callsFor_append, hcalls, List.length_cons,
          Nat.add_comm rest.length 1, ← Nat.add_assoc]
        refine ⟨fun hreturned => .cons hr (hrest.1 hreturned), fun e he => ?_⟩
        obtain ⟨k, before, failure, hk, hbefore, hfailure, hafter⟩ := hrest.2 e he
        exact ⟨k, _, failure, hk, .cons hr hbefore, hfailure, by rw [hafter]; rfl⟩
      · rw [CanarySet.startFrom_of_not_ok env token hok]
        refine ⟨fun hreturned => absurd hreturned hok, fun e he => ?_⟩
        exact ⟨i, [], _, by simp, .nil i, hrun.2 e he, rfl⟩

section Set

variable {d : TaskDefinition} {attachments : Attachments} {w : World controlPlane S}

theorem getElem?_set (i : Nat) : (Canary.set engine d attachments).entries[i]? =
    (strategies attachments)[i]?.map fun strategy =>
      ⟨task engine (.canary engine d attachments) strategy, State.fresh engine.placement⟩ := by
  simp [Canary.set]

theorem length_set : (Canary.set engine d attachments).entries.length =
    (strategies attachments).length := by
  simp [Canary.set]

theorem start_extent (env : Environment controlPlane S) (token : Token) (engine : Engine)
    (d : TaskDefinition) (attachments : Attachments) (w : World controlPlane S) :
    let out := (Canary.set engine d attachments).start env token w
    (out.ending = .returned (.ok ()) →
        LaunchedInOrder 0 (strategies attachments).length
          (callsFor .launches (out.world.since w))) ∧
      ∀ e, out.ending = .returned (.error e) → ∃ k before failure,
        k < (strategies attachments).length ∧ LaunchedInOrder 0 k before ∧
          Unlaunched k (out.world.cancelled token) e failure ∧
          callsFor .launches (out.world.since w) = before ++ failure := by
  have hstart := startFrom_extent engine (.canary engine d attachments) env token
    (Canary.set engine d attachments).entries 0 w fun e he => ?_
  · rw [length_set, Nat.zero_add] at hstart
    exact hstart
  · obtain ⟨strategy, -, rfl⟩ := List.mem_map.mp he
    exact ⟨strategy, engine.placement, rfl⟩

/-! ## Waits -/

/-- With these deeds a canary was started, and its wait came to its end with this result. -/
def Concludes (engine : Engine) (spec : LaunchSpec) (strategy : Strategy)
    (result : Except TaskError Unit) (y : Deeds) : Prop :=
  ∃ s s' first last, y = first ++ last ∧
    Visits recorded (task engine spec strategy).start.run (State.fresh engine.placement) []
      (some (.ok ())) s first ∧
    Visits recorded (task engine spec strategy).wait.run s [] (some result) s' last

theorem wait_extent {result : Except TaskError Unit}
    (hstarted : ((Canary.set engine d attachments).start env token w).ending = .returned (.ok ()))
    (hwaited : (((Canary.set engine d attachments).start env token w).state.wait env token
      ((Canary.set engine d attachments).start env token w).world).ending = .returned result) :
    let started := (Canary.set engine d attachments).start env token w
    let trace := (started.state.wait env token started.world).world.since w
    ∃ results, (fanOut env token (started.state.entries.map fun e => (e.task.wait.run, e.state))
        started.world).ending = .returned results ∧ result = CanarySet.firstError results ∧
      (∀ (i : Nat) (strategy : Strategy), (strategies attachments)[i]? = some strategy →
        ∃ r, (i, r) ∈ results) ∧
        ∀ i r, (i, r) ∈ results → ∃ strategy, (strategies attachments)[i]? = some strategy ∧
          Concludes engine (.canary engine d attachments) strategy r (deedsOf (some i) trace) := by
  intro started trace
  have hsince : trace = started.world.since w ++
      (started.state.wait env token started.world).world.since started.world := by
    have hstaffs := staffs_set engine d attachments
    exact (hstaffs.concerns_start env token w).follows.since_trans
      ((hstaffs.start env token w).concerns_wait env token started.world).follows
  -- The canary with a number, once it is started.
  have hcanary : ∀ (i : Nat) (strategy : Strategy),
      (strategies attachments)[i]? = some strategy → ∃ s,
        started.state.entries[i]? =
            some ⟨task engine (.canary engine d attachments) strategy, s⟩ ∧
          Visits recorded (task engine (.canary engine d attachments) strategy).start.run
            (State.fresh engine.placement) [] (some (.ok ())) s
            (deedsOf (some i) (started.world.since w)) := by
    intro i strategy hi
    exact CanarySet.visits_start hstarted (by rw [getElem?_set, hi]; rfl)
  obtain ⟨results, hresults, hresult, hall, hvisits⟩ := CanarySet.visits_wait hwaited
  refine ⟨results, hresults, hresult, fun i strategy hi => ?_, fun i r hr => ?_⟩
  · obtain ⟨s, hs, -⟩ := hcanary i strategy hi
    exact hall i _ hs
  · obtain ⟨e, s', he, hwait⟩ := hvisits i r hr
    have hlt := (List.getElem?_eq_some_iff.mp he).1
    rw [CanarySet.length_start, length_set] at hlt
    have hi := List.getElem?_eq_getElem hlt
    obtain ⟨s, hs, hstart⟩ := hcanary i _ hi
    cases hs.symm.trans he
    refine ⟨_, hi, s, s', _, _, ?_, hstart, hwait⟩
    rw [hsince, deedsOf_append]

end Set

end Canary

end GatedRollout
