import GatedRollout.Proofs.Canary.Verification

/-!
# What a stopped canary has released

The stop of a canary ends exactly what its account says that it holds: first the registration,
then the task. Nothing that goes wrong on the way leaves either out, and a stop that is abandoned
has ended a beginning of these.
-/

namespace GatedRollout.Canary

variable {strategy : Strategy} {s : State} {x : Deeds} {ms whole : List Mark}

/-- What ends what the state of a canary says that it holds. -/
def State.released (s : State) : List Mark :=
  (s.registration.toList.map fun r => Mark.left r.place) ++ s.handle.taskArn.toList.map Mark.stopped

/-- The handle is this one, and these are the marks so far. -/
def Leaves {α : Type} (handle : Handle) (ms : List Mark) (_ : α) (s : State) (x : Deeds) : Prop :=
  s.handle = handle ∧ marks x = ms

/-- The marks so far are a beginning of these. -/
def Within (whole : List Mark) (_ : State) (x : Deeds) : Prop := marks x <+: whole

theorem within_of_eq {y : Deeds} (hwhole : ms <+: whole) (hy : marks y = ms) :
    Within whole s y := by
  show marks y <+: whole
  rw [hy]
  exact hwhole

/-! ## Leaving -/

/-- Wait for a target to leave, which adds nothing to the marks. -/
theorem secures_waitTargetGone (engine : Engine) (target : Target) (limit : Duration)
    (hwhole : ms <+: whole) (hx : marks x = ms) :
    Secures recorded (Within whole) (fun _ t y => t = s ∧ marks y = ms)
      (waitTargetGone engine target limit).run s x := by
  have hquiet : ∀ es : Deeds, (∀ e ∈ es, e.IsAbout (targetGoneWatch target limit).request) →
      marks (x ++ es) = ms := by
    intro es hes
    rw [marks_append, marks_of_about rfl hes, hx, List.append_nil]
  refine Secures.run_then (Watch.secures_run
    (fun es hes => within_of_eq hwhole (hquiet es hes.about)) (fun es result hes => ?_) _)
  have hmarks := hquiet es hes.about
  cases result with
  | settled u => exact Secures.attempt_pure ⟨rfl, hmarks⟩
  | overdue last => exact Secures.attempt_throw ⟨rfl, hmarks⟩
  | cancelled => exact Secures.attempt_throw ⟨rfl, hmarks⟩
  | failed e => exact Secures.attempt_throw ⟨rfl, hmarks⟩

theorem secures_groupDelay (group : TargetGroupArn) (hwhole : ms <+: whole) (hx : marks x = ms) :
    Secures recorded (Within whole) (fun _ t y => t = s ∧ marks y = ms) (groupDelay group) s x := by
  let asked : Event controlPlane := .issued (.deregistrationDelay group)
  have hasked : marks (x ++ [asked]) = ms := by
    rw [marks_append, hx]
    exact List.append_nil ms
  refine Secures.recorded_ask_bind (within_of_eq hwhole hasked) fun answer => ?_
  let read : Event controlPlane := .returned (.deregistrationDelay group) answer
  have hread : marks (x ++ [asked] ++ [read]) = ms := by
    rw [marks_append, hasked]
    exact List.append_nil ms
  cases answer with
  | ok delay => exact Secures.pure ⟨rfl, hread⟩
  | error e => exact Secures.pure ⟨rfl, hread⟩

/-- Issue the request that ends something, whatever it is answered with. -/
theorem secures_ending {α : Type} {r : ControlPlane.Request} {m : Mark}
    {f : Except ClientError (controlPlane.Reply r) → Process controlPlane State α}
    {post : α → State → Deeds → Prop} (hx : marks x = ms) (hissued : mark? (.issued r) = some m)
    (hreturned : ∀ answer, mark? (.returned r answer) = none) (hwhole : ms ++ [m] <+: whole)
    (next : ∀ answer y, marks y = ms ++ [m] →
      Secures recorded (Within whole) post (f answer) s y) :
    Secures recorded (Within whole) post (Process.ask r >>= f) s x := by
  have hended : marks (x ++ [Event.issued r]) = ms ++ [m] := by
    rw [marks_append, hx, marks_of_mark hissued]
  refine Secures.recorded_ask_bind (within_of_eq hwhole hended) fun answer => ?_
  apply next answer _
  rw [marks_append, hended, marks_of_quiet (hreturned answer), List.append_nil]

theorem secures_deregisterTarget (engine : Engine) {target : Target}
    (hs : s.registration = some (.target target)) (hx : marks x = ms)
    (hwhole : ms ++ [Mark.left (.group target.group target.description)] <+: whole) :
    Secures recorded (Within whole)
      (Leaves s.handle (ms ++ [Mark.left (.group target.group target.description)]))
      (deregisterTarget engine) s x := by
  have hbefore : ms <+: whole := (List.prefix_append ms _).trans hwhole
  apply Secures.state_bind
  rw [hs]
  refine Secures.modify_bind (Secures.bind (secures_groupDelay target.group hbefore hx) ?_)
  intro delay t y hdelay
  obtain ⟨rfl, hy⟩ := hdelay
  refine secures_ending hy rfl (fun _ => rfl) hwhole fun answer y hy => ?_
  cases answer with
  | error e => exact Secures.modify ⟨rfl, hy⟩
  | ok accepted =>
      -- The sum is left as it is: to compare it with itself, the kernel would count it up.
      generalize delay.checkedAdd deregistrationMargin = sum
      cases sum with
      | none => exact within_of_eq (s := s) hwhole hy
      | some limit =>
          apply Secures.bind (secures_waitTargetGone engine target limit hwhole hy)
          intro result t y hgone
          obtain ⟨rfl, hy⟩ := hgone
          cases result with
          | ok u => exact Secures.pure ⟨rfl, hy⟩
          | error e => exact Secures.modify ⟨rfl, hy⟩

theorem secures_deregisterInstance {member : RegisteredInstance}
    (hs : s.registration = some (.discovery member)) (hx : marks x = ms)
    (hwhole : ms ++ [Mark.left (.registry member.serviceId member.instanceId)] <+: whole) :
    Secures recorded (Within whole)
      (Leaves s.handle (ms ++ [Mark.left (.registry member.serviceId member.instanceId)]))
      deregisterInstance s x := by
  apply Secures.state_bind
  rw [hs]
  refine Secures.modify_bind (secures_ending hx rfl (fun _ => rfl) hwhole fun answer y hy => ?_)
  cases answer with
  | ok accepted => exact Secures.pure ⟨rfl, hy⟩
  | error e => exact Secures.modify ⟨rfl, hy⟩

/-- A canary that is registered leaves the place where it is, and any other leaves nothing. -/
theorem Account.secures_deregister (h : Account strategy s x) (engine : Engine)
    (hwhole : s.held ++ (s.registration.toList.map fun r => Mark.left r.place) <+: whole) :
    Secures recorded (Within whole)
      (Leaves s.handle (s.held ++ s.registration.toList.map fun r => Mark.left r.place))
      (deregister engine strategy) s x := by
  have hmarks := h.marks_eq
  cases hr : s.registration with
  | none =>
      have hleaves : Leaves s.handle (s.held ++ []) () s x :=
        ⟨rfl, by rw [hmarks, List.append_nil]⟩
      cases strategy with
      | standalone => exact Secures.pure hleaves
      | loadBalanced balancer =>
          apply Secures.state_bind
          rw [hr]
          exact Secures.pure hleaves
      | registry registry =>
          apply Secures.state_bind
          rw [hr]
          exact Secures.pure hleaves
  | some r =>
      have hadmits := h.admits r hr
      rw [hr] at hwhole
      cases strategy with
      | standalone => cases hadmits
      | loadBalanced balancer =>
          cases r with
          | target target => exact secures_deregisterTarget engine hr hmarks hwhole
          | discovery member => cases hadmits
      | registry registry =>
          cases r with
          | target target => cases hadmits
          | discovery member => exact secures_deregisterInstance hr hmarks hwhole

/-! ## Stopping -/

/-- Whatever the stop returns, a task that was launched is asked to stop once. -/
theorem secures_stopTask (engine : Engine) (hs : s.handle.phase ≠ .stopped) (hx : marks x = ms)
    (hwhole : ms ++ s.handle.taskArn.toList.map Mark.stopped <+: whole) :
    Secures recorded (Within whole)
      (fun _ _ y => marks y = ms ++ s.handle.taskArn.toList.map Mark.stopped)
      (stopTask engine).run s x := by
  apply Secures.state_then
  rw [if_neg hs]
  cases hr : s.handle.taskArn with
  | none => exact Secures.attempt_modify (by rw [hx]; exact (List.append_nil ms).symm)
  | some arn =>
      rw [hr] at hwhole
      let request : ControlPlane.Request := .stopTask engine.cluster arn stopReason
      let asked : Event controlPlane := .issued request
      let answered (answer : Except ClientError Unit) : Event controlPlane :=
        .returned request answer
      have hasked : marks (x ++ [asked]) = ms ++ [Mark.stopped arn] := by
        rw [marks_append, hx]
        rfl
      have hanswered : ∀ answer, marks (x ++ [asked] ++ [answered answer]) =
          ms ++ [Mark.stopped arn] := by
        intro answer
        rw [marks_append, hasked]
        exact List.append_nil _
      refine Secures.modify_then (Secures.recorded_ask_then (within_of_eq hwhole hasked)
        (fun accepted => ?_) (fun e => hanswered (.error e)))
      have hquiet : ∀ es : Deeds, (∀ e ∈ es, e.IsAbout (engine.taskRead arn)) →
          marks (x ++ [asked] ++ [answered (.ok accepted)] ++ es) = ms ++ [Mark.stopped arn] := by
        intro es hes
        rw [marks_append, hanswered, marks_of_about rfl hes, List.append_nil]
      exact Secures.attempt (Q := fun _ _ y => marks y = ms ++ [Mark.stopped arn])
        (Secures.attempt_within (Engine.secures_await_recorded _ _ _
          (fun es hes => within_of_eq hwhole (hquiet es hes.about))
          (fun es _ hes => hquiet es hes.about)))
        (fun _ _ _ hpost => Secures.attempt_modify hpost) (fun _ _ _ hpost => hpost)

/-- The stop of a canary ends all that it holds, whatever it returns. -/
theorem Account.secures_stop (h : Account strategy s x) (engine : Engine) (spec : LaunchSpec) :
    Secures recorded (Within (s.held ++ s.released))
      (fun _ _ y => marks y = s.held ++ s.released) (task engine spec strategy).stop.run s x := by
  have hassoc : s.held ++ s.released =
      s.held ++ (s.registration.toList.map fun r => Mark.left r.place) ++
        s.handle.taskArn.toList.map Mark.stopped := by
    rw [State.released, List.append_assoc]
  rw [hassoc]
  refine Secures.run_then ((h.secures_deregister engine (List.prefix_append _ _)).weaken ?_)
  intro _ t y hleft
  obtain ⟨hhandle, hy⟩ := hleft
  have hstop := secures_stopTask engine (hhandle ▸ h.not_stopped) hy (List.prefix_refl _)
  rw [hhandle] at hstop
  exact hstop

end GatedRollout.Canary
