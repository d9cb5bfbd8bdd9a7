import GatedRollout.Proofs.Canary.Set

/-!
# The canaries of a rollout

A rollout has one canary for each of its strategies. What holds of each of them, with its state and
its own deeds, is carried from one operation on the set to the next: their accounts by every
operation, and more by those that succeed.
-/

namespace GatedRollout.Canary

variable {S : Type} {engine : Engine} {spec : LaunchSpec} {strategies : List Strategy}
  {past : Nat → Deeds} {P Q : Strategy → State → Deeds → Prop}
  {set : CanarySet controlPlane State} {w : World controlPlane S}

/-- The set has one canary for each of the strategies, each with the property. -/
structure Musters (engine : Engine) (spec : LaunchSpec) (strategies : List Strategy)
    (past : Nat → Deeds) (P : Strategy → State → Deeds → Prop)
    (set : CanarySet controlPlane State) (w : World controlPlane S) : Prop where
  length_eq : set.entries.length = strategies.length
  each : ∀ (i : Nat) (strategy : Strategy), strategies[i]? = some strategy → ∃ s y,
    set.entries[i]? = some ⟨task engine spec strategy, s⟩ ∧
      w.deeds (some i) = past i ++ y ∧ P strategy s y

theorem Musters.mono (h : Musters engine spec strategies past P set w)
    (hPQ : ∀ strategy s y, P strategy s y → Q strategy s y) :
    Musters engine spec strategies past Q set w := by
  refine ⟨h.length_eq, fun i strategy hi => ?_⟩
  obtain ⟨s, y, hs, hy, hP⟩ := h.each i strategy hi
  exact ⟨s, y, hs, hy, hPQ strategy s y hP⟩

/-- Canaries that were never begun. -/
theorem musters_fresh (engine : Engine) (taskDefinition : TaskDefinition)
    (attachments : Attachments) (hpast : ∀ i, w.deeds (some i) = past i) :
    Musters engine (.canary engine taskDefinition attachments) (Canary.strategies attachments) past
      (fun _ s y => s = State.fresh engine.placement ∧ y = [])
      (Canary.set engine taskDefinition attachments) w := by
  refine ⟨by simp [Canary.set], fun i strategy hi => ⟨_, [], ?_, ?_, rfl, rfl⟩⟩
  · simp [Canary.set, hi]
  · rw [hpast, List.append_nil]

/-! ## Operations -/

/-- What the operation of every single canary secures, as what a crew secures. -/
theorem Musters.crew (h : Musters engine spec strategies past P set w)
    (op : CanaryTask controlPlane State → Attempt controlPlane State TaskError Unit)
    {inv : Nat → State → Deeds → Prop} {post : Nat → Except TaskError Unit → State → Deeds → Prop}
    (secures : ∀ (i : Nat) strategy s y, strategies[i]? = some strategy →
      set.entries[i]? = some ⟨task engine spec strategy, s⟩ → P strategy s y →
        inv i s y ∧ Secures recorded (inv i) (post i) (op (task engine spec strategy)).run s y) :
    Crew.Secures inv post past (set.entries.map fun e => ((op e.task).run, e.state)) w := by
  refine ⟨fun i p s hi => ?_⟩
  obtain ⟨e, he, rfl, rfl⟩ := CanarySet.exists_of_crew hi
  obtain ⟨hlt, -⟩ := List.getElem?_eq_some_iff.mp he
  rw [h.length_eq] at hlt
  have hstrategy := List.getElem?_eq_getElem hlt
  obtain ⟨s, y, hs, hy, hP⟩ := h.each i _ hstrategy
  obtain rfl := Option.some.inj (he.symm.trans hs)
  exact ⟨y, hy, secures i _ s y hstrategy hs hP⟩

/-- The same where the account is kept and more is secured by a success. -/
theorem Musters.move (h : Musters engine spec strategies past P set w)
    (op : CanaryTask controlPlane State → Attempt controlPlane State TaskError Unit)
    (secures : ∀ strategy s y, P strategy s y → Account strategy s y ∧
      Secures recorded (Account strategy) (Then strategy fun _ => Q strategy)
        (op (task engine spec strategy)).run s y) :
    Crew.Secures (fun i s y => ∀ strategy, strategies[i]? = some strategy → Account strategy s y)
      (fun i a s y => ∀ strategy, strategies[i]? = some strategy →
        Then strategy (fun _ => Q strategy) a s y) past
      (set.entries.map fun e => ((op e.task).run, e.state)) w := by
  refine h.crew op fun i strategy s y hi _ hP => ?_
  obtain ⟨haccount, hsecures⟩ := secures strategy s y hP
  have same : ∀ {other}, strategies[i]? = some other → other = strategy :=
    fun hother => Option.some.inj (hother.symm.trans hi)
  refine ⟨fun _ hother => same hother ▸ haccount, hsecures.mono ?_ ?_⟩
  · exact fun t z hz _ hother => same hother ▸ hz
  · exact fun a t z hz _ hother => same hother ▸ hz

/-- What an operation on the canaries leaves: the account of each in any case, and the property of
each if it succeeded. -/
structure Kept (engine : Engine) (spec : LaunchSpec) (strategies : List Strategy)
    (past : Nat → Deeds) (Q : Strategy → State → Deeds → Prop) (w : World controlPlane S)
    (out : CanarySet.Outcome controlPlane S State) : Prop where
  follows : out.world.Follows w
  others : ∀ other, (∀ i < strategies.length, other ≠ some i) →
    out.world.deeds other = w.deeds other
  accounts : Musters engine spec strategies past Account out.state out.world
  succeeded : out.ending = .returned (.ok ()) →
    Musters engine spec strategies past Q out.state out.world

theorem Kept.trans {first second : CanarySet.Outcome controlPlane S State}
    (h : Kept engine spec strategies past P w first)
    (h' : Kept engine spec strategies past Q first.world second) :
    Kept engine spec strategies past Q w second :=
  ⟨h.follows.trans h'.follows, fun other hother =>
    (h'.others other hother).trans (h.others other hother), h'.accounts, h'.succeeded⟩

theorem Musters.kept (h : Musters engine spec strategies past P set w)
    (hQ : ∀ strategy s y, Q strategy s y → Account strategy s y)
    {out : CanarySet.Outcome controlPlane S State}
    (hout : out.Secured
      (fun i s y => ∀ strategy, strategies[i]? = some strategy → Account strategy s y)
      (fun i a s y => ∀ strategy, strategies[i]? = some strategy →
        Then strategy (fun _ => Q strategy) a s y) past set w) :
    Kept engine spec strategies past Q w out := by
  have hlength := hout.length_eq.trans h.length_eq
  refine ⟨hout.follows, fun other hother => hout.others other (h.length_eq ▸ hother),
    ⟨hlength, ?_⟩, fun hok => ⟨hlength, ?_⟩⟩
  · intro i strategy hi
    obtain ⟨s₀, -, hs₀, -, -⟩ := h.each i strategy hi
    obtain ⟨s, found, y, hs, hy, hfound, -⟩ := hout.each i _ hs₀
    refine ⟨s, y, hs, hy, ?_⟩
    cases found with
    | none => exact hfound strategy hi
    | some result =>
        cases result with
        | ok u => exact hQ strategy s y (hfound strategy hi)
        | error e => exact hfound strategy hi
  · intro i strategy hi
    obtain ⟨s₀, -, hs₀, -, -⟩ := h.each i strategy hi
    obtain ⟨s, found, y, hs, hy, hfound, hreturned⟩ := hout.each i _ hs₀
    rw [hreturned hok] at hfound
    exact ⟨s, y, hs, hy, hfound strategy hi⟩

variable (env : Environment controlPlane S) (token : Token)

/-- A canary whose task was launched, and that is registered nowhere yet. -/
def Begun (strategy : Strategy) (s : State) (y : Deeds) : Prop :=
  ∃ arn, Stands strategy arn none [Launched arn] s y

theorem Musters.start (h : Musters engine spec strategies past
      (fun _ s y => s = State.fresh engine.placement ∧ y = []) set w) :
    Kept engine spec strategies past Begun w (set.start env token w) := by
  refine h.kept (fun _ _ _ ⟨_, hstands⟩ => hstands.account)
    (CanarySet.secured_start env token (h.move (·.start) fun strategy s y hfresh => ?_))
  obtain ⟨rfl, rfl⟩ := hfresh
  exact ⟨account_fresh strategy engine.placement,
    secures_start engine spec strategy engine.placement⟩

theorem Musters.wait (h : Musters engine spec strategies past Begun set w) :
    Kept engine spec strategies past
      (fun strategy => Verified engine spec.taskDefinition strategy ()) w
      (set.wait env token w) := by
  refine h.kept (fun _ _ _ hverified => hverified.1)
    (CanarySet.secured_wait env token (h.move (·.wait) fun strategy s y hbegun => ?_))
  obtain ⟨arn, hstands⟩ := hbegun
  exact ⟨hstands.account, secures_wait engine spec strategy hstands⟩

/-! ## Cleanup -/

/-- What the cleanup of a set adds to the deeds of its canaries: it ends only what they hold, in the
order in which a stop does, and all of it if the cleanup returned. -/
structure Cleaned (strategies : List Strategy) (past : Nat → Deeds) (w : World controlPlane S)
    (out : CanarySet.Outcome controlPlane S State) : Prop where
  follows : out.world.Follows w
  others : ∀ other, (∀ i < strategies.length, other ≠ some i) →
    out.world.deeds other = w.deeds other
  each : ∀ i < strategies.length, ∃ (s : State) (z : Deeds),
    out.world.deeds (some i) = past i ++ z ∧ marks z <+: s.held ++ s.released ∧
      ∀ result, out.ending = .returned result → marks z = s.held ++ s.released

/-- What the stop of each canary secures, by what its entry held before. -/
theorem Musters.stops (h : Musters engine spec strategies past Account set w) :
    Crew.Secures
      (fun i _ y => ∀ e, set.entries[i]? = some e → marks y <+: e.state.held ++ e.state.released)
      (fun i _ _ y => ∀ e, set.entries[i]? = some e → marks y = e.state.held ++ e.state.released)
      past (set.entries.map fun e => (e.task.stop.run, e.state)) w := by
  refine h.crew (·.stop) fun i strategy s y _ hs haccount => ?_
  have same : ∀ {e}, set.entries[i]? = some e → e = ⟨task engine spec strategy, s⟩ :=
    fun he => Option.some.inj (he.symm.trans hs)
  refine ⟨fun e he => ?_, (haccount.secures_stop engine spec).mono ?_ ?_⟩
  · rw [same he, haccount.marks_eq]
    exact List.prefix_append _ _
  · intro t z hz e he
    rw [same he]
    exact hz
  · intro a t z hz e he
    rw [same he]
    exact hz

theorem Musters.cleanup (h : Musters engine spec strategies past Account set w)
    (budget : Duration) :
    Cleaned strategies past w (set.cleanupWithin env token budget w) := by
  obtain ⟨g, hg, hsecured⟩ := CanarySet.cleanupWithin_eq env token budget h.stops
  rw [hg]
  refine ⟨hsecured.follows, fun other hother => hsecured.others other (h.length_eq ▸ hother), ?_⟩
  intro i hi
  obtain ⟨s, -, hs, -, -⟩ := h.each i _ (List.getElem?_eq_getElem hi)
  rw [← h.length_eq, ← hsecured.length_eq] at hi
  obtain ⟨found, z, hz, hfound, hall⟩ := hsecured.states i _ (List.getElem?_eq_getElem hi)
  refine ⟨s, z, hz, ?_, fun result hreturned => ?_⟩
  · cases found with
    | none => exact hfound _ hs
    | some returned =>
        have hmarks : s.held ++ s.released = marks z := (hfound _ hs).symm
        exact hmarks ▸ List.prefix_rfl
  · obtain ⟨results, hresults, -⟩ := CanarySet.gather_returned hreturned
    obtain ⟨returned, rfl, -⟩ := hall results hresults
    exact hfound _ hs

end GatedRollout.Canary
