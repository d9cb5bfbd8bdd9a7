import GatedRollout.Proofs.Process.Ends
import GatedRollout.Proofs.Recreate.Fleet
import GatedRollout.Proofs.Recreate.Protocol

/-!
# The capacity of a recreation

A recreation never touches the service that carries the capacity. At first that is the old service;
once the transit service is stable at the desired count it is the transit service, and once the
final service is stable at that count it is the final one. `Guards` is what such a carrier gives:
a fact that no convergence undoes and that bounds the capacity from below.
-/

namespace GatedRollout.Recreation

open Fleet

/-! ## What is owed -/

/-- The capacity that is owed when these steps are recorded: the first bound, and the second one
from the scaling of the transit service on. -/
def owed (m n : Nat) (steps : Steps) : Nat :=
  if steps.any (·.step == .scaleTransit) then n else m

theorem owed_le_full {m n : Nat} {steps : Steps} (h : m ≤ n) : owed m n steps ≤ n := by
  unfold owed
  split
  · exact Nat.le_refl n
  · exact h

/-- What is owed is there, however the counts move on. -/
def Safe (m n : Nat) (steps : Steps) (fleet : Fleet) : Prop :=
  ∀ later, fleet.Converges later → owed m n steps ≤ later.capacity

/-- A fact that lasts, and that keeps the capacity at the bound. -/
structure Guards (bound : Nat) (Φ : Fleet → Prop) : Prop where
  stable : Stable Φ
  enough : ∀ {fleet}, Φ fleet → bound ≤ fleet.capacity

variable {m n : Nat} {steps : Steps} {Φ Φ' : Fleet → Prop}

theorem Guards.safe (hΦ : Guards (owed m n steps) Φ) {fleet : Fleet} (h : Φ fleet) :
    Safe m n steps fleet :=
  fun _ hlater => hΦ.enough (hΦ.stable.converges h hlater)

/-! ## Calls -/

theorem plane_returned {x y z : Scene} {r : ControlPlane.Request}
    {answer : Except ClientError (controlPlane.Reply r)} (hissued : plane.issues x r y)
    (hreturned : plane.returns y r answer z) :
    ∃ before after, x.fleet.Converges before ∧ before.Answers r answer after ∧
      after.Converges z.fleet := by
  obtain ⟨before, after, answer', hbefore, hanswers, hafter, hpending⟩ := hissued
  obtain ⟨hpending', rfl⟩ := hreturned
  obtain rfl : answer' = answer := by
    have hsame := Option.some.inj (hpending.symm.trans hpending')
    exact eq_of_heq (Sigma.mk.inj hsame).2
  exact ⟨before, after, hbefore, hanswers, hafter⟩

/-- What a step leaves: it is recorded and its fact established, or the capacity is as it was. -/
def Passed {β : Type} (m n : Nat) (steps : Steps) (p : Planned) (Φ : Fleet → Prop) :
    Except RecreateError β → Steps → Scene → Prop
  | .ok _, steps', scene => steps' = steps ++ [p.record] ∧ Φ scene.fleet
  | .error _, steps', scene => Safe m n steps' scene.fleet

/-- Whether the request is accepted or not, what is owed is there. -/
theorem secures_change {β : Type} {p : Planned} {confirm : Move β} {Ψ : Fleet → Prop}
    (hΦ : Guards (owed m n steps) Φ) (hΦ' : Guards (owed m n steps) Φ')
    (haccepts : ∀ fleet reply later, Φ fleet → fleet.Accepts p.request reply later → Φ' later)
    (hconfirm : ∀ scene : Scene, Φ' scene.fleet →
      Secures plane (fun steps scene => Safe m n steps scene.fleet) (Passed m n steps p Ψ)
        confirm.run steps scene) {scene : Scene} (h : Φ scene.fleet) :
    Secures plane (fun steps scene => Safe m n steps scene.fleet) (Passed m n steps p Ψ)
      (Attempt.ask (ι := controlPlane) p.request (RecreateError.mutate p.step p.service) >>=
        fun _ => confirm).run steps scene := by
  refine Secures.ask_then fun y hy => ⟨?_, ?_, ?_⟩
  · obtain ⟨before, after, answer, hbefore, hanswers, hafter, -⟩ := hy
    have hold := hΦ.stable.converges h hbefore
    cases answer with
    | ok reply =>
        have hnew := haccepts before reply after hold hanswers
        exact hΦ'.safe (hΦ'.stable.converges hnew hafter)
    | error e =>
        obtain rfl : after = before := hanswers
        exact hΦ.safe (hΦ.stable.converges hold hafter)
  · intro reply z hz
    obtain ⟨before, after, hbefore, hanswers, hafter⟩ := plane_returned hy hz
    have hnew := haccepts before reply after (hΦ.stable.converges h hbefore) hanswers
    exact hconfirm z (hΦ'.stable.converges hnew hafter)
  · intro e z hz
    obtain ⟨before, after, hbefore, rfl, hafter⟩ := plane_returned hy hz
    exact hΦ.safe (hΦ.stable.converges (hΦ.stable.converges h hbefore) hafter)

/-- A description that confirms the step establishes its fact; until then, what is owed is there. -/
theorem secures_confirm {β : Type} {p : Planned} (hΦ : Guards (owed m n steps) Φ)
    (hΦ' : Stable Φ')
    (hshown : ∀ fleet reply, Φ fleet → Shows (fleet.holding p.service) reply →
      p.confirms reply = true → Φ' fleet)
    {judge : Option Service → Judgement (Except WaitError β) String}
    (hjudge : ∀ reply, p.confirms reply = Engine.succeeds (judge reply)) (engine : Engine)
    (what cluster : String) (interval limit : Duration) {scene : Scene} (h : Φ scene.fleet) :
    Secures plane (fun steps scene => Safe m n steps scene.fleet) (Passed m n steps p Φ')
      (do
        let b ← (engine.await (σ := Steps) what
          ⟨.describeService cluster p.service, interval, limit, "", fun _ => judge⟩).within
            (RecreateError.settle p.step p.service)
        record p.step p.service p.count
        return b : Move β).run steps scene := by
  let watch : Watch controlPlane (Except WaitError β) String :=
    ⟨.describeService cluster p.service, interval, limit, "", fun _ => judge⟩
  -- The reply was given somewhere between the issue and the return, where the fact still held.
  have hread : ∀ {x y z : Scene} {reply : Option Service}, Φ x.fleet →
      plane.issues x (.describeService cluster p.service) y →
        plane.returns y (.describeService cluster p.service) (.ok reply) z →
          ∃ shown, Φ shown ∧ Shows (shown.holding p.service) reply ∧ shown.Converges z.fleet := by
    intro x y z reply hx hy hz
    obtain ⟨before, after, hbefore, ⟨hshows, rfl⟩, hafter⟩ := plane_returned hy hz
    exact ⟨after, hΦ.stable.converges hx hbefore, hshows, hafter⟩
  have keeps : watch.Keeps plane (fun steps scene => Safe m n steps scene.fleet)
      (fun watched steps' scene => match Engine.conclusion what limit watched with
        | .ok _ => steps' = steps ∧ Φ' scene.fleet
        | .error _ => Safe m n steps' scene.fleet) steps fun scene => Φ scene.fleet := by
    refine ⟨?_, ?_, ?_, ?_, ?_, ?_⟩
    · exact fun hx => ⟨hΦ.safe hx, hΦ.safe hx⟩
    · exact fun hx hslept => hΦ.stable.converges hx hslept.1
    · intro x y hx hissued
      obtain ⟨before, after, answer, hbefore, hanswers, hafter, -⟩ := hissued
      have hbefore := hΦ.stable.converges hx hbefore
      obtain rfl : after = before := by
        cases answer with
        | ok reply => exact hanswers.2
        | error e => exact hanswers
      exact hΦ.safe (hΦ.stable.converges hbefore hafter)
    · intro x y e z hx hy hz
      obtain ⟨before, after, hbefore, rfl, hafter⟩ := plane_returned hy hz
      exact hΦ.safe (hΦ.stable.converges (hΦ.stable.converges hx hbefore) hafter)
    · intro x y seen reply result z hx hy hz hsettled
      obtain ⟨shown, hold, hshows, hlater⟩ := hread hx hy hz
      have hsettled : judge reply = .settled result := hsettled
      cases result with
      | ok b =>
          have hconfirms : p.confirms reply = true := by
            rw [hjudge reply, hsettled]
            rfl
          exact ⟨rfl, hΦ'.converges (hshown shown reply hold hshows hconfirms) hlater⟩
      | error e => exact hΦ.safe (hΦ.stable.converges hold hlater)
    · intro x y seen reply seen' z hx hy hz _
      obtain ⟨shown, hold, -, hlater⟩ := hread hx hy hz
      have hz := hΦ.stable.converges hold hlater
      exact ⟨hz, hΦ.safe hz⟩
  refine Secures.attempt (Q := fun result steps' scene => match result with
    | .ok _ => steps' = steps ∧ Φ' scene.fleet
    | .error _ => Safe m n steps' scene.fleet)
    (Secures.attempt_within (Engine.secures_await engine what watch ?_)) ?_ (fun _ _ _ h => h)
  · refine (keeps.run engine.patience h).weaken fun watched steps' scene hpost => ?_
    cases hconclusion : Engine.conclusion what limit watched with
    | ok b => simpa only [hconclusion, Except.mapError] using hpost
    | error e => simpa only [hconclusion, Except.mapError] using hpost
  · intro b t scene hpost
    obtain ⟨rfl, hscene⟩ := hpost
    exact Secures.modify_then (Secures.attempt_pure ⟨rfl, hscene⟩)

/-! ## The changes beside a carrier -/

/-- The capacity is carried by one service, and this is another. -/
def Beside (carrier : ServiceName) (count : UInt32) (bound : Nat) (name : ServiceName)
    (fleet : Fleet) : Prop :=
  Holds carrier count bound fleet ∧ name ≠ carrier

section Steps

variable {carrier name : ServiceName} {count : UInt32} {bound : Nat}

theorem guards_holds (hbound : bound ≤ count.toNat) (howed : owed m n steps ≤ bound) :
    Guards (owed m n steps) (Holds carrier count bound) :=
  ⟨stable_holds carrier hbound, fun h => howed.trans h.le_capacity⟩

theorem guards_beside (hbound : bound ≤ count.toNat) (howed : owed m n steps ≤ bound) :
    Guards (owed m n steps) (Beside carrier count bound name) :=
  ⟨(stable_holds carrier hbound).and (stable_const _), fun h => howed.trans h.1.le_capacity⟩

variable (recreation : Recreation) (step : RecreateStep) {scene : Scene}

/-- What is created is not what carries the capacity, since that is in the way of its name. -/
theorem secures_create (hbound : bound ≤ count.toNat) (howed : owed m n steps ≤ bound)
    (h : Holds carrier count bound scene.fleet) :
    Secures plane (fun steps scene => Safe m n steps scene.fleet)
      (Passed m n steps (recreation.created step name) (Beside carrier count bound name))
      (recreation.create step name).run steps scene := by
  have hguards : Guards (owed m n steps) (Beside carrier count bound name) :=
    guards_beside hbound howed
  refine secures_change (p := recreation.created step name) (guards_holds hbound howed) hguards ?_
    (fun scene hscene => secures_confirm (p := recreation.created step name) hguards hguards.stable
      (fun _ _ hfleet _ _ => hfleet) (isUp_eq_succeeds name) _ _ _ _ _ hscene) h
  intro fleet _ after hfleet hcreated
  obtain ⟨hfree, running, rfl⟩ := hcreated
  have hne := hfleet.not_free hfree
  exact ⟨hfleet.set_of_ne hne _, hne⟩

/-- A service beside the carrier that is stable at its new count carries as much by itself. -/
theorem secures_scale_up (hbound : bound ≤ count.toNat) (howed : owed m n steps ≤ bound)
    (goal : UInt32) (h : Beside carrier count bound name scene.fleet) :
    Secures plane (fun steps scene => Safe m n steps scene.fleet)
      (Passed m n steps (recreation.scaled step name goal) (Beside name goal goal.toNat carrier))
      (recreation.scale step name goal).run steps scene := by
  have hguards : Guards (owed m n steps) (Beside carrier count bound name) :=
    guards_beside hbound howed
  have hraised : Guards (owed m n steps) fun fleet =>
      Beside carrier count bound name fleet ∧ Desired name goal fleet :=
    ⟨hguards.stable.and (stable_desired name goal), fun h => hguards.enough h.1⟩
  refine secures_change (p := recreation.scaled step name goal) hguards hraised ?_
    (fun scene hscene => secures_confirm (p := recreation.scaled step name goal) hraised
      ((stable_holds name (Nat.le_refl _)).and (stable_const _)) ?_ (isUp_eq_succeeds name)
      _ _ _ _ _ hscene) h
  · intro fleet _ after hbeside hscaled
    obtain ⟨hholds, hne⟩ := hbeside
    obtain ⟨held, hheld, rfl⟩ := hscaled
    exact ⟨⟨hholds.set_of_ne hne _, hne⟩, _, fleet.holding_set name _, rfl⟩
  · intro fleet reply hscaled hshows hup
    obtain ⟨⟨hholds, hne⟩, held, hheld, rfl⟩ := hscaled
    cases reply with
    | none => cases hup
    | some service =>
        rw [show (recreation.scaled step name held.desired).service = name from rfl, hheld]
          at hshows
        obtain ⟨hstatus, hdesired, hrunning⟩ := hshows
        have hstable : service.status = .active ∧ service.runningCount = service.desiredCount := by
          have : service.isStable = true := hup
          simp only [Service.isStable, Bool.and_eq_true, beq_iff_eq] at this
          exact ⟨this.1.1, this.2⟩
        refine ⟨⟨held, hheld, ?_, rfl, ?_⟩, hne.symm⟩
        · rw [← hstatus, hstable.1]
          exact ServiceStatus.noConfusion
        · rw [← hrunning, hstable.2, hdesired]

/-- Whatever becomes of a service beside the carrier, the capacity stays. -/
theorem secures_scale (hbound : bound ≤ count.toNat) (howed : owed m n steps ≤ bound)
    (goal : UInt32) (h : Beside carrier count bound name scene.fleet) :
    Secures plane (fun steps scene => Safe m n steps scene.fleet)
      (Passed m n steps (recreation.scaled step name goal) (Beside carrier count bound name))
      (recreation.scale step name goal).run steps scene := by
  have hguards : Guards (owed m n steps) (Beside carrier count bound name) :=
    guards_beside hbound howed
  refine secures_change (p := recreation.scaled step name goal) hguards hguards ?_
    (fun scene hscene => secures_confirm (p := recreation.scaled step name goal) hguards
      hguards.stable (fun _ _ hfleet _ _ => hfleet) (isUp_eq_succeeds name) _ _ _ _ _ hscene) h
  intro fleet _ after hbeside hscaled
  obtain ⟨hholds, hne⟩ := hbeside
  obtain ⟨held, -, rfl⟩ := hscaled
  exact ⟨hholds.set_of_ne hne _, hne⟩

theorem secures_delete (hbound : bound ≤ count.toNat) (howed : owed m n steps ≤ bound)
    (h : Beside carrier count bound name scene.fleet) :
    Secures plane (fun steps scene => Safe m n steps scene.fleet)
      (Passed m n steps (recreation.deleted step name) (Beside carrier count bound name))
      (recreation.delete step name).run steps scene := by
  have hguards : Guards (owed m n steps) (Beside carrier count bound name) :=
    guards_beside hbound howed
  refine secures_change (p := recreation.deleted step name) hguards hguards ?_
    (fun scene hscene => secures_confirm (p := recreation.deleted step name) hguards
      hguards.stable (fun _ _ hfleet _ _ => hfleet) isGone_eq_succeeds _ _ _ _ _ hscene) h
  intro fleet _ after hbeside hdeleted
  obtain ⟨hholds, hne⟩ := hbeside
  obtain ⟨held, -, -, rfl⟩ := hdeleted
  exact ⟨hholds.set_of_ne hne _, hne⟩

end Steps

/-! ## The transition -/

/-- From a step to the next: where the step gave up, what was owed is there. -/
theorem secures_pass {β γ : Type} {p : Planned} {first : Move β} {rest : β → Move γ}
    {scene : Scene}
    (hfirst : Secures plane (fun steps scene => Safe m n steps scene.fleet)
      (Passed m n steps p Φ) first.run steps scene)
    (hrest : ∀ b scene, Φ scene.fleet →
      Secures plane (fun steps scene => Safe m n steps scene.fleet)
        (fun _ steps scene => Safe m n steps scene.fleet) (rest b).run (steps ++ [p.record])
        scene) :
    Secures plane (fun steps scene => Safe m n steps scene.fleet)
      (fun _ steps scene => Safe m n steps scene.fleet) (first >>= rest).run steps scene := by
  refine Secures.attempt hfirst ?_ (fun _ _ _ hpassed => hpassed)
  intro b t scene hpassed
  obtain ⟨rfl, hscene⟩ := hpassed
  exact hrest b scene hscene

theorem transition_safe (recreation : Recreation) (old transit : ServiceName) (count : UInt32)
    (hm : m ≤ count.toNat) {scene : Scene} (h : Holds old count m scene.fleet) :
    Secures plane (fun steps scene => Safe m count.toNat steps scene.fleet)
      (fun _ steps scene => Safe m count.toNat steps scene.fleet)
      (recreation.transition old transit count).run [] scene := by
  have hfull := Nat.le_refl count.toNat
  have howed : ∀ steps, owed m count.toNat steps ≤ count.toNat := fun _ => owed_le_full hm
  refine secures_pass (secures_create recreation .createTransit hm (Nat.le_of_eq rfl) h)
    fun _ scene h => ?_
  refine secures_pass (secures_scale_up recreation .scaleTransit hm (Nat.le_of_eq rfl) count h)
    fun _ scene h => ?_
  -- From here on the transit service carries the capacity.
  refine secures_pass (secures_scale recreation .drainOld hfull (howed _) 0 h)
    fun _ scene h => ?_
  refine secures_pass (secures_delete recreation .deleteOld hfull (howed _) h) fun _ scene h => ?_
  refine secures_pass (secures_create recreation .createFinal hfull (howed _) h.1)
    fun _ scene h => ?_
  refine secures_pass (secures_scale_up recreation .scaleFinal hfull (howed _) count h)
    fun _ scene h => ?_
  -- From here on the final service does.
  refine secures_pass (secures_scale recreation .drainTransit hfull (howed _) 0 h)
    fun _ scene h => ?_
  refine secures_pass (secures_delete recreation .deleteTransit hfull (howed _) h)
    fun _ scene h => ?_
  exact Secures.attempt_pure ((guards_beside hfull (howed _)).safe h)

/-! ## Whole recreations -/

/-- The capacity that a recreation owes once the old service was described. -/
def Sufficient (recreation : Recreation) (steps : Steps) (x : Deeds × Scene) : Prop :=
  ∀ old, recreation.Begins old x.1 →
    Safe (min old.desiredCount.toNat old.runningCount.toNat) old.desiredCount.toNat steps x.2.fleet

theorem begins_unique {recreation : Recreation} {old : Service} {reply : Option Service}
    {trace : Deeds} (h : recreation.Begins old trace)
    (hreply : [.issued (.describeService recreation.engine.cluster recreation.engine.service),
      described recreation.engine.cluster recreation.engine.service reply] <+: trace) :
    reply = some old := by
  have hsame := (List.prefix_of_prefix_length_le hreply h.2 (Nat.le_refl _)).eq_of_length rfl
  simpa [described] using hsame

theorem secures_capacity (recreation : Recreation) (before : Steps) (fleet : Fleet) :
    Secures (recorded.along plane) recreation.Sufficient
      (fun _ steps x => recreation.Sufficient steps x) recreation.recreate.run before
      ([], { fleet }) := by
  refine Secures.modify_then (Secures.ask_then ?_)
  rintro ⟨_, y⟩ ⟨rfl, hissued⟩
  refine ⟨fun old hold => absurd hold.2.length_le (by simp), ?_, ?_⟩
  case refine_2 =>
    rintro e ⟨_, z⟩ ⟨rfl, -⟩ old ⟨-, hold⟩
    have hsame := hold.eq_of_length rfl
    simp [described] at hsame
  rintro found ⟨_, z⟩ ⟨rfl, hreturned⟩
  refine Secures.lift_then (fun old hjudge => ?_) (fun e herror => ?_)
  case refine_2 =>
    intro old hold
    obtain rfl := begins_unique hold List.prefix_rfl
    rw [judgeOld, if_neg (by simp [hold.1])] at herror
    cases herror
  obtain ⟨rfl, hactive⟩ := judgeOld_ok hjudge
  have hholds : Holds recreation.engine.service old.desiredCount
      (min old.desiredCount.toNat old.runningCount.toNat) z.fleet := by
    obtain ⟨before, after, -, ⟨hshows, rfl⟩, hafter⟩ := plane_returned hissued hreturned
    refine (stable_holds _ (Nat.min_le_left ..)).converges ?_ hafter
    cases hheld : after.holding recreation.engine.service with
    | none =>
        rw [hheld] at hshows
        exact hshows.elim
    | some held =>
        rw [hheld] at hshows
        obtain ⟨hstatus, hdesired, hrunning⟩ := hshows
        refine ⟨held, hheld, ?_, hdesired.symm, ?_⟩
        · rw [← hstatus]
          simpa [Service.isInactive] using hactive
        · rw [← hrunning]
          exact Nat.min_le_right ..
  refine Secures.now_then fun now => ?_
  have hsafe := transition_safe recreation recreation.engine.service
    (recreation.engine.service.transit (Calendar.stamp now)) old.desiredCount
    (Nat.min_le_left ..) hholds
  have hextends := (Secures.anything (E := recorded) (recreation.transition
    recreation.engine.service (recreation.engine.service.transit (Calendar.stamp now))
    old.desiredCount).run [] _).extends (List.prefix_rfl (l := [.issued (.describeService
      recreation.engine.cluster recreation.engine.service),
      described recreation.engine.cluster recreation.engine.service (some old)]))
  have hsufficient : ∀ (steps : Steps) (x : Deeds × Scene),
      [.issued (.describeService recreation.engine.cluster recreation.engine.service),
        described recreation.engine.cluster recreation.engine.service (some old)] <+: x.1 →
      Safe (min old.desiredCount.toNat old.runningCount.toNat) old.desiredCount.toNat steps
        x.2.fleet → recreation.Sufficient steps x := by
    intro steps x hprefix hx old' hold'
    obtain rfl := Option.some.inj (begins_unique hold' hprefix)
    exact hx
  refine Secures.attempt ((hextends.along hsafe).mono
    (fun steps x h => hsufficient steps x h.1.2 h.2)
    (fun _ steps x h => hsufficient steps x h.1.2 h.2)) ?_ (fun _ _ _ h => h)
  exact fun service steps x h => Secures.state_then (Secures.attempt_pure h)

/-- Once the old service was described, the capacity is at least the lesser of the two counts
described, and at least the desired count once the transit service was scaled. -/
theorem Sufficient.bounds {recreation : Recreation} {trace : Deeds} {scene : Scene}
    (h : recreation.Sufficient steps (trace, scene)) {old : Service}
    (hold : recreation.Begins old trace) {later : Fleet} (hlater : scene.fleet.Converges later) :
    min old.desiredCount.toNat old.runningCount.toNat ≤ later.capacity ∧
      ((∃ s ∈ steps, s.step = .scaleTransit) → old.desiredCount.toNat ≤ later.capacity) := by
  have howed := h old hold later hlater
  constructor
  · refine Nat.le_trans ?_ howed
    unfold owed
    split
    · exact Nat.min_le_left ..
    · exact Nat.le_refl _
  · intro hscaled
    obtain ⟨s, hs, hstep⟩ := hscaled
    have hany : steps.any (·.step == .scaleTransit) = true :=
      List.any_eq_true.mpr ⟨s, hs, by simp [hstep]⟩
    rwa [owed, if_pos hany] at howed

theorem sufficient_of_visits {recreation : Recreation} {before : Steps} {fleet : Fleet}
    {found : Option (Except RecreateError Result)} {trace : Deeds} {scene : Scene}
    (visit : Visits (recorded.along plane) recreation.recreate.run before ([], { fleet }) found
      steps (trace, scene)) : recreation.Sufficient steps (trace, scene) := by
  have hsecured := (secures_capacity recreation before fleet).visits visit
  cases found with
  | some result => exact hsecured
  | none => exact hsecured

/-- At every state that a recreation visits and however the counts move on from there, the capacity
is at least the lesser of the desired and the running count that the old service was described
with, and at least the desired count once the transit service was scaled. -/
theorem recreate_keeps_capacity (recreation : Recreation) (before : Steps) (fleet : Fleet)
    {found : Option (Except RecreateError Result)} {steps : Steps} {trace : Deeds} {scene : Scene}
    (visit : Visits (recorded.along plane) recreation.recreate.run before ([], { fleet }) found
      steps (trace, scene))
    {old : Service} (hold : recreation.Begins old trace) {later : Fleet}
    (hlater : scene.fleet.Converges later) :
    min old.desiredCount.toNat old.runningCount.toNat ≤ later.capacity ∧
      ((∃ s ∈ steps, s.step = .scaleTransit) → old.desiredCount.toNat ≤ later.capacity) :=
  (sufficient_of_visits visit).bounds hold hlater

/-- A run of a recreation begins with the old service, if that is described at first. -/
theorem run_begins {S : Type} (recreation : Recreation) {env : Environment controlPlane S}
    (token : Token) {actor : Option Nat} (before : Steps) {w : World controlPlane S}
    {old : Service} (hactive : old.isInactive = false)
    (htells : w.Tells (ι := controlPlane) env actor
      (.describeService recreation.engine.cluster recreation.engine.service) (.ok (some old))) :
    recreation.Begins old (deedsOf actor
      ((run env token actor recreation.recreate.run before w).world.since w)) := by
  let r : ControlPlane.Request :=
    .describeService recreation.engine.cluster recreation.engine.service
  let told := w.told (ι := controlPlane) env actor r (.ok (some old))
  have htold : told.Follows w := (World.follows_issue ..).trans (World.follows_note ..)
  have hrun : (run env token actor recreation.recreate.run before w).world.Follows told := by
    change (run env token actor (.call r _) [] w).world.Follows told
    rw [run_call_told htells]
    exact run_follows ..
  have hdeeds : told.deeds actor =
      w.deeds actor ++ [.issued r, .returned r (.ok (some old))] := by
    simp [told, World.told, World.deeds_note, World.deeds_issue, Event.isDeed]
  refine ⟨hactive, ?_⟩
  rw [htold.since_trans hrun, deedsOf_append, htold.deedsOf_since hdeeds]
  exact List.prefix_append ..

/-- The old service is to be drained once the transit service was scaled to two tasks, and comes to
a halt with one: with the transit service, two tasks are left whatever is still to come. -/
theorem recreate_keeps_two_tasks :
    let name : ServiceName := ⟨"api"⟩
    let definition : TaskDefinition := { arn := ⟨"task-definition/api:2"⟩, family := "api" }
    let config : Config :=
      { cluster := "prod", service := name, timeouts := .uniform (.ofSeconds 1) }
    let recreation : Recreation :=
      ⟨{ config, patience := 0 }, definition, { serviceName := name }⟩
    let fleet := Fleet.empty.set name ⟨.active, 2, 2⟩
    let transit := name.transit (Calendar.stamp default)
    let old := Holding.describe name ⟨.active, 2, 2⟩
    ∃ found steps trace scene later,
      Visits (recorded.along plane) recreation.recreate.run [] ([], { fleet }) found steps
        (trace, scene) ∧
      recreation.Begins old trace ∧
      steps = [⟨.createTransit, transit, 1⟩, ⟨.scaleTransit, transit, 2⟩] ∧
      scene.fleet.Moves later ∧ 2 ≤ later.capacity := by
  intro name definition config recreation fleet transit old
  let w : World controlPlane Fleet := .start default false fleet
  let out := run obeying .caller none recreation.recreate.run [] w
  have hsteps : out.state = [⟨.createTransit, transit, 1⟩, ⟨.scaleTransit, transit, 2⟩] := by
    decide +kernel
  have hdrained : out.world.env.holding name = some ⟨.active, 0, 1⟩ := by
    decide +kernel
  have hmoves : out.world.env.Moves (out.world.env.set name ⟨.active, 0, 0⟩) :=
    ⟨name, _, _, hdrained, .down (by decide) rfl, rfl⟩
  have hbegins : recreation.Begins old (deedsOf none (out.world.since w)) :=
    run_begins recreation .caller [] rfl rfl
  obtain ⟨scene, hscene, visit⟩ := obeying_faithful.visits .caller none recreation.recreate.run [] w
  have hmoves : scene.fleet.Moves (out.world.env.set name ⟨.active, 0, 0⟩) := hscene ▸ hmoves
  have hkept := recreate_keeps_capacity recreation [] fleet visit hbegins (.single hmoves)
  refine ⟨_, _, _, scene, _, visit, hbegins, hsteps, hmoves, hkept.2 ?_⟩
  exact ⟨⟨.scaleTransit, transit, 2⟩, hsteps ▸ by simp, rfl⟩

/-- Where the control plane is faithful, every run of a recreation leaves the capacity that it
owes, however it ends. -/
theorem run_keeps_capacity {S : Type} {env : Environment controlPlane S} {view : S → Fleet}
    (faithful : Faithful env view) (recreation : Recreation) (token : Token) (actor : Option Nat)
    (before : Steps) (w : World controlPlane S) {old : Service} {later : Fleet} :
    let out := run env token actor recreation.recreate.run before w
    recreation.Begins old (deedsOf actor (out.world.since w)) →
      (view out.world.env).Converges later →
        min old.desiredCount.toNat old.runningCount.toNat ≤ later.capacity ∧
          ((∃ s ∈ out.state, s.step = .scaleTransit) →
            old.desiredCount.toNat ≤ later.capacity) := by
  intro out hold hlater
  obtain ⟨scene, hscene, visit⟩ :=
    faithful.visits token actor recreation.recreate.run before w
  exact (sufficient_of_visits visit).bounds hold (hscene ▸ hlater)

end GatedRollout.Recreation
