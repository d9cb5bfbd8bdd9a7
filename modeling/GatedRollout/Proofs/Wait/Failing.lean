import GatedRollout.Proofs.Canary.Requests
import GatedRollout.Proofs.Process.LastSteps
import GatedRollout.Proofs.Wait.ServiceReads

/-!
# How the wait for a service fails

A wait fails because a request was refused, because a pause was cut short, because its limit was
used up, or because the service turned out to be gone or inactive. The first two are told by the
last step of the wait, and the others by what it has read and how long it took.
-/

namespace GatedRollout

variable {S σ β : Type}

/-- The step that a failed wait is blamed on. -/
def WaitError.blame : WaitError → Turnout
  | .cancelled => .cut
  | .client _ => .refused
  | _ => .fine

namespace Engine

/-! ## Last steps -/

/-- The judge of a wait settles no matter as cancelled or refused. -/
theorem blames_await (engine : Engine) (what : String)
    {watch : Watch controlPlane (Except WaitError β) String}
    (h : ∀ seen reply e, watch.judge seen reply = .settled (.error e) → e.blame = .fine) :
    (engine.await what watch : Activity σ WaitError β).Blames WaitError.blame := by
  refine Process.Obeys.bind (Process.Leaves.watch watch engine.patience) ?_
  intro watched last hlast
  obtain ⟨rfl, hsettled⟩ := hlast
  cases watched with
  | settled result =>
      obtain ⟨seen, reply, hjudge⟩ := hsettled result rfl
      cases result with
      | ok b => rfl
      | error e => exact (h seen reply e hjudge).symm
  | overdue last => rfl
  | cancelled => rfl
  | failed e => rfl

theorem decides_stable_error {name : ServiceName} {limit : Duration}
    {earlier : List (Option Service)} {reply : Option Service} {e : WaitError}
    (h : (stableRules name limit).decides earlier reply = some (.error e)) :
    GoneOrInactive reply ∧ e.blame = .fine := by
  cases reply with
  | none =>
      cases h
      exact ⟨nofun, rfl⟩
  | some service =>
      simp only [stableRules] at h
      split at h
      · next hinactive =>
          cases h
          refine ⟨?_, rfl⟩
          rintro _ ⟨⟩
          exact hinactive
      · split at h <;> cases h

theorem decides_inactive_error {name : ServiceName} {limit : Duration}
    {earlier : List (Option Service)} {reply : Option Service} {e : WaitError} :
    (inactiveRules name limit).decides earlier reply ≠ some (.error e) := by
  cases reply with
  | none => simp [inactiveRules]
  | some service =>
      simp only [inactiveRules]
      split <;> simp

theorem blames_serviceStable (engine : Engine) (name : ServiceName) (limit : Duration) :
    (engine.serviceStable name limit : Activity σ WaitError Service).Blames WaitError.blame := by
  refine engine.blames_await _ fun _ reply e hjudge => ?_
  have hdecides : (stableRules name limit).decides [] reply = some (.error e) :=
    (engine.stable_describe name limit).settled hjudge
  exact (decides_stable_error hdecides).2

theorem blames_serviceInactive (engine : Engine) (name : ServiceName) (limit : Duration) :
    (engine.serviceInactive name limit : Activity σ WaitError Unit).Blames WaitError.blame := by
  refine engine.blames_await _ fun _ reply e hjudge => ?_
  have hdecides : (inactiveRules name limit).decides [] reply = some (.error e) :=
    (engine.inactive_describe name limit).settled hjudge
  exact absurd hdecides decides_inactive_error

/-! ## Limits -/

/-- From a world on, nothing was asked for but this service, until the limit was used up or the
service was not reported or reported as inactive. -/
structure Waited (engine : Engine) (limit : Duration) (actor : Option Nat) (name : ServiceName)
    (w w' : World controlPlane S) : Prop where
  reads : World.Concerns (ι := controlPlane) (· = engine.serviceRead name) w w'
  ends : limit.nanos ≤ (w'.clock.elapsedSince w.clock).nanos ∨
    ∃ reply, w'.history.head? =
        some ⟨w'.clock, actor, .returned (engine.serviceRead name) (.ok reply)⟩ ∧
      GoneOrInactive reply

variable {env : Environment controlPlane S} {token : Token} {actor : Option Nat} {s t : σ}
  {w w' : World controlPlane S} (engine : Engine) (name : ServiceName) (limit : Duration)

/-- What a wait comes to that is blamed on nothing it did last. -/
theorem waited_of_ends {rules : Rules (Option Service) (Except WaitError β)} {deadline : Deadline}
    {n : Nat} {e : WaitError} (hfailure : ∀ e, rules.failure e = .error (.client e))
    (hdecides : ∀ earlier reply e, rules.decides earlier reply = some (.error e) →
      GoneOrInactive reply)
    (hends : rules.Ends (ι := controlPlane) (r := engine.serviceRead name) env token actor
      (.error .cancelled) deadline n [] w (.error e) w') (hblame : e.blame = .fine) :
    deadline.limit.nanos ≤ (w'.clock.elapsedSince deadline.started).nanos ∨
      ∃ reply, w'.history.head? =
          some ⟨w'.clock, actor, .returned (engine.serviceRead name) (.ok reply)⟩ ∧
        GoneOrInactive reply := by
  rcases hends.last with ⟨e', he⟩ | he | ⟨replies, reply, v, hdecided, rfl⟩ |
    ⟨replies, -, hexpired⟩
  · rw [hfailure] at he
    cases he
    cases hblame
  · cases he
    cases hblame
  · exact .inr ⟨reply, rfl, hdecides replies reply e hdecided⟩
  · exact .inl ((Deadline.expired_iff _ _).mp hexpired)

theorem serviceStable_waited {e : WaitError} (hblame : e.blame = .fine)
    (h : run env token actor (engine.serviceStable name limit).run s w =
      ⟨.returned (.error e), t, w'⟩) : engine.Waited limit actor name w w' := by
  have hasks : (engine.serviceStable name limit : Activity σ WaitError Service).run.Asks
      (· = engine.serviceRead name) :=
    engine.conforms_await _ (c := { asks := (· = engine.serviceRead name) }) rfl
  have hreads := hasks.run env token actor s (.refl w)
  rw [h] at hreads
  obtain ⟨-, hends⟩ := (engine.serviceStable_returned_iff name limit).mp h
  exact ⟨hreads, engine.waited_of_ends name (fun _ => rfl)
    (fun _ _ _ hdecides => (decides_stable_error hdecides).1) hends hblame⟩

theorem serviceInactive_waited {e : WaitError} (hblame : e.blame = .fine)
    (h : run env token actor (engine.serviceInactive name limit).run s w =
      ⟨.returned (.error e), t, w'⟩) : engine.Waited limit actor name w w' := by
  have hasks : (engine.serviceInactive name limit : Activity σ WaitError Unit).run.Asks
      (· = engine.serviceRead name) :=
    engine.conforms_await _ (c := { asks := (· = engine.serviceRead name) }) rfl
  have hreads := hasks.run env token actor s (.refl w)
  rw [h] at hreads
  obtain ⟨-, hends⟩ := (engine.serviceInactive_returned_iff name limit).mp h
  exact ⟨hreads, engine.waited_of_ends name (fun _ => rfl)
    (fun _ _ _ hdecides => absurd hdecides decides_inactive_error) hends hblame⟩

end Engine

end GatedRollout
