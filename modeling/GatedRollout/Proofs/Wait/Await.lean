import GatedRollout.Proofs.Process.Frame
import GatedRollout.Proofs.Process.Heeding
import GatedRollout.Proofs.Process.Winding
import GatedRollout.Wait.Basic

/-!
# What the waits of the engine secure

A wait succeeds only by a reply that settles its matter, and that reply is the latest of its deeds.
The judges of the waits are inverted here once, so that what a success shows can be read off.
-/

namespace GatedRollout

theorem Service.isStable_iff (service : Service) :
    service.isStable = true ↔ service.status = .active ∧ service.deployments.length = 1 ∧
      service.runningCount = service.desiredCount := by
  simp [isStable, and_assoc]

namespace Engine

variable {X σ β : Type} {s : σ}

/-! ## Waiting -/

/-- What a wait makes of the end of its watch. -/
def conclusion (what : String) (limit : Duration) :
    Watched (Except WaitError β) String → Except WaitError β
  | .settled result => result
  | .overdue last => .error (.timeout what limit last)
  | .cancelled => .error .cancelled
  | .failed e => .error (.client e)

theorem secures_await {E : Setting controlPlane X} {inv : σ → X → Prop}
    {post : Except WaitError β → σ → X → Prop} {x : X} (engine : Engine) (what : String)
    (watch : Watch controlPlane (Except WaitError β) String)
    (h : Secures E inv (fun watched t y => post (conclusion what watch.limit watched) t y)
      (watch.run engine.patience) s x) :
    Secures E inv post (engine.await what watch).run s x := by
  refine Secures.bind_iff.mpr (h.weaken fun watched t y hpost => ?_)
  cases watched with
  | settled result => exact hpost
  | overdue last => exact hpost
  | cancelled => exact hpost
  | failed e => exact hpost

/-- What the deeds of a wait show of how it ended: a reply that settled it is the latest of them,
and otherwise it failed. -/
def Awaited (watch : Watch controlPlane (Except WaitError β) String)
    (es : List (Event controlPlane)) (result : Except WaitError β) : Prop :=
  watch.Observes es (.settled result) ∨ watch.Pends es ∧ ∃ e, result = .error e

theorem Awaited.about {watch : Watch controlPlane (Except WaitError β) String}
    {es : List (Event controlPlane)} {result : Except WaitError β} (h : Awaited watch es result) :
    ∀ e ∈ es, e.IsAbout watch.request := by
  rcases h with hsettled | ⟨hpends, -⟩
  · exact hsettled.about
  · exact hpends.about

/-- A wait secures what holds after any deeds of its watch, and returns what these show. -/
theorem secures_await_recorded {inv : σ → List (Event controlPlane) → Prop}
    {post : Except WaitError β → σ → List (Event controlPlane) → Prop}
    {x : List (Event controlPlane)} (engine : Engine) (what : String)
    (watch : Watch controlPlane (Except WaitError β) String)
    (hinv : ∀ es, watch.Pends es → inv s (x ++ es))
    (hpost : ∀ es result, Awaited watch es result → post result s (x ++ es)) :
    Secures recorded inv post (engine.await what watch).run s x := by
  refine secures_await engine what watch (Watch.secures_run hinv (fun es watched hes => ?_) _)
  cases watched with
  | settled result => exact hpost es result (.inl hes)
  | overdue last => exact hpost es _ (.inr ⟨hes, _, rfl⟩)
  | cancelled => exact hpost es _ (.inr ⟨hes, _, rfl⟩)
  | failed e => exact hpost es _ (.inr ⟨hes, _, rfl⟩)

theorem conforms_await {c : Conduct controlPlane σ} (engine : Engine) (what : String)
    {watch : Watch controlPlane (Except WaitError β) String} (h : c.asks watch.request) :
    (engine.await what watch : Activity σ WaitError β).run.Conforms c := by
  refine .bind (.watch h engine.patience) fun watched => ?_
  cases watched <;> exact .pure _

/-- A wait pauses after a reply alone, and gives up where a pause ends with the token fired. -/
theorem heeds_await {keeps : σ → Prop} {before : Bool} (engine : Engine)
    (what : String) (watch : Watch controlPlane (Except WaitError β) String) :
    (engine.await what watch : Activity σ WaitError β).Heeds (· = .cancelled) keeps before
      false := by
  intro s rested hs _
  refine (Process.heeds_watch watch engine.patience).bind (fun watched t h => ?_)
    fun now watched t h => ?_
  · obtain ⟨rfl, rfl⟩ := h
    exact ⟨.cancelled, rfl, rfl⟩
  · obtain ⟨rfl, rfl⟩ := h
    cases watched with
    | settled result =>
        cases result with
        | ok b => exact ⟨hs, id⟩
        | error e => exact ⟨hs, rfl⟩
    | _ => exact ⟨hs, rfl⟩

/-- Once the token has fired a wait reads once at most. -/
theorem winds_await {cost : ControlPlane.Request → Nat} {limit fired unfired : Nat}
    (engine : Engine) (what : String) {watch : Watch controlPlane (Except WaitError β) String}
    (hcost : cost watch.request = 0) (hbudget : fired ≤ unfired) :
    (engine.await what watch : Activity σ WaitError β).Winds cost limit ⟨fired + 1, unfired⟩
      ⟨fired, unfired⟩ := by
  refine (Process.Winds.watch hcost hbudget engine.patience).bind fun watched => ?_
  cases watched with
  | settled result => exact Attempt.Winds.known result
  | overdue last => exact Attempt.Winds.throw _
  | cancelled => exact .done _
  | failed e => exact Attempt.Winds.throw _

/-- Whether a judgement ends a wait well. -/
def succeeds : Judgement (Except WaitError β) String → Bool
  | .settled (.ok _) => true
  | _ => false

/-! ## Stable services -/

variable {name : ServiceName} {reply : Option Service}

theorem judgeStable_ok {service : Service}
    (h : judgeStable name reply = .settled (.ok service)) :
    reply = some service ∧ service.isStable = true := by
  cases reply with
  | none => cases h
  | some found =>
      by_cases hinactive : found.isInactive = true
      · rw [judgeStable, if_pos hinactive] at h
        cases h
      · by_cases hstable : found.isStable = true
        · rw [judgeStable, if_neg hinactive, if_pos hstable] at h
          cases h
          exact ⟨rfl, hstable⟩
        · rw [judgeStable, if_neg hinactive, if_neg hstable] at h
          cases h

theorem judgeStable_pending {seen : String} (h : judgeStable name reply = .pending seen) :
    ∃ service, reply = some service ∧ service.status ≠ .inactive ∧ ¬service.isStable = true := by
  cases reply with
  | none => cases h
  | some service =>
      by_cases hinactive : service.isInactive = true
      · rw [judgeStable, if_pos hinactive] at h
        cases h
      · by_cases hstable : service.isStable = true
        · rw [judgeStable, if_neg hinactive, if_pos hstable] at h
          cases h
        · exact ⟨service, rfl, by simpa [Service.isInactive] using hinactive, hstable⟩

end Engine

end GatedRollout
