import GatedRollout.Proofs.Process.Token

/-!
# Pauses in a history

The token may fire in a pause or while somebody waits for a reply. Which of the two it was can be
read off the history up to that moment: off its last entry, and off what each actor did last. -/

namespace GatedRollout

variable {ι : Interface} {S σ α : Type} {trace first rest : List (Entry ι)}

/-! ## From each actor to the whole history -/

theorem mem_deedsOf {e : Entry ι} (he : e ∈ trace) (hdeed : e.event.isDeed = true) :
    e.event ∈ deedsOf e.actor trace :=
  List.mem_map_of_mem (List.mem_filter.mpr ⟨he, by simp [hdeed]⟩)

theorem of_mem_deedsOf {actor : Option Nat} {event : Event ι} (h : event ∈ deedsOf actor trace) :
    event.isDeed = true ∧ ∃ e ∈ trace, e.actor = actor ∧ e.event = event := by
  obtain ⟨e, he, rfl⟩ := List.mem_map.mp h
  obtain ⟨hmem, hactor⟩ := List.mem_filter.mp he
  simp only [Bool.and_eq_true, beq_iff_eq] at hactor
  exact ⟨hactor.2, e, hmem, hactor.1, rfl⟩

/-- What holds of the deeds of every actor holds of everything that was done. -/
theorem forall_of_deedsOf (P : Event ι → Prop) (hfired : P .fired)
    (h : ∀ actor, ∀ e ∈ deedsOf actor trace, P e) : ∀ e ∈ trace, P e.event := by
  intro e he
  cases hdeed : e.event.isDeed with
  | true => exact h e.actor _ (mem_deedsOf he hdeed)
  | false =>
      obtain ⟨time, actor, event⟩ := e
      cases event with
      | fired => exact hfired
      | _ => cases hdeed

/-- Where no actor has done anything and the token has not fired, nothing has happened. -/
theorem eq_nil_of_deedsOf (h : ∀ actor, deedsOf actor trace = [])
    (hunfired : ∀ e ∈ trace, e.event.isFired = false) : trace = [] := by
  refine List.eq_nil_iff_forall_not_mem.mpr fun e he => ?_
  have hfired := forall_of_deedsOf (·.isFired = true) rfl
    (fun actor e he => absurd he (by simp [h actor])) e he
  exact Bool.false_ne_true ((hunfired e he).symm.trans hfired)

theorem getLast?_deedsOf {e : Entry ι} (h : trace.getLast? = some e)
    (hdeed : e.event.isDeed = true) : (deedsOf e.actor trace).getLast? = some e.event := by
  obtain ⟨earlier, rfl⟩ := List.getLast?_eq_some_iff.mp h
  have hlast : deedsOf e.actor [e] = [e.event] := by simp [deedsOf, hdeed]
  rw [deedsOf_append, hlast, List.getLast?_concat]

/-! ## Falling asleep -/

def Event.isSlept : Event ι → Bool
  | .slept _ => true
  | _ => false

/-- Nobody fell asleep. -/
def Sleepless (trace : List (Entry ι)) : Prop := ∀ e ∈ trace, e.event.isSlept = false

theorem sleepless_of_deedsOf (h : ∀ actor, ∀ e ∈ deedsOf actor trace, e.isSlept = false) :
    Sleepless trace :=
  forall_of_deedsOf (·.isSlept = false) rfl h

/-- The last that was done is that somebody fell asleep. -/
def EndsAsleep (trace : List (Entry ι)) : Prop :=
  ∃ e, trace.getLast? = some e ∧ e.event.isSlept = true

theorem not_endsAsleep_nil : ¬EndsAsleep ([] : List (Entry ι)) := by
  rintro ⟨e, he, -⟩
  cases he

theorem Sleepless.not_endsAsleep (h : Sleepless trace) : ¬EndsAsleep trace := by
  rintro ⟨e, he, hslept⟩
  exact Bool.false_ne_true ((h e (List.mem_of_getLast? he)).symm.trans hslept)

theorem Sleepless.before (h : Sleepless trace) {already : Bool} {before after : List (Entry ι)}
    (hfires : FiresAt already trace before after) : Sleepless before :=
  fun e he => h e (hfires.mem (.inl he))

theorem Sleepless.append (h : Sleepless first) (h' : Sleepless rest) :
    Sleepless (first ++ rest) :=
  fun e he => (List.mem_append.mp he).elim (h e) (h' e)

theorem EndsAsleep.of_append (h : EndsAsleep (first ++ rest)) :
    (rest = [] ∧ EndsAsleep first) ∨ EndsAsleep rest := by
  cases rest with
  | nil => exact .inl ⟨rfl, by rwa [List.append_nil] at h⟩
  | cons e rest =>
      obtain ⟨last, hlast, hslept⟩ := h
      refine .inr ⟨last, ?_, hslept⟩
      rw [List.getLast?_append, List.getLast?_cons] at hlast
      exact List.getLast?_cons.trans hlast

theorem not_endsAsleep_append (h : ¬EndsAsleep first) (h' : ¬EndsAsleep rest) :
    ¬EndsAsleep (first ++ rest) :=
  fun hasleep => hasleep.of_append.elim (fun hfirst => h hfirst.2) h'

/-- Whoever fell asleep has done nothing since. -/
theorem EndsAsleep.exists_actor (h : EndsAsleep trace) :
    ∃ actor d, (deedsOf actor trace).getLast? = some (.slept d) := by
  obtain ⟨⟨time, actor, event⟩, hlast, hslept⟩ := h
  cases event with
  | slept d => exact ⟨actor, d, getLast?_deedsOf hlast rfl⟩
  | _ => cases hslept

/-- The history goes on in a pause: somebody has just fallen asleep, and nobody waits for a reply.
-/
structure InPause (trace : List (Entry ι)) : Prop where
  asleep : EndsAsleep trace
  unanswered : ∀ actor r, (deedsOf actor trace).getLast? ≠ some (.issued r)

theorem InPause.of_append (h : InPause (first ++ rest)) (hfirst : ¬EndsAsleep first) :
    InPause rest := by
  rcases h.asleep.of_append with ⟨-, hasleep⟩ | hasleep
  · exact absurd hasleep hfirst
  · refine ⟨hasleep, fun actor r hlast => h.unanswered actor r ?_⟩
    rw [deedsOf_append, List.getLast?_append, hlast]
    rfl

/-! ## From one world to another -/

/-- From one world to another the token was heeded: where it fired in a pause, nothing more was done
and this had become of it, and where it did not fire, the last that was done was no pause. -/
structure World.Heeds (earlier w : World ι S) (gaveUp : List (Entry ι) → Prop) : Prop where
  sees : ∃ v, World.Sees earlier w v
  paused : ∀ {before after}, FiresAt earlier.fired (w.since earlier) before after →
    InPause before → after = [] ∧ gaveUp before
  awake : w.fired = false → ¬EndsAsleep (w.since earlier)

namespace World.Heeds

variable {earlier w later : World ι S} {gaveUp gaveUp' : List (Entry ι) → Prop}

theorem of_sleepless {v : View (Entry ι)} (hsees : World.Sees earlier w v)
    (h : Sleepless (w.since earlier)) : World.Heeds earlier w gaveUp where
  sees := ⟨v, hsees⟩
  paused hfires hpause := absurd hpause.asleep (h.before hfires).not_endsAsleep
  awake _ := h.not_endsAsleep

theorem mono (h : World.Heeds earlier w gaveUp) (hgave : ∀ before, gaveUp before → gaveUp' before) :
    World.Heeds earlier w gaveUp' where
  sees := h.sees
  paused hfires hpause := ⟨(h.paused hfires hpause).1, hgave _ (h.paused hfires hpause).2⟩
  awake := h.awake

/-- In a history that goes on after it, the token did not fire in a pause before. -/
theorem divide (h : World.Heeds earlier w gaveUp) {rest before after : List (Entry ι)}
    (hfires : FiresAt earlier.fired (w.since earlier ++ rest) before after)
    (hpause : InPause before) :
    gaveUp before ∧ after = rest ∨ ∃ before', before = w.since earlier ++ before' ∧
      FiresAt w.fired rest before' after ∧ InPause before' := by
  obtain ⟨v, hsees⟩ := h.sees
  rcases hsees.divide hfires with ⟨-, early, hnow, rfl⟩ | ⟨hunfired, -, before', rfl, hlater⟩
  · obtain ⟨rfl, hgave⟩ := h.paused hnow hpause
    exact .inl ⟨hgave, rfl⟩
  · exact .inr ⟨before', rfl, hlater, hpause.of_append (h.awake hunfired)⟩

/-- Where the first part was not given up, the token is heeded in both. -/
theorem trans (h : World.Heeds earlier w fun _ => False) (h' : World.Heeds w later gaveUp) :
    World.Heeds earlier later fun before =>
      ∃ before', before = w.since earlier ++ before' ∧ gaveUp before' := by
  obtain ⟨v, hsees⟩ := h.sees
  obtain ⟨v', hsees'⟩ := h'.sees
  have hsince := hsees.follows.since_trans hsees'.follows
  refine ⟨hsees.trans hsees', fun hfires hpause => ?_, fun hunfired => ?_⟩
  · rw [hsince] at hfires
    rcases h.divide hfires hpause with ⟨hgave, -⟩ | ⟨before', rfl, hlater, hpause'⟩
    · exact hgave.elim
    · obtain ⟨rfl, hgave⟩ := h'.paused hlater hpause'
      exact ⟨rfl, before', rfl, hgave⟩
  · rw [hsees'.fired_eq, Bool.or_eq_false_iff] at hunfired
    rw [hsince]
    refine not_endsAsleep_append (h.awake hunfired.1) (h'.awake ?_)
    rw [hsees'.fired_eq, hunfired.1, hunfired.2]
    rfl

end World.Heeds

/-! ## Processes without pauses -/

/-- These deeds have no pause among them. -/
def Wakeful (y : List (Event ι)) : Prop := ∀ e ∈ y, e.isSlept = false

theorem wakeful_nil : Wakeful ([] : List (Event ι)) := nofun

theorem Wakeful.append {y : List (Event ι)} (h : Wakeful y) {e : Event ι}
    (he : e.isSlept = false) : Wakeful (y ++ [e]) := by
  intro e' he'
  rcases List.mem_append.mp he' with he' | he'
  · exact h e' he'
  · rw [List.mem_singleton.mp he']
    exact he

theorem Sleepless.wakeful (h : Sleepless trace) (actor : Option Nat) :
    Wakeful (deedsOf actor trace) := by
  intro e he
  obtain ⟨-, entry, hentry, -, rfl⟩ := of_mem_deedsOf he
  exact h entry hentry

/-- A run of a process that never pauses. -/
theorem sleepless_run {p : Process ι σ α} {s : σ}
    (h : Secures recorded (fun _ y => Wakeful y) (fun _ _ y => Wakeful y) p s [])
    (env : Environment ι S) (token : Token) (actor : Option Nat) (w : World ι S) :
    Sleepless ((run env token actor p s w).world.since w) := by
  obtain ⟨y, hy, hsecured⟩ := h.run env token actor (List.append_nil (w.deeds actor)).symm
  have hfollows := run_follows env token actor p s w
  refine sleepless_of_deedsOf fun other => ?_
  by_cases hother : actor = other
  · subst hother
    rw [hfollows.deedsOf_since hy]
    exact hsecured.elim
  · have hnone := (run_others env token hother p s w).trans (List.append_nil _).symm
    rw [hfollows.deedsOf_since hnone]
    exact wakeful_nil

end GatedRollout
