import GatedRollout.Proofs.Process.Trace

/-!
# The firing of the token

The caller's token fires at most once, while somebody waits for a call or in a pause, and the
history tells when. A `View` is what one process has done before and after that moment. `Abides` is
what holds of a process that can tell whether the token has fired: unlike in `Secures`, a pause then
ends as the token says.
-/

namespace GatedRollout

variable {ι : Interface} {S σ α β γ : Type}

/-! ## Views -/

/-- What was done until now: before the token fired, and after it if it has. -/
inductive View (β : Type)
  | unfired (before : List β)
  | fired (before after : List β)

namespace View

def isFired : View β → Bool
  | unfired _ => false
  | fired _ _ => true

def add : View β → β → View β
  | unfired before, b => unfired (before ++ [b])
  | fired before after, b => fired before (after ++ [b])

/-- Fire the token. A token fires once. -/
def fire : View β → View β
  | unfired before => fired before []
  | fired before after => fired before after

/-- Nothing more was done, but the token may have fired. -/
def Onward (v v' : View β) : Prop := v' = v ∨ v' = v.fire

theorem Onward.refl (v : View β) : v.Onward v := .inl rfl

@[simp] theorem fire_fire (v : View β) : v.fire.fire = v.fire := by cases v <;> rfl

theorem Onward.trans {v₁ v₂ v₃ : View β} (h : v₁.Onward v₂) (h' : v₂.Onward v₃) :
    v₁.Onward v₃ := by
  rcases h with rfl | rfl
  · exact h'
  · exact .inr (h'.elim id fun h => h.trans (fire_fire v₁))

/-- What one actor has done. -/
def deedsOf (actor : Option Nat) : View (Entry ι) → View (Event ι)
  | unfired before => unfired (GatedRollout.deedsOf actor before)
  | fired before after =>
      fired (GatedRollout.deedsOf actor before) (GatedRollout.deedsOf actor after)

@[simp] theorem isFired_deedsOf (actor : Option Nat) (v : View (Entry ι)) :
    (v.deedsOf actor).isFired = v.isFired := by cases v <;> rfl

theorem deedsOf_add_self (v : View (Entry ι)) (actor : Option Nat) (time : Instant)
    {event : Event ι} (h : event.isDeed = true) :
    (v.add ⟨time, actor, event⟩).deedsOf actor = (v.deedsOf actor).add event := by
  cases v <;> simp [add, deedsOf, GatedRollout.deedsOf, h]

theorem deedsOf_add_of_ne (v : View (Entry ι)) {actor other : Option Nat} (hne : actor ≠ other)
    (time : Instant) (event : Event ι) :
    (v.add ⟨time, actor, event⟩).deedsOf other = v.deedsOf other := by
  cases v <;> simp [add, deedsOf, GatedRollout.deedsOf, hne]

theorem Onward.deedsOf {v v' : View (Entry ι)} (h : v.Onward v') (actor : Option Nat) :
    (v.deedsOf actor).Onward (v'.deedsOf actor) := by
  rcases h with rfl | rfl
  · exact Onward.refl _
  · cases v with
    | unfired before => exact .inr rfl
    | fired before after => exact .inr rfl

end View

/-! ## The moment of the firing -/

def Event.isFired : Event ι → Bool
  | .fired => true
  | _ => false

/-- The token fired between these two parts of a history: before its beginning, or where it is first
told to have fired. -/
inductive FiresAt : Bool → List (Entry ι) → List (Entry ι) → List (Entry ι) → Prop
  | already (trace : List (Entry ι)) : FiresAt true trace [] trace
  | within {trace before after : List (Entry ι)} (time : Instant)
      (first : ∀ e ∈ before, e.event.isFired = false)
      (trace_eq : trace = before ++ ⟨time, none, .fired⟩ :: after) :
      FiresAt false trace before after

/-- The token fires where the history tells it first. -/
theorem FiresAt.of_getElem? {told : List (Entry ι)} (n : Nat) {time : Instant}
    (first : ∀ e ∈ told.take n, e.event.isFired = false)
    (hfired : told[n]? = some ⟨time, none, .fired⟩) :
    FiresAt false told (told.take n) (told.drop (n + 1)) := by
  obtain ⟨hlt, hget⟩ := List.getElem?_eq_some_iff.mp hfired
  refine .within time first ?_
  rw [← hget, ← List.drop_eq_getElem_cons hlt, List.take_append_drop]

theorem ne_of_unfired {trace before after : List (Entry ι)} {time : Instant}
    (h : ∀ e ∈ trace, e.event.isFired = false) :
    trace ≠ before ++ ⟨time, none, .fired⟩ :: after := by
  rintro rfl
  exact Bool.noConfusion (h ⟨time, none, .fired⟩ (by simp))

theorem FiresAt.extend {already : Bool} {trace before after : List (Entry ι)}
    (h : FiresAt already trace before after) (rest : List (Entry ι)) :
    FiresAt already (trace ++ rest) before (after ++ rest) := by
  cases h with
  | already => exact .already _
  | within time first trace_eq =>
      refine .within time first ?_
      rw [trace_eq, List.append_assoc, List.cons_append]

/-- A history that is continued tells in its first part when the token fired, or in the rest. -/
theorem FiresAt.append {already : Bool} {first rest before after : List (Entry ι)}
    (h : FiresAt already (first ++ rest) before after) :
    (∃ after', FiresAt already first before after' ∧ after = after' ++ rest) ∨
      already = false ∧ (∀ e ∈ first, e.event.isFired = false) ∧
        ∃ before', before = first ++ before' ∧ FiresAt false rest before' after := by
  cases h with
  | already => exact .inl ⟨first, .already first, rfl⟩
  | within time hfirst htrace =>
      rcases List.append_eq_append_iff.mp htrace with ⟨before', rfl, hrest⟩ | ⟨tail, rfl, hrest⟩
      · refine .inr ⟨rfl, fun e he => hfirst e (List.mem_append_left _ he), before', rfl, ?_⟩
        exact .within time (fun e he => hfirst e (List.mem_append_right _ he)) hrest
      · cases tail with
        | nil =>
            refine .inr ⟨rfl, by simpa using hfirst, [], by simp, ?_⟩
            exact .within time (by simp) hrest.symm
        | cons e after' =>
            obtain ⟨rfl, rfl⟩ := List.cons.inj hrest
            exact .inl ⟨after', .within time hfirst rfl, rfl⟩

theorem FiresAt.unique {already : Bool} {trace before after before' after' : List (Entry ι)}
    (h : FiresAt already trace before after) (h' : FiresAt already trace before' after') :
    before = before' ∧ after = after' := by
  cases h with
  | already =>
      cases h'
      exact ⟨rfl, rfl⟩
  | within time hfirst htrace =>
      cases h' with
      | within time' hfirst' htrace' =>
          rcases List.append_eq_append_iff.mp (htrace.symm.trans htrace') with
            ⟨tail, rfl, hrest⟩ | ⟨tail, rfl, hrest⟩
          · cases tail with
            | nil => exact ⟨by simp, (List.cons.inj hrest).2⟩
            | cons e tail =>
                obtain ⟨rfl, -⟩ := List.cons.inj hrest
                exact absurd rfl (ne_of_unfired hfirst')
          · cases tail with
            | nil => exact ⟨by simp, (List.cons.inj hrest).2.symm⟩
            | cons e tail =>
                obtain ⟨rfl, -⟩ := List.cons.inj hrest
                exact absurd rfl (ne_of_unfired hfirst)

theorem FiresAt.unfired {already : Bool} {trace before after : List (Entry ι)}
    (h : FiresAt already trace before after) : ∀ e ∈ before, e.event.isFired = false := by
  cases h with
  | already => simp
  | within time first trace_eq => exact first

theorem FiresAt.mem {already : Bool} {trace before after : List (Entry ι)}
    (h : FiresAt already trace before after) {e : Entry ι} (he : e ∈ before ∨ e ∈ after) :
    e ∈ trace := by
  cases h with
  | already => exact he.elim nofun id
  | within time first trace_eq =>
      rw [trace_eq]
      exact List.mem_append.mpr (he.imp id (List.mem_cons_of_mem _))

/-- Every deed was done before the firing or after it. -/
theorem FiresAt.deedsOf_eq {already : Bool} {trace before after : List (Entry ι)}
    (h : FiresAt already trace before after) (actor : Option Nat) :
    deedsOf actor trace = deedsOf actor before ++ deedsOf actor after := by
  cases h with
  | already => rfl
  | within time first trace_eq =>
      rw [trace_eq, deedsOf_append]
      simp [deedsOf, Event.isDeed]

namespace World

variable {earlier w : World ι S} {v : View (Entry ι)}

theorem Follows.since_cons (h : w.Follows earlier) (later : World ι S) (e : Entry ι)
    (hlater : later.history = e :: w.history) :
    later.Follows earlier ∧ later.since earlier = w.since earlier ++ [e] := by
  have hfollows : later.Follows w := ⟨[e], hlater.symm⟩
  have hsince := hfollows.history_eq
  rw [hlater, ← List.singleton_append, List.append_cancel_right_eq] at hsince
  refine ⟨h.trans hfollows, ?_⟩
  rw [h.since_trans hfollows, ← List.reverse_reverse (later.since w), ← hsince]
  rfl

/-- What was done since an earlier world, divided where the token fired. -/
inductive Sees (earlier w : World ι S) : View (Entry ι) → Prop
  | unfired (follows : w.Follows earlier) (earlier_fired : earlier.fired = false)
      (fired : w.fired = false) (never : ∀ e ∈ w.since earlier, e.event.isFired = false) :
      Sees earlier w (.unfired (w.since earlier))
  | fired {before after : List (Entry ι)} (follows : w.Follows earlier) (fired : w.fired = true)
      (fires : FiresAt earlier.fired (w.since earlier) before after)
      (once : ∀ e ∈ after, e.event.isFired = false) : Sees earlier w (.fired before after)

theorem Sees.follows (h : Sees earlier w v) : w.Follows earlier := by
  cases h with
  | unfired follows _ _ _ => exact follows
  | fired follows _ _ _ => exact follows

theorem Sees.isFired (h : Sees earlier w v) : v.isFired = w.fired := by
  cases h with
  | unfired _ _ fired _ => exact fired.symm
  | fired _ fired _ _ => exact fired.symm

/-- The token has fired exactly if it had before or is told to have since. -/
theorem Sees.fired_eq (h : Sees earlier w v) :
    w.fired = (earlier.fired || (w.since earlier).any (·.event.isFired)) := by
  cases h with
  | unfired _ earlier_fired fired never =>
      have hnone : (w.since earlier).any (·.event.isFired) = false :=
        List.any_eq_false.mpr fun e he => by simp [never e he]
      rw [fired, earlier_fired, hnone]
      rfl
  | fired _ fired fires _ =>
      rw [fired]
      generalize earlier.fired = already at fires
      generalize w.since earlier = trace at fires
      cases fires with
      | already => rfl
      | within time first trace_eq => simp [trace_eq, Event.isFired]

/-- What is seen is what the history tells. -/
theorem Sees.eq_fired (h : Sees earlier w v) {before after : List (Entry ι)}
    (hfires : FiresAt earlier.fired (w.since earlier) before after) : v = .fired before after := by
  cases h with
  | unfired _ earlier_fired _ never =>
      rw [earlier_fired] at hfires
      cases hfires with
      | within time _ trace_eq => exact absurd trace_eq (ne_of_unfired never)
  | fired _ _ fires _ =>
      obtain ⟨rfl, rfl⟩ := hfires.unique fires
      rfl

/-- The token fires once. -/
theorem Sees.once (h : Sees earlier w v) {before after : List (Entry ι)}
    (hfires : FiresAt earlier.fired (w.since earlier) before after) :
    ∀ e ∈ after, e.event.isFired = false := by
  obtain rfl := h.eq_fired hfires
  cases h with
  | fired _ _ _ once => exact once

theorem Sees.trans (h : Sees earlier w v) {w' : World ι S} {v' : View (Entry ι)}
    (h' : Sees w w' v') : ∃ v'', Sees earlier w' v'' := by
  have hfollows := h.follows.trans h'.follows
  have hsince := h.follows.since_trans h'.follows
  have hfired' := h'.fired_eq
  cases h with
  | fired _ fired fires once =>
      have halready : FiresAt w.fired (w'.since w) [] (w'.since w) := fired ▸ .already _
      rw [fired] at hfired'
      refine ⟨_, .fired hfollows hfired' (hsince ▸ fires.extend _) ?_⟩
      exact List.forall_mem_append.mpr ⟨once, h'.once halready⟩
  | unfired _ earlier_fired fired never =>
      cases h' with
      | unfired _ _ fired' never' =>
          refine ⟨_, .unfired hfollows earlier_fired fired' ?_⟩
          exact hsince ▸ List.forall_mem_append.mpr ⟨never, never'⟩
      | @fired before after _ fired' fires once =>
          rw [fired] at fires
          cases fires with
          | within time first trace_eq =>
              have hboth := List.forall_mem_append.mpr ⟨never, first⟩
              refine ⟨.fired (w.since earlier ++ before) after, .fired hfollows fired' ?_ once⟩
              rw [earlier_fired, hsince, trace_eq, ← List.append_assoc]
              exact .within time hboth rfl

/-- In a history that goes on from the world in between, the token fired before that world or after
it. -/
theorem Sees.divide (h : Sees earlier w v) {rest before after : List (Entry ι)}
    (hfires : FiresAt earlier.fired (w.since earlier ++ rest) before after) :
    (w.fired = true ∧ ∃ after', FiresAt earlier.fired (w.since earlier) before after' ∧
        after = after' ++ rest) ∨
      w.fired = false ∧ earlier.fired = false ∧
        ∃ before', before = w.since earlier ++ before' ∧ FiresAt w.fired rest before' after := by
  rcases hfires.append with ⟨after', hfirst, hafter⟩ | ⟨hearlier, hnever, before', hbefore, hrest⟩
  · have hfired := h.isFired
    rw [h.eq_fired hfirst] at hfired
    exact .inl ⟨hfired.symm, after', hfirst, hafter⟩
  · have hfired : w.fired = false := by
      rw [h.fired_eq, hearlier]
      exact List.any_eq_false.mpr fun e he => by simp [hnever e he]
    exact .inr ⟨hfired, hearlier, before', hbefore, hfired ▸ hrest⟩

/-- Who has done nothing from one world to a later one has at most found the token fired. -/
theorem Sees.onward (h : Sees earlier w v) {w' : World ι S} {v' : View (Entry ι)}
    (h' : Sees earlier w' v') (hfollows : w'.Follows w) {actor : Option Nat}
    (hsame : w'.deeds actor = w.deeds actor) : (v.deedsOf actor).Onward (v'.deedsOf actor) := by
  have hsince := h.follows.since_trans hfollows
  have hnone : GatedRollout.deedsOf actor (w'.since w) = [] :=
    hfollows.deedsOf_since (hsame.trans (List.append_nil _).symm)
  cases h' with
  | unfired _ hearlier _ never' =>
      rw [hsince, List.forall_mem_append] at never'
      cases h with
      | unfired _ _ _ _ =>
          refine .inl ?_
          simp only [View.deedsOf, hsince, GatedRollout.deedsOf_append, hnone, List.append_nil]
      | fired _ _ fires _ =>
          rw [hearlier] at fires
          cases fires with
          | within time _ trace_eq => exact absurd trace_eq (ne_of_unfired never'.1)
  | fired _ _ fires' _ =>
      rw [hsince] at fires'
      rcases h.divide fires' with ⟨-, after', hfirst, rfl⟩ | ⟨hunfired, -, before', rfl, hrest⟩
      · obtain rfl := h.eq_fired hfirst
        refine .inl ?_
        simp only [View.deedsOf, GatedRollout.deedsOf_append, hnone, List.append_nil]
      · have hboth := hrest.deedsOf_eq actor
        rw [hnone, eq_comm, List.append_eq_nil_iff] at hboth
        cases h with
        | unfired _ _ _ _ =>
            refine .inr ?_
            simp only [View.deedsOf, View.fire, GatedRollout.deedsOf_append, hboth.1, hboth.2,
              List.append_nil]
        | fired _ hfired _ _ => cases hunfired.symm.trans hfired

theorem sees_self (w : World ι S) :
    Sees w w (if w.fired then .fired [] [] else .unfired []) := by
  cases hfired : w.fired with
  | true =>
      refine .fired (Follows.refl w) hfired ?_ (by simp)
      rw [hfired, since_self]
      exact .already []
  | false =>
      have hsees := Sees.unfired (Follows.refl w) hfired hfired (by simp)
      rwa [since_self] at hsees

/-- Only the history and the token count. -/
theorem Sees.of_history (h : Sees earlier w v) {later : World ι S}
    (hhistory : later.history = w.history) (hfired : later.fired = w.fired) :
    Sees earlier later v := by
  have hsince : later.since earlier = w.since earlier := by simp [since, hhistory]
  have hfollows : later.Follows earlier := by
    rw [Follows, hhistory]
    exact h.follows
  cases h with
  | unfired follows earlier_fired fired never =>
      rw [← hsince] at never ⊢
      exact .unfired hfollows earlier_fired (hfired.trans fired) never
  | fired follows fired fires once =>
      exact .fired hfollows (hfired.trans fired) (hsince ▸ fires) once

theorem Sees.note (h : Sees earlier w v) (actor : Option Nat) (event : Event ι)
    (hevent : event.isFired = false) :
    Sees earlier (w.note actor event) (v.add ⟨w.clock, actor, event⟩) := by
  obtain ⟨hfollows, hsince⟩ :=
    h.follows.since_cons (w.note actor event) ⟨w.clock, actor, event⟩ rfl
  cases h with
  | unfired follows earlier_fired fired never =>
      have hnever : ∀ e ∈ (w.note actor event).since earlier, e.event.isFired = false :=
        hsince ▸ List.forall_mem_append.mpr ⟨never, List.forall_mem_singleton.mpr hevent⟩
      have hsees := Sees.unfired hfollows earlier_fired fired hnever
      rwa [hsince] at hsees
  | fired follows fired fires once =>
      refine .fired hfollows fired ?_
        (List.forall_mem_append.mpr ⟨once, List.forall_mem_singleton.mpr hevent⟩)
      rw [hsince]
      exact fires.extend _

theorem fireIf_of_fired (hfired : w.fired = true) (fires : Bool) : w.fireIf fires = w := by
  simp [fireIf, fire, hfired]

theorem fireIf_true (hfired : w.fired = false) :
    w.fireIf true = { w.note none .fired with fired := true } := by
  simp [fireIf, fire, hfired]

theorem Sees.fireIf (h : Sees earlier w v) (fires : Bool) :
    ∃ v', v.Onward v' ∧ Sees earlier (w.fireIf fires) v' := by
  cases h with
  | fired follows fired fires' once =>
      rw [fireIf_of_fired fired]
      exact ⟨_, .refl _, .fired follows fired fires' once⟩
  | unfired follows earlier_fired fired never =>
      cases fires with
      | false => exact ⟨_, .refl _, .unfired follows earlier_fired fired never⟩
      | true =>
          rw [fireIf_true fired]
          obtain ⟨hfollows, hsince⟩ := follows.since_cons
            { w.note none .fired with fired := true } ⟨w.clock, none, .fired⟩ rfl
          refine ⟨_, .inr rfl, .fired hfollows rfl ?_ (by simp)⟩
          rw [hsince, earlier_fired]
          exact .within w.clock never rfl

theorem Sees.issue (h : Sees earlier w v) (env : Environment ι S) (actor : Option Nat)
    (r : ι.Request) :
    ∃ v', (v.add ⟨w.clock, actor, .issued r⟩).Onward v' ∧
      Sees earlier (w.issue env actor r).2 v' := by
  have hissued := h.note actor (.issued r) rfl
  refine Sees.fireIf ?_ _
  exact hissued.of_history rfl rfl

theorem Sees.sleep (h : Sees earlier w v) (env : Environment ι S) (actor : Option Nat)
    (d : Duration) :
    ∃ v', (v.add ⟨w.clock, actor, .slept d⟩).Onward v' ∧
      Sees earlier (w.sleep env actor d).2 v' := by
  have hslept := h.note actor (.slept d) rfl
  refine Sees.fireIf ?_ _
  exact hslept.of_history rfl rfl

end World

/-! ## Processes that look at the token -/

/-- How a pause ends, as the token says. -/
def View.restEnd (v : View β) : Rest := if v.isFired then .cancelled else .elapsed

/-- The account has the state and the view, in which the token may fire in every call and in every
pause. -/
def Discipline.abiding (inv : σ → View (Event ι) → Prop) :
    Discipline ι σ (σ × View (Event ι)) where
  call r x K := ∀ v', (x.2.add (.issued r)).Onward v' →
    inv x.1 v' ∧ ∀ answer, K answer (x.1, v'.add (.returned r answer))
  pause d x K := (x.2.isFired = true → K .cancelled x) ∧
    (x.2.isFired = false → ∀ v', (x.2.add (.slept d)).Onward v' → K v'.restEnd (x.1, v'))
  look x K := ∀ now, K ⟨now, x.2.isFired, x.1⟩
  put t x K := K (t, x.2)
  panic _ x := inv x.1 x.2
  stall x := inv x.1 x.2
  call_mono hK h := fun v' hv' => ⟨(h v' hv').1, fun answer => hK _ _ ((h v' hv').2 answer)⟩
  pause_mono hK h := ⟨fun hfired => hK _ _ (h.1 hfired),
    fun hunfired v' hv' => hK _ _ (h.2 hunfired v' hv')⟩
  look_mono hK h := fun now => hK _ (h now)
  put_mono hK h := hK _ h

/-- From this state and in this view, the process keeps the invariant wherever it waits for a reply
or is stuck, and returns only what satisfies the postcondition, where the token may fire in every
call and in every pause. -/
def Abides (inv : σ → View (Event ι) → Prop) (post : α → σ → View (Event ι) → Prop)
    (p : Process ι σ α) (s : σ) (v : View (Event ι)) : Prop :=
  p.Obeys (.abiding inv) (fun a x => post a x.1 x.2) (s, v)

theorem Abides.anything (p : Process ι σ α) (s : σ) (v : View (Event ι)) :
    Abides (fun _ _ => True) (fun _ _ _ => True) p s v := by
  refine Process.Obeys.of_lax ⟨?_, ?_, ?_, ?_, fun _ _ => trivial, fun _ => trivial⟩ p (s, v)
  · exact fun h v' _ => ⟨trivial, fun answer => h answer _⟩
  · exact fun h => ⟨fun _ => h _ _, fun _ v' _ => h _ _⟩
  · exact fun h now => h _
  · exact fun h => h _

theorem Abides.mono {inv inv' : σ → View (Event ι) → Prop}
    {post post' : α → σ → View (Event ι) → Prop} {p : Process ι σ α} {s : σ} {v : View (Event ι)}
    (h : Abides inv post p s v) (hinv : ∀ t v, inv t v → inv' t v)
    (hpost : ∀ a t v, post a t v → post' a t v) : Abides inv' post' p s v :=
  Process.Obeys.mono h ⟨fun h v' hv' => ⟨hinv _ _ (h v' hv').1, (h v' hv').2⟩, id, id, id,
    hinv _ _, hinv _ _⟩ fun a x => hpost a x.1 x.2

theorem World.Sees.cancelled {earlier w : World ι S} {v : View (Entry ι)}
    (h : World.Sees earlier w v) (actor : Option Nat) :
    w.cancelled .caller = (v.deedsOf actor).isFired :=
  h.isFired.symm.trans (v.isFired_deedsOf actor).symm

theorem World.Sees.restEnd {earlier w : World ι S} {v : View (Entry ι)}
    (h : World.Sees earlier w v) (actor : Option Nat) :
    w.restEnd .caller = (v.deedsOf actor).restEnd := by
  rw [World.restEnd, h.cancelled actor]
  rfl

/-- What a process abides by holds after every run of it with the caller's token. -/
theorem Abides.run {inv : σ → View (Event ι) → Prop} {post : α → σ → View (Event ι) → Prop}
    (env : Environment ι S) (actor : Option Nat) {earlier : World ι S} {p : Process ι σ α} :
    ∀ {s : σ} {w : World ι S} {v : View (Entry ι)}, Abides inv post p s (v.deedsOf actor) →
      World.Sees earlier w v →
        let out := GatedRollout.run env .caller actor p s w
        ∃ v', World.Sees earlier out.world v' ∧
          Secured inv post out.ending.answer? out.state (v'.deedsOf actor) := by
  induction p with
  | done a => exact fun h hw => ⟨_, hw, h⟩
  | call r next ih =>
      intro s w v h hw
      obtain ⟨v', honward, hissued⟩ := hw.issue env actor r
      have honward := honward.deedsOf actor
      rw [v.deedsOf_add_self actor w.clock rfl] at honward
      obtain ⟨hwait, hnext⟩ := h _ honward
      rw [run_call]
      dsimp only
      split
      · next answer heffect =>
          refine ih answer ?_ (hissued.note actor (.returned r answer) rfl)
          rw [v'.deedsOf_add_self actor _ rfl]
          exact hnext answer
      · exact ⟨v', hissued, hwait⟩
      · exact ⟨v', hissued, hwait⟩
  | pause d next ih =>
      intro s w v h hw
      rw [run_pause, hw.cancelled actor]
      split
      · next hfired => exact ih .cancelled (h.1 hfired) hw
      · next hfired =>
          obtain ⟨v', honward, hslept⟩ := hw.sleep env actor d
          have honward := honward.deedsOf actor
          rw [v.deedsOf_add_self actor w.clock rfl] at honward
          dsimp only
          rw [hslept.restEnd actor]
          exact ih _ (h.2 (Bool.eq_false_iff.mpr hfired) _ honward) hslept
  | look next ih =>
      intro s w v h hw
      rw [run_look, hw.cancelled actor]
      exact ih _ (h w.clock) hw
  | put t next ih => exact fun h hw => ih h hw
  | panic message => exact fun h hw => ⟨_, hw, h⟩
  | stall => exact fun h hw => ⟨_, hw, h⟩

end GatedRollout
