import GatedRollout.Proofs.Canary.Release
import GatedRollout.Proofs.Process.Rounds

/-!
# What is secured of a set of canaries

The canaries of a set are started one after the other, and waited for and stopped side by side.
Either way each of them sees only its own deeds, so what the operation of one canary secures is
secured of every canary of the set. A set whose operation succeeded has seen every single one
succeed.
-/

namespace GatedRollout.CanarySet

variable {ι : Interface} {S σ : Type} (env : Environment ι S) (token : Token)
  {inv : Nat → σ → List (Event ι) → Prop}
  {post : Nat → Except TaskError Unit → σ → List (Event ι) → Prop} {past : Nat → List (Event ι)}
  {set : CanarySet ι σ} {w : World ι S}

/-- What is secured of every canary of a set by an operation on the set. -/
structure Outcome.Secured (inv : Nat → σ → List (Event ι) → Prop)
    (post : Nat → Except TaskError Unit → σ → List (Event ι) → Prop) (past : Nat → List (Event ι))
    (set : CanarySet ι σ) (w : World ι S) (out : Outcome ι S σ) : Prop where
  follows : out.world.Follows w
  others : ∀ other, (∀ i < set.entries.length, other ≠ some i) →
    out.world.deeds other = w.deeds other
  length_eq : out.state.entries.length = set.entries.length
  /-- What a canary returned, if it did. -/
  each : ∀ (i : Nat) (e : Entry ι σ), set.entries[i]? = some e → ∃ s found y,
    out.state.entries[i]? = some { e with state := s } ∧ out.world.deeds (some i) = past i ++ y ∧
      GatedRollout.Secured (inv i) (post i) found s y ∧
        (out.ending = .returned (.ok ()) → found = some (.ok ()))

theorem getElem?_withStates {states : List σ} {i : Nat} {e : Entry ι σ} {s : σ}
    (he : set.entries[i]? = some e) (hs : states[i]? = some s) :
    (set.withStates states).entries[i]? = some { e with state := s } := by
  simp [withStates, he, hs]

/-- Who takes part in an operation is one of the canaries, in its state. -/
theorem exists_of_crew {op : CanaryTask ι σ → Attempt ι σ TaskError Unit} {i : Nat}
    {p : Process ι σ (Except TaskError Unit)} {s : σ}
    (h : (set.entries.map fun e => ((op e.task).run, e.state))[i]? = some (p, s)) :
    ∃ e, set.entries[i]? = some e ∧ p = (op e.task).run ∧ s = e.state := by
  rw [List.getElem?_map, Option.map_eq_some_iff] at h
  obtain ⟨e, he, hps⟩ := h
  cases hps
  exact ⟨e, he, rfl, rfl⟩

/-! ## Starting -/

section Starting

variable {i : Nat} {e : Entry ι σ} {rest : List (Entry ι σ)}

theorem startFrom_of_ok
    (h : (run env token (some i) e.task.start.run e.state w).ending = .returned (.ok ())) :
    startFrom env token i (e :: rest) w =
      let begun := run env token (some i) e.task.start.run e.state w
      let others := startFrom env token (i + 1) rest begun.world
      ⟨others.ending, { e with state := begun.state } :: others.state, others.world⟩ := by
  simp only [startFrom, h]

theorem startFrom_of_not_ok
    (h : (run env token (some i) e.task.start.run e.state w).ending ≠ .returned (.ok ())) :
    startFrom env token i (e :: rest) w =
      let begun := run env token (some i) e.task.start.run e.state w
      ⟨begun.ending, { e with state := begun.state } :: rest, begun.world⟩ := by
  rw [startFrom]
  split
  · next hok => exact absurd hok h
  · rfl

/-- What is secured of the canaries from the one with the number `i` on. -/
structure Started (inv : Nat → σ → List (Event ι) → Prop)
    (post : Nat → Except TaskError Unit → σ → List (Event ι) → Prop) (past : Nat → List (Event ι))
    (i : Nat) (entries : List (Entry ι σ)) (w : World ι S)
    (out : Aftermath ι S (List (Entry ι σ)) (Except TaskError Unit)) : Prop where
  follows : out.world.Follows w
  others : ∀ other, (∀ j < entries.length, other ≠ some (i + j)) →
    out.world.deeds other = w.deeds other
  each : ∀ (j : Nat) (e : Entry ι σ), entries[j]? = some e → ∃ s found y,
    out.state[j]? = some { e with state := s } ∧
      out.world.deeds (some (i + j)) = past (i + j) ++ y ∧
        GatedRollout.Secured (inv (i + j)) (post (i + j)) found s y ∧
          (out.ending = .returned (.ok ()) → found = some (.ok ()))

/-- The canaries after the first failure are left as they were. -/
theorem secured_startFrom (entries : List (Entry ι σ)) : ∀ (i : Nat) (w : World ι S),
    (∀ (j : Nat) (e : Entry ι σ), entries[j]? = some e → ∃ x,
      w.deeds (some (i + j)) = past (i + j) ++ x ∧ inv (i + j) e.state x ∧
        Secures recorded (inv (i + j)) (post (i + j)) e.task.start.run e.state x) →
      Started inv post past i entries w (startFrom env token i entries w) := by
  induction entries with
  | nil => exact fun i w _ => ⟨World.Follows.refl w, fun _ _ => rfl, nofun⟩
  | cons e rest ih =>
      intro i w h
      obtain ⟨x, hx, -, hsecures⟩ := h 0 e rfl
      have hfollows := run_follows env token (some i) e.task.start.run e.state w
      have hothers : ∀ other, other ≠ some i →
          (run env token (some i) e.task.start.run e.state w).world.deeds other =
            w.deeds other := fun other hne =>
        run_others env token (Ne.symm hne) e.task.start.run e.state w
      have hne : ∀ j, some (i + (j + 1)) ≠ some i := fun j hj => by
        have hj := Option.some.inj hj
        omega
      obtain ⟨y, hy, hsecured⟩ := hsecures.run env token (some i) hx
      by_cases hok :
          (run env token (some i) e.task.start.run e.state w).ending = .returned (.ok ())
      · rw [startFrom_of_ok env token hok]
        have hshift : ∀ j, i + 1 + j = i + (j + 1) := fun j => by omega
        obtain ⟨hfollows', hothers', heach⟩ := ih (i + 1) _ fun j e' he' => by
          rw [hshift, hothers _ (hne j)]
          exact h (j + 1) e' he'
        simp only [hshift] at hothers' heach
        refine ⟨hfollows.trans hfollows', ?_, ?_⟩
        · intro other hother
          have hi : other ≠ some i := hother 0 (by simp)
          rw [hothers' other fun j hj => hother (j + 1) (by simpa using hj), hothers other hi]
        · intro j e' he'
          cases j with
          | zero =>
              obtain rfl := Option.some.inj he'
              rw [hok] at hsecured
              refine ⟨_, _, y, rfl, ?_, hsecured, fun _ => rfl⟩
              exact (hothers' (some i) fun j _ => (hne j).symm).trans hy
          | succ j => exact heach j e' he'
      · rw [startFrom_of_not_ok env token hok]
        refine ⟨hfollows, fun other hother => hothers other (hother 0 (by simp)), ?_⟩
        intro j e' he'
        cases j with
        | zero =>
            obtain rfl := Option.some.inj he'
            exact ⟨_, _, y, rfl, hy, hsecured, fun hreturned => absurd hreturned hok⟩
        | succ j =>
            obtain ⟨x', hx', hinv, -⟩ := h (j + 1) e' he'
            exact ⟨e'.state, none, x', he', (hothers _ (hne j)).trans hx', hinv,
              fun hreturned => absurd hreturned hok⟩

theorem secured_start
    (h : Crew.Secures inv post past (set.entries.map fun e => (e.task.start.run, e.state)) w) :
    Outcome.Secured inv post past set w (set.start env token w) := by
  obtain ⟨hfollows, hothers, heach⟩ := secured_startFrom env token set.entries 0 w fun j e he => by
    rw [Nat.zero_add]
    exact h.each j _ _ (by rw [List.getElem?_map, he]; rfl)
  simp only [Nat.zero_add] at hothers heach
  refine ⟨hfollows, hothers, length_withStates .., fun i e he => ?_⟩
  obtain ⟨s, found, y, hs, hy, hsecured, hreturned⟩ := heach i e he
  refine ⟨s, found, y, ?_, hy, hsecured, hreturned⟩
  exact getElem?_withStates he (by rw [List.getElem?_map, hs]; rfl)

end Starting

/-! ## Waiting and stopping -/

theorem firstError_ok {results : List (Nat × Except TaskError Unit)}
    (h : firstError results = .ok ()) {i : Nat} {result : Except TaskError Unit}
    (hmem : (i, result) ∈ results) : result = .ok () := by
  unfold firstError at h
  split at h
  · next hfound =>
      subst h
      cases List.find?_some hfound
  · next hnone =>
      have hisOk := List.find?_eq_none.mp hnone _ hmem
      cases result with
      | ok u => rfl
      | error e => exact absurd rfl hisOk

/-- The first error is that of a result before which there are only successes. -/
theorem firstError_eq_error {results : List (Nat × Except TaskError Unit)} {e : TaskError}
    (h : firstError results = .error e) :
    ∃ before i after, results = before ++ (i, .error e) :: after ∧
      ∀ j a, (j, a) ∈ before → a = .ok () := by
  unfold firstError at h
  split at h
  · next i result hfound =>
      subst h
      obtain ⟨-, before, after, rfl, hbefore⟩ := List.find?_eq_some_iff_append.mp hfound
      refine ⟨before, i, after, rfl, fun j a hmem => ?_⟩
      have hisOk := hbefore (j, a) hmem
      cases a with
      | ok u => rfl
      | error e => cases hisOk
  · cases h

/-- Whatever their order, there is no error exactly if every result is a success. -/
theorem firstError_ok_iff {results : List (Nat × Except TaskError Unit)} :
    firstError results = .ok () ↔ ∀ i result, (i, result) ∈ results → result = .ok () := by
  refine ⟨fun h i result => firstError_ok h, fun h => ?_⟩
  cases hfirst : firstError results with
  | ok u => rfl
  | error e =>
      obtain ⟨before, i, after, rfl, -⟩ := firstError_eq_error hfirst
      cases h i (.error e) (by simp)

variable {g : Gathered ι S σ (Except TaskError Unit)}

theorem gather_returned {result : Except TaskError Unit}
    (h : (set.gather g).ending = .returned result) :
    ∃ results, g.ending = .returned results ∧ result = firstError results := by
  unfold gather at h
  cases hending : g.ending with
  | returned results =>
      rw [hending] at h
      cases h
      exact ⟨results, rfl, rfl⟩
  | panicked message =>
      rw [hending] at h
      cases h
  | hung =>
      rw [hending] at h
      cases h

theorem secured_gather (h : Gathered.Secured inv post past w set.entries.length g) :
    Outcome.Secured inv post past set w (set.gather g) := by
  refine ⟨h.follows, h.others, length_withStates .., fun i e he => ?_⟩
  obtain ⟨hi, -⟩ := List.getElem?_eq_some_iff.mp he
  have hs := List.getElem?_eq_getElem (h.length_eq ▸ hi)
  obtain ⟨found, y, hy, hsecured, hreturned⟩ := h.states i _ hs
  refine ⟨_, found, y, getElem?_withStates he hs, hy, hsecured, fun hok => ?_⟩
  obtain ⟨results, hresults, hfirst⟩ := gather_returned hok
  obtain ⟨result, rfl, hmem⟩ := hreturned results hresults
  rw [firstError_ok hfirst.symm hmem]

theorem secured_wait
    (h : Crew.Secures inv post past (set.entries.map fun e => (e.task.wait.run, e.state)) w) :
    Outcome.Secured inv post past set w (set.wait env token w) := by
  have hlength : (set.entries.map fun e => (e.task.wait.run, e.state)).length =
      set.entries.length := List.length_map _
  exact secured_gather (hlength ▸ h.fanOut)

/-- Whatever the budget, the stops are those of a fan-out. -/
theorem cleanupWithin_eq (budget : Duration)
    (h : Crew.Secures inv post past (set.entries.map fun e => (e.task.stop.run, e.state)) w) :
    ∃ g, set.cleanupWithin env token budget w = set.gather g ∧
      Gathered.Secured inv post past w set.entries.length g := by
  have hlength : (set.entries.map fun e => (e.task.stop.run, e.state)).length =
      set.entries.length := List.length_map _
  exact ⟨_, rfl, hlength ▸ h.fanOutWithin _⟩

theorem gather_hung {g : Gathered ι S σ (Except TaskError Unit)} (h : g.ending = .hung) :
    (set.gather g).ending = .hung := by
  simp [gather, h]

/-- A cleanup that is not cut off is the one that has all the time it needs. -/
theorem cleanupWithin_eq_cleanup {budget : Duration}
    (h : (set.cleanupWithin env token budget w).ending ≠ .hung) :
    set.cleanupWithin env token budget w = set.cleanup env token w :=
  congrArg set.gather (fanOutWithin_eq_fanOut fun hhung => h (gather_hung hhung))

end GatedRollout.CanarySet
