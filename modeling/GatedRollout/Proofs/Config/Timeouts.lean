import GatedRollout.Config.Basic

/-!
# Limits that are set one after the other

The limits of a rollout are built by setting one wait after the other, some of them more than once
and some to zero. Of all the settings only the last one of each wait counts. Limits are told apart
by what is configured for each wait, so that every law is one of `configured`.
-/

namespace GatedRollout.Timeouts

variable (t : Timeouts)

/-! ## A single setting -/

/-- A wait that is not listed does not exist, so limits that agree on each are the same. -/
theorem ext_configured {t u : Timeouts} (hstandard : t.standard = u.standard)
    (hconfigured : ∀ phase, t.configured phase = u.configured phase) : t = u := by
  cases t
  cases u
  rw [mk.injEq]
  exact ⟨hstandard, hconfigured .taskRunning, hconfigured .taskHealthCheck,
    hconfigured .taskStopped, hconfigured .serviceStable, hconfigured .targetHealthCheck,
    hconfigured .canaryIdle⟩

@[simp] theorem standard_withPhase (phase : Phase) (d : Duration) :
    (t.withPhase phase d).standard = t.standard := by
  cases phase <;> rfl

@[simp] theorem configured_uniform (standard : Duration) (phase : Phase) :
    (uniform standard).configured phase = .zero := by
  cases phase <;> rfl

theorem withPhase_comm {phase other : Phase} (h : other ≠ phase) (d e : Duration) :
    (t.withPhase phase d).withPhase other e = (t.withPhase other e).withPhase phase d := by
  refine ext_configured (by simp) fun wait => ?_
  simp only [configured_withPhase]
  split
  · next hwait => rw [if_neg (hwait ▸ h)]
  · rfl

theorem resolve_withPhase_of_ne {phase other : Phase} (h : other ≠ phase) (d : Duration) :
    (t.withPhase phase d).resolve other = t.resolve other := by
  rw [resolve, resolve, defaultTimeout_withPhase, configured_withPhase, if_neg h]

/-! ## What a wait comes to -/

theorem fallbackTimeout_ne_zero : fallbackTimeout ≠ .zero := by decide

theorem defaultTimeout_eq :
    t.defaultTimeout = if t.standard = .zero then fallbackTimeout else t.standard := by
  simp only [defaultTimeout, Duration.isZero_iff, Duration.eq_zero_iff]

theorem resolve_eq (phase : Phase) :
    t.resolve phase =
      if t.configured phase = .zero then t.defaultTimeout else t.configured phase := by
  simp only [resolve, Duration.isZero_iff, Duration.eq_zero_iff]

theorem resolve_ne_zero (phase : Phase) : t.resolve phase ≠ .zero := by
  rw [resolve_eq, defaultTimeout_eq]
  split
  · split
    · exact fallbackTimeout_ne_zero
    · assumption
  · assumption

/-! ## Settings in a row -/

/-- Set the limits of these waits one after the other. -/
def setEach (sets : List (Phase × Duration)) : Timeouts :=
  sets.foldl (fun t set => t.withPhase set.1 set.2) t

/-- The limit that is set last for a wait, if any is. -/
def lastSet (phase : Phase) (sets : List (Phase × Duration)) : Option Duration :=
  sets.reverse.lookup phase

theorem lastSet_cons (phase other : Phase) (d : Duration) (sets : List (Phase × Duration)) :
    lastSet phase ((other, d) :: sets) =
      (lastSet phase sets).or (if phase = other then some d else none) := by
  rw [lastSet, List.reverse_cons, List.lookup_append, ← lastSet]
  by_cases h : phase = other
  · rw [if_pos h, h, List.lookup_cons_self]
  · rw [if_neg h, List.lookup_cons, beq_false_of_ne h]
    rfl

@[simp] theorem standard_setEach (sets : List (Phase × Duration)) :
    (t.setEach sets).standard = t.standard := by
  induction sets generalizing t with
  | nil => rfl
  | cons set sets ih => exact (ih _).trans (t.standard_withPhase set.1 set.2)

theorem configured_setEach (sets : List (Phase × Duration)) (phase : Phase) :
    (t.setEach sets).configured phase = (lastSet phase sets).getD (t.configured phase) := by
  induction sets generalizing t with
  | nil => rfl
  | cons set sets ih =>
      obtain ⟨other, d⟩ := set
      rw [lastSet_cons]
      refine (ih _).trans ?_
      rw [configured_withPhase]
      cases lastSet phase sets with
      | some last => rfl
      | none =>
          rw [Option.none_or, Option.getD_none]
          split <;> rfl

/-- Without its own settings a wait has none, and every other wait has what it had. -/
theorem lastSet_filter (phase other : Phase) (sets : List (Phase × Duration)) :
    lastSet other (sets.filter (·.1 ≠ phase)) =
      if other = phase then none else lastSet other sets := by
  induction sets with
  | nil => simp [lastSet]
  | cons set sets ih =>
      obtain ⟨wait, d⟩ := set
      rw [lastSet_cons, List.filter_cons]
      by_cases hwait : wait = phase
      · rw [if_neg (by simpa using hwait), ih]
        split
        · rfl
        · next hother => rw [if_neg (hwait ▸ hother), Option.or_none]
      · rw [if_pos (by simpa using hwait), lastSet_cons, ih]
        split
        · next hother => rw [if_neg (hother ▸ Ne.symm hwait)]; rfl
        · rfl

/-- A limit of zero stands for none: it undoes every earlier setting of its wait. -/
theorem withPhase_zero_setEach (standard : Duration) (sets : List (Phase × Duration))
    (phase : Phase) :
    ((uniform standard).setEach sets).withPhase phase .zero =
      (uniform standard).setEach (sets.filter (·.1 ≠ phase)) := by
  refine ext_configured (by simp) fun wait => ?_
  rw [configured_withPhase, configured_setEach, configured_setEach, configured_uniform,
    lastSet_filter]
  split <;> rfl

/-- Whatever limits are set one after the other, each wait comes to what was set for it last; where
that is nothing or zero, to the default; and where that is zero too, to fifteen minutes. No wait
comes to zero, a setting leaves all other waits as they were, a setting to zero undoes the settings
of its wait, and settings of two waits may change places. -/
theorem settings_keep_apart (standard : Duration) (sets : List (Phase × Duration)) :
    let built := (uniform standard).setEach sets
    (∀ phase, built.resolve phase = ((lastSet phase sets).filter (· ≠ .zero)).getD
        (if standard = .zero then .ofSeconds (15 * 60) else standard)) ∧
      (∀ phase, built.resolve phase ≠ .zero) ∧
      ∀ phase d,
        (∀ other, other ≠ phase → (built.withPhase phase d).resolve other = built.resolve other) ∧
        built.withPhase phase .zero =
          (uniform standard).setEach (sets.filter (·.1 ≠ phase)) ∧
        ∀ other e, other ≠ phase →
          (built.withPhase phase d).withPhase other e =
            (built.withPhase other e).withPhase phase d := by
  intro built
  refine ⟨fun phase => ?_, built.resolve_ne_zero, fun phase d =>
    ⟨fun other h => built.resolve_withPhase_of_ne h d, withPhase_zero_setEach standard sets phase,
      fun other e h => built.withPhase_comm h d e⟩⟩
  have hdefault : built.defaultTimeout =
      if standard = .zero then fallbackTimeout else standard := by
    rw [defaultTimeout_eq, standard_setEach]
    rfl
  rw [resolve_eq, configured_setEach, configured_uniform, hdefault]
  cases lastSet phase sets with
  | none => rfl
  | some last =>
      rw [Option.getD_some]
      by_cases hlast : last = .zero
      · rw [if_pos hlast, Option.filter_some_neg (by simpa using hlast)]
        rfl
      · rw [if_neg hlast, Option.filter_some_pos (by simpa using hlast)]
        rfl

end GatedRollout.Timeouts
