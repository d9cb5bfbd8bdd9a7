import GatedRollout.Proofs.Canary.Schedule
import Mathlib.Data.List.Chain
import Mathlib.Data.List.DropRight

/-!
# What a health tracker counts

A tracker is told one read after another, whatever its verdicts on them are. It counts the `unused`
reads since the latest `initial` one, as far as its counter goes. That is the run of `unused` reads
at the end of the history as long as every such run was ended by an `initial` read, and only then:
any other read leaves the count as it stands.
-/

namespace GatedRollout.Canary

/-! ## Runs of unused reads -/

/-- The last five of some reads were all `unused`. -/
def FiveUnused (reads : List (Option TargetHealth)) : Prop :=
  ∃ run, run <:+ reads ∧ run.length = 5 ∧ ∀ read ∈ run, shownState read = some .unused

theorem unusedRun_eq (reads : List (Option TargetHealth)) :
    unusedRun reads = (reads.rtakeWhile fun read => shownState read = some .unused).length := by
  rw [List.rtakeWhile, List.length_reverse]
  rfl

theorem unusedRun_append_unused (reads : List (Option TargetHealth)) {read : Option TargetHealth}
    (h : shownState read = some .unused) : unusedRun (reads ++ [read]) = unusedRun reads + 1 := by
  rw [unusedRun_eq, unusedRun_eq, List.rtakeWhile_concat_pos _ _ _ (by simpa using h),
    List.length_append, List.length_singleton]

theorem unusedRun_append_other (reads : List (Option TargetHealth)) {read : Option TargetHealth}
    (h : shownState read ≠ some .unused) : unusedRun (reads ++ [read]) = 0 := by
  rw [unusedRun_eq, List.rtakeWhile_concat_neg _ _ _ (by simpa using h), List.length_nil]

theorem fiveUnused_iff (reads : List (Option TargetHealth)) :
    FiveUnused reads ↔ 5 ≤ unusedRun reads := by
  rw [unusedRun_eq]
  constructor
  · rintro ⟨run, ⟨before, rfl⟩, hlength, hunused⟩
    have hall : ∀ read ∈ run.reverse, decide (shownState read = some .unused) = true := by
      simpa using hunused
    rw [List.rtakeWhile, List.length_reverse, List.reverse_append,
      List.takeWhile_append_of_pos hall, List.length_append, List.length_reverse]
    omega
  · intro hfive
    refine ⟨(reads.rtakeWhile fun read => shownState read = some .unused).rtake 5,
      (List.drop_suffix _ _).trans (List.rtakeWhile_suffix _ _), ?_, ?_⟩
    · simp only [List.rtake, List.length_drop]
      omega
    · intro read hread
      simpa using List.mem_rtakeWhile_imp (List.mem_of_mem_drop hread)

instance (reads : List (Option TargetHealth)) : Decidable (FiveUnused reads) :=
  decidable_of_iff _ (fiveUnused_iff reads).symm

/-- Every run of `unused` reads that has ended was ended by an `initial` one. -/
def EndsRunsInitially (reads : List (Option TargetHealth)) : Prop :=
  reads.IsChain fun earlier later => shownState earlier = some .unused →
    shownState later = some .unused ∨ shownState later = some .initial

/-! ## The count -/

/-- The number of `unused` reads since the latest `initial` one. -/
def unusedSinceInitial (reads : List (Option TargetHealth)) : Nat :=
  (reads.rtakeWhile fun read => shownState read ≠ some .initial).countP
    fun read => shownState read = some .unused

theorem unusedSinceInitial_append (reads : List (Option TargetHealth))
    (read : Option TargetHealth) :
    unusedSinceInitial (reads ++ [read]) =
      if shownState read = some .initial then 0
      else if shownState read = some .unused then unusedSinceInitial reads + 1
      else unusedSinceInitial reads := by
  unfold unusedSinceInitial
  rw [List.rtakeWhile_concat]
  by_cases hinitial : shownState read = some .initial
  · simp [hinitial]
  · by_cases hunused : shownState read = some .unused
    · simp [hunused, List.countP_append]
    · simp [hinitial, hunused, List.countP_append]

theorem unusedSinceInitial_le_length (reads : List (Option TargetHealth)) :
    unusedSinceInitial reads ≤ reads.length :=
  (List.countP_le_length).trans (List.rtakeWhile_suffix _ reads).length_le

namespace HealthTracker

/-- One read sets the count back, raises it or leaves it as it is. -/
theorem unusedReads_observe (t : HealthTracker) (read : Option TargetHealth) :
    (t.observe read).1.unusedReads =
      if shownState read = some .initial then 0
      else if shownState read = some .unused then (t.unusedReads + 1) % UInt32.size
      else t.unusedReads := by
  cases read with
  | none => rfl
  | some health =>
      obtain ⟨state, reason, description⟩ := health
      cases state <;> rfl

theorem last_observe (t : HealthTracker) (read : Option TargetHealth) :
    (t.observe read).1.last = shownState read := by
  cases read with
  | none => rfl
  | some health => cases hstate : health.state <;> simp [observe, counted, shownState, hstate]

theorem observeAll_append (t : HealthTracker) (reads : List (Option TargetHealth))
    (read : Option TargetHealth) :
    t.observeAll (reads ++ [read]) = ((t.observeAll reads).observe read).1 := by
  simp [observeAll, List.foldl_append]

/-- The counter goes around at `2 ^ 32`. -/
theorem unusedReads_observeAll_mod (reads : List (Option TargetHealth)) :
    (observeAll {} reads).unusedReads = unusedSinceInitial reads % UInt32.size := by
  induction reads using List.reverseRecOn with
  | nil => rfl
  | append_singleton reads read ih =>
      rw [observeAll_append, unusedReads_observe, unusedSinceInitial_append, ih]
      split
      · rfl
      · split
        · exact Nat.mod_add_mod ..
        · rfl

theorem unusedReads_observeAll {reads : List (Option TargetHealth)}
    (h : reads.length < UInt32.size) :
    (observeAll {} reads).unusedReads = unusedSinceInitial reads := by
  rw [unusedReads_observeAll_mod]
  exact Nat.mod_eq_of_lt (Nat.lt_of_le_of_lt (unusedSinceInitial_le_length reads) h)

theorem last_observeAll (reads : List (Option TargetHealth)) :
    (observeAll {} reads).last = reads.getLast?.bind shownState := by
  cases reads using List.reverseRecOn with
  | nil => rfl
  | append_singleton reads read => rw [observeAll_append, last_observe]; simp

/-- An `unused` read fails the target where the count comes to the bound with it. -/
theorem observe_unused (t : HealthTracker) {health : TargetHealth} (h : health.state = .unused) :
    (t.observe (some health)).2 =
      if maxUnusedReads ≤ (t.observe (some health)).1.unusedReads then
        .failed .unused health.reason
      else .pending := by
  simp only [observe, h]

end HealthTracker

/-! ## Counts and runs -/

theorem unusedRun_pos {reads : List (Option TargetHealth)} {read : Option TargetHealth}
    (hlast : read ∈ reads.getLast?) (hunused : shownState read = some .unused) :
    0 < unusedRun reads := by
  obtain ⟨before, rfl⟩ := List.getLast?_eq_some_iff.mp hlast
  rw [unusedRun_append_unused before hunused]
  exact Nat.succ_pos _

theorem unusedRun_eq_zero {reads : List (Option TargetHealth)}
    (h : ∀ read ∈ reads.getLast?, shownState read ≠ some .unused) : unusedRun reads = 0 := by
  cases reads using List.reverseRecOn with
  | nil => rfl
  | append_singleton reads read => exact unusedRun_append_other reads (h read (by simp))

/-- The count is the run at the end where all runs before it were ended by `initial` reads. -/
theorem EndsRunsInitially.count_eq {reads : List (Option TargetHealth)}
    (h : EndsRunsInitially reads) : unusedSinceInitial reads = unusedRun reads := by
  induction reads using List.reverseRecOn with
  | nil => rfl
  | append_singleton reads read ih =>
      obtain ⟨hreads, -, hlast⟩ := List.isChain_append.mp h
      rw [unusedSinceInitial_append, ih hreads]
      by_cases hunused : shownState read = some .unused
      · rw [unusedRun_append_unused reads hunused]
        simp [hunused]
      · rw [unusedRun_append_other reads hunused]
        by_cases hinitial : shownState read = some .initial
        · simp [hinitial]
        · -- Nothing is carried past a read of another kind, because no run ends there.
          have hquiet : unusedRun reads = 0 := unusedRun_eq_zero fun earlier hearlier hmem =>
            (hlast earlier hearlier read rfl hmem).elim hunused hinitial
          simp [hinitial, hunused, hquiet]

/-- Where the count is the run at the end all along, every run is ended by an `initial` read. -/
theorem EndsRunsInitially.of_count_eq {reads : List (Option TargetHealth)}
    (h : ∀ earlier, earlier <+: reads → unusedSinceInitial earlier = unusedRun earlier) :
    EndsRunsInitially reads := by
  induction reads using List.reverseRecOn with
  | nil => exact .nil
  | append_singleton reads read ih =>
      have hbefore := h reads (List.prefix_append reads [read])
      have hafter := h (reads ++ [read]) (List.prefix_refl _)
      have hreads := ih fun earlier hbegins => h earlier (hbegins.trans (List.prefix_append ..))
      refine List.isChain_append.mpr ⟨hreads, .singleton _, ?_⟩
      intro earlier hearlier later hlater hunused
      obtain rfl : read = later := by simpa using hlater
      by_contra! hother
      have hpos := unusedRun_pos hearlier hunused
      rw [unusedSinceInitial_append, if_neg hother.2, if_neg hother.1, hbefore,
        unusedRun_append_other reads hother.1] at hafter
      omega

/-- As long as its counter does not go around, a tracker counts the `unused` reads since the latest
`initial` one, fails an `unused` read where that count comes to five, and keeps the state of the
latest read. Its count is the run of `unused` reads at the end all along just where every run was
ended by an `initial` read, and there the reads that it fails are the fifth and later ones in a
row. -/
theorem observeAll_counts (reads : List (Option TargetHealth))
    (h : reads.length + 1 < UInt32.size) :
    let tracker := HealthTracker.observeAll {} reads
    (tracker.unusedReads = unusedSinceInitial reads ∧
        tracker.last = reads.getLast?.bind shownState) ∧
      (∀ health : TargetHealth, health.state = .unused →
        (tracker.observe (some health)).2 =
          if 5 ≤ unusedSinceInitial (reads ++ [some health]) then .failed .unused health.reason
          else .pending) ∧
      (EndsRunsInitially reads ↔ ∀ earlier, earlier <+: reads →
        (HealthTracker.observeAll {} earlier).unusedReads = unusedRun earlier) ∧
      ∀ health : TargetHealth, health.state = .unused →
        EndsRunsInitially (reads ++ [some health]) →
          (tracker.observe (some health)).2 =
            if FiveUnused (reads ++ [some health]) then .failed .unused health.reason
            else .pending := by
  intro tracker
  have hcount : ∀ earlier, earlier <+: reads →
      (HealthTracker.observeAll {} earlier).unusedReads = unusedSinceInitial earlier := by
    intro earlier hbegins
    have hlength := hbegins.length_le
    exact HealthTracker.unusedReads_observeAll (by omega)
  have hverdict : ∀ health : TargetHealth, health.state = .unused →
      (tracker.observe (some health)).2 =
        if 5 ≤ unusedSinceInitial (reads ++ [some health]) then .failed .unused health.reason
        else .pending := by
    intro health hunused
    have hnext : (reads ++ [some health]).length < UInt32.size := by
      rwa [List.length_append, List.length_singleton]
    rw [tracker.observe_unused hunused, ← HealthTracker.observeAll_append,
      HealthTracker.unusedReads_observeAll hnext]
    rfl
  refine ⟨⟨hcount reads (List.prefix_refl reads), HealthTracker.last_observeAll reads⟩,
    hverdict, ⟨?_, ?_⟩, ?_⟩
  · rintro hruns earlier hbegins
    rw [hcount earlier hbegins]
    obtain ⟨rest, rfl⟩ := hbegins
    exact EndsRunsInitially.count_eq (List.isChain_append.mp hruns).1
  · intro hcounts
    refine EndsRunsInitially.of_count_eq fun earlier hbegins => ?_
    rw [← hcount earlier hbegins]
    exact hcounts earlier hbegins
  · intro health hunused hruns
    rw [hverdict health hunused, hruns.count_eq]
    simp only [fiveUnused_iff]

/-- An `initial` read after four `unused` ones starts the count again, and the next `unused` read is
waited out. -/
theorem observeAll_counts_restarted :
    let unused : TargetHealth := { state := .unused }
    let reads := List.replicate 4 (some unused) ++ [some { state := .initial }]
    let tracker := HealthTracker.observeAll {} reads
    reads.length + 1 < UInt32.size ∧ EndsRunsInitially (reads ++ [some unused]) ∧
      tracker.unusedReads = 0 ∧ (tracker.observe (some unused)).2 = .pending := by
  intro unused reads tracker
  have hlength : reads.length + 1 < UInt32.size := by decide
  have hruns : EndsRunsInitially (reads ++ [some unused]) := by
    simp [reads, unused, EndsRunsInitially, shownState, List.replicate]
  obtain ⟨⟨hcount, -⟩, -, -, hverdict⟩ := observeAll_counts reads hlength
  exact ⟨hlength, hruns, hcount.trans (by decide),
    (hverdict unused rfl hruns).trans (if_neg (by decide))⟩

/-- A `healthy` read between `unused` ones is counted past: the run is over and the count is not,
and the next `unused` read fails the target although it is the first of its run. -/
theorem observeAll_counts_past_healthy :
    let unused : TargetHealth := { state := .unused }
    let reads := List.replicate 4 (some unused) ++ [some { state := .healthy }]
    let tracker := HealthTracker.observeAll {} reads
    tracker.unusedReads = 4 ∧ unusedRun reads = 0 ∧
      (tracker.observe (some unused)).2 = .failed .unused none ∧
      ¬ FiveUnused (reads ++ [some unused]) := by
  decide

end GatedRollout.Canary
