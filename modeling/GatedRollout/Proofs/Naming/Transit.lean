import GatedRollout.Proofs.Naming.Names
import GatedRollout.Proofs.Process.Ends
import GatedRollout.Proofs.Recreate.Confirmation
import GatedRollout.Proofs.Wait.Schedule

/-!
# The name of the transit service

The transit service of a recreation is named by the instant at which it is needed. Up to the end of
the year 9999 a stamp has digits only, and perhaps a hyphen in front; from the year 10000 on it
begins with a plus sign, which no name has.
-/

namespace GatedRollout

open ServiceName (IsPlain)

namespace Calendar

/-! ## Years -/

/-- The first second of the year 10000, counted from the start of 1970. -/
def yearTenThousand : Int := 253402300800

/-- The years of an era are counted from 0 to 399, and its last sixty days belong to the year after
them. -/
theorem year_ofUnixDay (day : Int) : ∃ k : Nat, k ≤ 400 ∧
    (k = 400 ↔ 146037 ≤ (day + 719468) % 146097) ∧
      (Date.ofUnixDay day).year = (day + 719468) / 146097 * 400 + k := by
  have hlt : (day + 719468) % 146097 < 146097 := Int.emod_lt_of_pos _ (by decide)
  have hnonneg : 0 ≤ (day + 719468) % 146097 := Int.emod_nonneg _ (by decide)
  simp only [Date.ofUnixDay, Int.fdiv_eq_ediv_of_nonneg _ (by decide : (0 : Int) ≤ 146097),
    Int.fmod_eq_emod_of_nonneg _ (by decide : (0 : Int) ≤ 146097)]
  generalize (day + 719468) / 146097 = era
  obtain ⟨n, hn⟩ := Int.eq_ofNat_of_zero_le hnonneg
  rw [hn] at hlt ⊢
  rw [Int.toNat_natCast]
  generalize hyear : (n - n / 1460 + n / 36524 - n / 146096) / 365 = yearOfEra
  generalize hday : n - (365 * yearOfEra + yearOfEra / 4 - yearOfEra / 100) = dayOfYear
  have hyears : yearOfEra ≤ 399 := by omega
  have hlast : yearOfEra = 399 ∧ 306 ≤ dayOfYear ↔ 146037 ≤ n := by omega
  -- The days of a year are bounded century by century, as the last one of an era is a day longer.
  have hcentury : n / 36524 = 0 ∨ n / 36524 = 1 ∨ n / 36524 = 2 ∨ n / 36524 = 3 ∨
      n / 36524 = 4 := by omega
  have hdays : dayOfYear ≤ 366 := by
    rcases hcentury with h | h | h | h | h <;> omega
  have hspring : (if (5 * dayOfYear + 2) / 153 < 10 then (5 * dayOfYear + 2) / 153 + 3
      else (5 * dayOfYear + 2) / 153 - 9) ≤ 2 ↔ 306 ≤ dayOfYear := by
    split <;> omega
  rw [if_congr hspring rfl rfl]
  refine ⟨yearOfEra + if 306 ≤ dayOfYear then 1 else 0, ?_, ?_, ?_⟩
  · split <;> omega
  · split <;> omega
  · split <;> omega

theorem year_le_iff (t : Instant) :
    (Date.ofUnixDay (t.unixSeconds.fdiv 86400)).year ≤ 9999 ↔ t.unixSeconds < yearTenThousand := by
  obtain ⟨k, hle, hlast, hyear⟩ := year_ofUnixDay (t.unixSeconds.fdiv 86400)
  rw [hyear, Int.fdiv_eq_ediv_of_nonneg _ (by decide : (0 : Int) ≤ 86400)] at *
  rw [yearTenThousand]
  omega

/-- Of all the instants there are, none has a date with a number of more than six digits. -/
theorem date_lt (t : Instant) :
    let date := Date.ofUnixDay (t.unixSeconds.fdiv 86400)
    date.year.natAbs < 10 ^ 6 ∧ date.month < 10 ^ 6 ∧ date.day < 10 ^ 6 := by
  obtain ⟨k, hle, -, hyear⟩ := year_ofUnixDay (t.unixSeconds.fdiv 86400)
  have hseconds : t.unixSeconds = t.nanos / 1000000000 :=
    Int.fdiv_eq_ediv_of_nonneg _ (by decide)
  have hearliest := t.earliest_le
  have hlatest := t.le_latest
  refine ⟨?_, ?_, ?_⟩
  · rw [hyear, Int.fdiv_eq_ediv_of_nonneg _ (by decide), hseconds]
    omega
  all_goals
    have hera := Int.fmod_lt_of_pos (t.unixSeconds.fdiv 86400 + 719468)
      (by decide : (0 : Int) < 146097)
    simp only [Date.ofUnixDay]
    generalize ((t.unixSeconds.fdiv 86400 + 719468).fmod 146097) = dayOfEra at *
  · split <;> omega
  · omega

/-! ## Digits -/

theorem isPlain_of_mem_padded {width n : Nat} {c : Char} (h : c ∈ (padded width n).toList) :
    IsPlain c := by
  have hdigit : c.isDigit = true := by
    rw [padded, String.toList_ofList, List.mem_append] at h
    rcases h with h | h
    · rw [List.eq_of_mem_replicate h]
      rfl
    · exact Nat.isDigit_of_mem_toDigits (by decide : 0 < 10) (by decide) h
  exact ServiceName.isNameChar_iff.mp (by simp [ServiceName.isNameChar, Char.isAlphanum, hdigit])

theorem utf8ByteSize_padded_le {width n : Nat} (hwidth : width ≤ 6) (hn : n < 10 ^ 6) :
    (padded width n).utf8ByteSize ≤ 6 := by
  have hdigits : (Nat.toDigits 10 n).length ≤ 6 :=
    (Nat.length_toDigits_le_iff (by decide) (by decide)).mpr hn
  rw [ServiceName.utf8ByteSize_of_plain fun c => isPlain_of_mem_padded, padded,
    ← String.length_toList, String.toList_ofList, List.length_append, List.length_replicate]
  omega

/-! ## Stamps -/

theorem not_isPlain_plus : ¬IsPlain '+' := by decide

theorem yearText_plain_iff {year : Int} :
    (∀ c ∈ (yearText year).toList, IsPlain c) ↔ year ≤ 9999 := by
  unfold yearText
  split
  · next hyear => exact iff_of_true (fun c => isPlain_of_mem_padded) hyear.2
  · next hyear =>
      split
      · next hnegative =>
          simp only [String.toList_append, List.forall_mem_append]
          refine iff_of_true ⟨?_, fun c => isPlain_of_mem_padded⟩ (by omega)
          exact ServiceName.isPlain_of_all (by decide)
      · next hnonneg =>
          simp only [String.toList_append, List.forall_mem_append]
          refine iff_of_false (fun h => ?_) (by omega)
          exact not_isPlain_plus (h.1 '+' (by decide))

/-- A stamp has the characters of a name up to the end of the year 9999. -/
theorem stamp_plain_iff {t : Instant} :
    (∀ c ∈ (stamp t).toList, IsPlain c) ↔ t.unixSeconds < yearTenThousand := by
  simp only [stamp, String.toList_append, List.forall_mem_append, yearText_plain_iff, year_le_iff]
  refine ⟨fun h => h.1.1.1.1.1, fun h => ⟨⟨⟨⟨⟨h, ?_⟩, ?_⟩, ?_⟩, ?_⟩, ?_⟩⟩ <;>
    exact fun c => isPlain_of_mem_padded

theorem utf8ByteSize_yearText_le {year : Int} (h : year.natAbs < 10 ^ 6) :
    (yearText year).utf8ByteSize ≤ 7 := by
  unfold yearText
  split
  · exact (utf8ByteSize_padded_le (by decide) (by omega)).trans (by decide)
  · have hdigits : (padded 4 year.natAbs).utf8ByteSize ≤ 6 := utf8ByteSize_padded_le (by decide) h
    rw [String.utf8ByteSize_append]
    split
    · exact Nat.add_le_add (by decide : _ ≤ 1) hdigits
    · exact Nat.add_le_add (by decide : _ ≤ 1) hdigits

/-- A stamp leaves room for itself in a transit name. -/
theorem utf8ByteSize_stamp_le (t : Instant) : (stamp t).utf8ByteSize ≤ 37 := by
  obtain ⟨hyear, hmonth, hday⟩ := date_lt t
  have htime : (t.unixSeconds.fmod 86400).toNat < 86400 := by
    have hlt := Int.fmod_lt_of_pos t.unixSeconds (by decide : (0 : Int) < 86400)
    omega
  have hpart : ∀ n < 10 ^ 6, (padded 2 n).utf8ByteSize ≤ 6 :=
    fun n => utf8ByteSize_padded_le (by decide)
  simp only [stamp, String.utf8ByteSize_append]
  generalize (t.unixSeconds.fmod 86400).toNat = time at *
  have hdate := Nat.add_le_add (Nat.add_le_add (utf8ByteSize_yearText_le hyear)
    (hpart _ hmonth)) (hpart _ hday)
  have hclock := Nat.add_le_add (Nat.add_le_add (hpart (time / 3600) (by omega))
    (hpart (time / 60 % 60) (by omega))) (hpart (time % 60) (by omega))
  omega

end Calendar

/-! ## The name of a transit service -/

namespace ServiceName

variable {name : ServiceName} (h : name.isValid = true) (now : Instant)

theorem transitTail_stamp_le : (transitTail (Calendar.stamp now)).utf8ByteSize ≤ maxLength := by
  have hstamp := Calendar.utf8ByteSize_stamp_le now
  rw [utf8ByteSize_transitTail, maxLength]
  omega

include h

theorem isValid_transit_stamp_iff :
    (name.transit (Calendar.stamp now)).isValid = true ↔
      now.unixSeconds < Calendar.yearTenThousand :=
  (isValid_transit_iff h (transitTail_stamp_le now)).trans Calendar.stamp_plain_iff

end ServiceName

namespace Recreation

variable {S : Type} (recreation : Recreation) (env : Environment controlPlane S) (token : Token)
  (actor : Option Nat) (before : Steps) (w : World controlPlane S)

/-- The request that the existence of the old service is read with. -/
def lookup : ControlPlane.Request :=
  recreation.engine.serviceRead recreation.engine.service

/-- The transit service as it is named at an instant. -/
def transitAt (now : Instant) : ServiceName :=
  recreation.engine.service.transit (Calendar.stamp now)

/-- A recreation that is told of a live service goes on with its eight steps. -/
theorem run_recreate_told {old : Service} (hactive : old.isInactive = false)
    (htells : w.Tells (ι := controlPlane) env actor recreation.lookup (.ok (some old))) :
    let after := w.told (ι := controlPlane) env actor recreation.lookup (.ok (some old))
    run env token actor recreation.recreate.run before w =
      run env token actor
        (recreation.transition recreation.engine.service (recreation.transitAt after.clock)
            old.desiredCount >>= fun service => Attempt.state >>= fun steps =>
          pure (⟨service, steps⟩ : Result)).run [] after := by
  intro after
  refine (run_call_told htells).trans ?_
  show run env token actor (liftM (judgeOld recreation.engine.service (some old)) >>= _ :
    Move Result).run [] after = _
  rw [judgeOld, if_neg (by simp [hactive])]
  rfl

/-- It then asks for a transit service that is named by the instant at which it was told. -/
theorem requestsIn_recreate {old : Service} (hactive : old.isInactive = false)
    (htells : w.Tells (ι := controlPlane) env actor recreation.lookup (.ok (some old))) :
    let after := w.told (ι := controlPlane) env actor recreation.lookup (.ok (some old))
    ∃ rest, requestsIn
        ((run env token actor recreation.recreate.run before w).world.since w) =
      [recreation.lookup,
        .createService (recreation.creation (recreation.transitAt after.clock))] ++ rest := by
  intro after
  have hcreates : ∃ rest, requestsIn ((run env token actor
        (recreation.transition recreation.engine.service (recreation.transitAt after.clock)
            old.desiredCount >>= fun service => Attempt.state >>= fun steps =>
          pure (⟨service, steps⟩ : Result)).run [] after).world.since after) =
      .createService (recreation.creation (recreation.transitAt after.clock)) :: rest :=
    exists_requestsIn_run_call _ _ _ _
  obtain ⟨rest, hrest⟩ := hcreates
  rw [run_recreate_told recreation env token actor before w hactive htells,
    (World.follows_told (ι := controlPlane) w env actor _ _).requestsIn_trans
      (run_follows env token actor _ _ after),
    World.requestsIn_told, hrest]
  exact ⟨rest, rfl⟩

/-- A recreation that finds its service alive asks for a transit service next. The name that it asks
for is lawful up to the end of the year 9999, and is another than that of the service itself, unless
this has the longest length and ends as its transit name would. -/
theorem recreate_names_transit
    (hname : ServiceName.parse recreation.engine.service.text = .ok recreation.engine.service) :
    (∀ now : Instant,
      let name := recreation.engine.service
      let transit := recreation.transitAt now
      (ServiceName.parse transit.text = .ok transit ↔
        now.unixSeconds < Calendar.yearTenThousand) ∧
      (transit = name ↔ name.text.utf8ByteSize = 255 ∧
        ∃ front, name.text = front ++ "-transit-" ++ Calendar.stamp now)) ∧
    ∀ (env : Environment controlPlane S) (token : Token) (actor : Option Nat) (before : Steps)
      (w : World controlPlane S) (old : Service), old.isInactive = false →
        w.Tells (ι := controlPlane) env actor recreation.lookup (.ok (some old)) →
          let now := (w.told (ι := controlPlane) env actor recreation.lookup (.ok (some old))).clock
          ∃ rest, requestsIn
              ((run env token actor recreation.recreate.run before w).world.since w) =
            [recreation.lookup,
              .createService (recreation.creation (recreation.transitAt now))] ++ rest := by
  refine ⟨fun now => ⟨?_, ?_⟩, fun env token actor before w old hactive htells =>
    requestsIn_recreate recreation env token actor before w hactive htells⟩
  · rw [← ServiceName.isValid_iff] at hname ⊢
    exact ServiceName.isValid_transit_stamp_iff hname now
  · rw [← ServiceName.isValid_iff] at hname
    simp only [String.append_assoc]
    exact ServiceName.transit_eq_self_iff hname (ServiceName.transitTail_stamp_le now)

/-- The recreation of a service of this name. -/
def sampleOf (name : ServiceName) : Recreation where
  engine := { config := { cluster := "prod", service := name }, patience := 0 }
  taskDefinition := { arn := ⟨"task-definition/api:2"⟩, family := "api" }
  definition := { serviceName := name }

/-- A control plane that has the service at rest, at this instant. -/
def meeting (name : ServiceName) (now : Instant) : World controlPlane (List (Option Service)) :=
  .start now false [resting name 3]

theorem recreate_names_transit_sample :
    let recreation := sampleOf ⟨"api"⟩
    let transit := recreation.transitAt .epoch
    let out := run retelling .caller none recreation.recreate.run [] (meeting ⟨"api"⟩ .epoch)
    ServiceName.parse transit.text = .ok transit ∧ transit ≠ ⟨"api"⟩ ∧
      ∃ rest, requestsIn (out.world.since (meeting ⟨"api"⟩ .epoch)) =
        [recreation.lookup, .createService (recreation.creation transit)] ++ rest := by
  intro recreation transit out
  obtain ⟨hnames, hasks⟩ :=
    recreate_names_transit (S := List (Option Service)) recreation (by decide)
  obtain ⟨hlawful, hown⟩ := hnames .epoch
  refine ⟨hlawful.mpr (by decide), fun hsame => ?_, hasks retelling .caller none [] _ _ ?_ rfl⟩
  · exact absurd (hown.mp hsame).1 (by decide)
  · rfl

theorem requestsIn_recreate_meeting {name transit : ServiceName} {now : Instant}
    (h : (sampleOf name).transitAt now = transit) :
    ∃ rest, requestsIn ((run retelling .caller none (sampleOf name).recreate.run []
        (meeting name now)).world.since (meeting name now)) =
      [(sampleOf name).lookup, .createService ((sampleOf name).creation transit)] ++ rest := by
  obtain ⟨rest, hrest⟩ := requestsIn_recreate (sampleOf name) retelling .caller none []
    (meeting name now) (show (_ : Service).isInactive = false from rfl) rfl
  have hclock : ((meeting name now).told (ι := controlPlane) retelling none (sampleOf name).lookup
      (.ok (resting name 3))).clock = now := now.advance_zero
  refine ⟨rest, hrest.trans ?_⟩
  rw [← h]
  exact congrArg (fun instant => [(sampleOf name).lookup,
    .createService ((sampleOf name).creation ((sampleOf name).transitAt instant))] ++ rest) hclock

/-- From the year 10000 on, the transit service is asked for by a name that is none; and a service
whose name is that of a transit service already is its own transit service. -/
theorem recreate_names_no_transit :
    let tenThousand : Instant := ⟨253402300800 * 1000000000, by decide, by decide⟩
    let named : ServiceName :=
      ⟨String.ofList (List.replicate 232 'a') ++ "-transit-19700101000000"⟩
    (∃ rest, requestsIn ((run retelling .caller none (sampleOf ⟨"api"⟩).recreate.run []
          (meeting ⟨"api"⟩ tenThousand)).world.since (meeting ⟨"api"⟩ tenThousand)) =
        [(sampleOf ⟨"api"⟩).lookup, .createService
          ((sampleOf ⟨"api"⟩).creation ⟨"api-transit-+100000101000000"⟩)] ++ rest) ∧
      ServiceName.parse "api-transit-+100000101000000" = .error (.invalidChar '+') ∧
      (∃ rest, requestsIn ((run retelling .caller none (sampleOf named).recreate.run []
          (meeting named .epoch)).world.since (meeting named .epoch)) =
        [(sampleOf named).lookup, .createService ((sampleOf named).creation named)] ++ rest) ∧
      ServiceName.parse named.text = .ok named := by
  intro tenThousand named
  have hunlawful : (sampleOf ⟨"api"⟩).transitAt tenThousand =
      ⟨"api-transit-+100000101000000"⟩ := by decide
  have hfront : ∀ c ∈ List.replicate 232 'a', IsPlain c := fun c hc =>
    List.eq_of_mem_replicate hc ▸ (by decide)
  have hsize : named.text.utf8ByteSize = 255 := by
    rw [String.utf8ByteSize_append, ServiceName.utf8ByteSize_ofList fun c hc =>
      ServiceName.isNameChar_iff.mpr (hfront c hc), List.length_replicate]
    rfl
  have hplain : ∀ c ∈ named.text.toList, IsPlain c := by
    rw [String.toList_append, String.toList_ofList, List.forall_mem_append]
    exact ⟨hfront, ServiceName.isPlain_of_all (by decide)⟩
  have hnamed : named.isValid = true :=
    ServiceName.isValid_iff_plain.mpr ⟨by omega, by rw [hsize]; decide, hplain⟩
  have hown : (sampleOf named).transitAt .epoch = named :=
    (ServiceName.transit_eq_self_iff hnamed (ServiceName.transitTail_stamp_le .epoch)).mpr
      ⟨hsize, _, rfl⟩
  exact ⟨requestsIn_recreate_meeting hunlawful, by decide, requestsIn_recreate_meeting hown,
    ServiceName.isValid_iff.mp hnamed⟩

end Recreation

end GatedRollout
