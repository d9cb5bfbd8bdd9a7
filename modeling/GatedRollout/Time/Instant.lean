import GatedRollout.Time.Duration

/-!
# Instants and the virtual clock

An instant is a whole number of nanoseconds before or after the start of 1970. Only instants of
the years -262143 to 262142 exist, so a clock cannot always move forward: `advance` leaves the
clock alone where the step is too long to be a signed number of milliseconds, or would pass
`latest`.

Instants stand outside the leap seconds, and a clock that is started at one of them never comes
into a leap second. That is the condition under which time is kept exactly: a clock can be started
in the middle of a leap second as well, at a `Moment` that is no instant, and then the time since
its start comes out a second short once it has left it.

The stamp of an instant is its proleptic Gregorian date and its time of day in universal time:
year, month, day, hour, minute and second run together. A year of 0 to 9999 has four digits; any
other year carries its sign and at least four digits.
-/

namespace GatedRollout

/-- A point in time outside the leap seconds, in nanoseconds since the start of 1970. -/
structure Instant where
  nanos : Int
  earliest_le : -8334601228800000 * 1000000 ≤ nanos
  le_latest : nanos ≤ 8210266876799999 * 1000000 + 999999
  deriving DecidableEq

namespace Instant

theorem ext {a b : Instant} (h : a.nanos = b.nanos) : a = b := by
  cases a; cases b; cases h; rfl

def earliest : Int := -8334601228800000 * 1000000

def latest : Int := 8210266876799999 * 1000000 + 999999

def epoch : Instant := ⟨0, by decide, by decide⟩

instance : Inhabited Instant := ⟨epoch⟩

def ofNanos? (n : Int) : Option Instant :=
  if h : earliest ≤ n ∧ n ≤ latest then some ⟨n, h.1, h.2⟩ else none

theorem nanos_ofNanos? {n : Int} {t : Instant} (h : ofNanos? n = some t) : t.nanos = n := by
  unfold ofNanos? at h
  split at h
  · cases h; rfl
  · cases h

def ofUnixMillis? (ms : Int) : Option Instant := ofNanos? (ms * nanosPerMilli)

def unixMillis (t : Instant) : Int := t.nanos.fdiv nanosPerMilli

def unixSeconds (t : Instant) : Int := t.nanos.fdiv nanosPerSecond

/-! ## Moving forward -/

/-- The longest step a clock takes: `2 ^ 63 - 1` milliseconds. -/
def longestStep : Nat := (UInt64.size / 2 - 1) * nanosPerMilli

def add? (t : Instant) (d : Duration) : Option Instant :=
  if d.nanos ≤ longestStep then ofNanos? (t.nanos + d.nanos) else none

/-- Move a clock forward; a step that cannot be taken leaves it where it is. -/
def advance (t : Instant) (d : Duration) : Instant := (t.add? d).getD t

/-- The time from `start` to `t`, zero where `start` is the later. -/
def elapsedSince (t start : Instant) : Duration :=
  ⟨(t.nanos - start.nanos).toNat, by
    have := t.le_latest
    have := start.earliest_le
    simp only [UInt64.size, nanosPerSecond]
    omega⟩

theorem nanos_add? {t u : Instant} {d : Duration} (h : t.add? d = some u) :
    u.nanos = t.nanos + d.nanos := by
  unfold add? at h
  split at h
  · exact nanos_ofNanos? h
  · cases h

theorem le_advance (t : Instant) (d : Duration) : t.nanos ≤ (t.advance d).nanos := by
  unfold advance
  cases h : t.add? d with
  | none => simp
  | some u =>
      have hnanos := nanos_add? h
      rw [Option.getD_some]
      omega

end Instant

/-! ## Leap seconds -/

/-- A point in time as a calendar has it: a second, counted from the start of 1970 without leap
seconds, and the nanoseconds into it, which in a leap second go on from one second to two. -/
structure Moment where
  second : Int
  nano : Nat
  nano_lt : nano < 2 * nanosPerSecond
  earliest_le : Instant.earliest ≤ second * nanosPerSecond
  le_latest : second * nanosPerSecond ≤ Instant.latest
  deriving DecidableEq

namespace Moment

theorem ext {m u : Moment} (hsecond : m.second = u.second) (hnano : m.nano = u.nano) : m = u := by
  cases m; cases u; cases hsecond; cases hnano; rfl

def isLeap (m : Moment) : Bool := nanosPerSecond ≤ m.nano

def le (m u : Moment) : Prop := m.second < u.second ∨ m.second = u.second ∧ m.nano ≤ u.nano

def timeOfDay (m : Moment) : Int := m.second % 86400

def ofInstant (t : Instant) : Moment where
  second := t.nanos / nanosPerSecond
  nano := (t.nanos % nanosPerSecond).toNat
  nano_lt := by
    simp only [nanosPerSecond]
    omega
  earliest_le := by
    have := t.earliest_le
    simp only [Instant.earliest, nanosPerSecond]
    omega
  le_latest := by
    have := t.le_latest
    simp only [Instant.latest, nanosPerSecond]
    omega

/-- The moment a span later, if the step can be taken. A step that leaves a leap second counts as if
it began a second earlier. -/
def add? (m : Moment) (d : Duration) : Option Moment :=
  if d.nanos ≤ Instant.longestStep then
    if h : m.isLeap = true ∧ m.nano + d.nanos < 2 * nanosPerSecond then
      some { m with nano := m.nano + d.nanos, nano_lt := h.2 }
    else
      (Instant.ofNanos? (m.second * nanosPerSecond + (m.nano % nanosPerSecond + d.nanos : Nat))).map
        ofInstant
  else none

def advance (m : Moment) (d : Duration) : Moment := (m.add? d).getD m

/-- The second of a leap second that lies between two moments by the time of day, if there is
one. -/
def between (t start : Moment) : Int :=
  if start.isLeap && decide (start.timeOfDay < t.timeOfDay) then nanosPerSecond
  else if t.isLeap && decide (t.timeOfDay < start.timeOfDay) then -nanosPerSecond
  else 0

def elapsedSince (t start : Moment) : Duration :=
  ⟨((t.second - start.second) * nanosPerSecond + (t.nano - start.nano) +
      t.between start).toNat, by
    have := t.le_latest
    have := t.nano_lt
    have := start.earliest_le
    have hbetween : t.between start ≤ nanosPerSecond := by
      unfold between
      split
      · exact Int.le_refl _
      · split <;> simp [nanosPerSecond]
    simp only [UInt64.size, nanosPerSecond, Instant.earliest, Instant.latest] at *
    omega⟩

end Moment

/-! ## Deadlines -/

/-- A time budget that started at some instant. Every reading takes the present instant, so the
budget is a plain value and the clock stays with the caller. -/
structure Deadline where
  started : Instant
  limit : Duration
  deriving DecidableEq

namespace Deadline

def elapsed (b : Deadline) (now : Instant) : Duration := now.elapsedSince b.started

def remaining (b : Deadline) (now : Instant) : Duration := b.limit.saturatingSub (b.elapsed now)

def expired (b : Deadline) (now : Instant) : Bool := (b.remaining now).isZero

/-- The next pause: `interval`, or what is left of the budget if that is less. -/
def nextInterval (b : Deadline) (now : Instant) (interval : Duration) : Duration :=
  (b.remaining now).shorter interval

theorem expired_iff (b : Deadline) (now : Instant) :
    b.expired now = true ↔ b.limit.nanos ≤ (b.elapsed now).nanos := by
  simp [expired, remaining, Duration.isZero_iff]
  omega

end Deadline

/-! ## Calendar stamps -/

namespace Calendar

structure Date where
  year : Int
  month : Nat
  day : Nat
  deriving DecidableEq

/--
The date of a day counted from the start of 1970. Years are taken to begin in March, so that the
leap day ends its year, and 400 of them have 146097 days.
-/
def Date.ofUnixDay (day : Int) : Date :=
  let shifted := day + 719468
  let era := shifted.fdiv 146097
  let dayOfEra := (shifted.fmod 146097).toNat
  let yearOfEra := (dayOfEra - dayOfEra / 1460 + dayOfEra / 36524 - dayOfEra / 146096) / 365
  let dayOfYear := dayOfEra - (365 * yearOfEra + yearOfEra / 4 - yearOfEra / 100)
  let monthFromMarch := (5 * dayOfYear + 2) / 153
  let day := dayOfYear - (153 * monthFromMarch + 2) / 5 + 1
  let month := if monthFromMarch < 10 then monthFromMarch + 3 else monthFromMarch - 9
  let year := era * 400 + yearOfEra + (if month ≤ 2 then 1 else 0)
  ⟨year, month, day⟩

def padded (width n : Nat) : String :=
  let digits := Nat.toDigits 10 n
  String.ofList (List.replicate (width - digits.length) '0' ++ digits)

/-- Four digits for the years 0 to 9999, a sign and at least four digits for any other. -/
def yearText (year : Int) : String :=
  if 0 ≤ year ∧ year ≤ 9999 then padded 4 year.toNat
  else (if year < 0 then "-" else "+") ++ padded 4 year.natAbs

def stamp (t : Instant) : String :=
  let seconds := t.unixSeconds
  let date := Date.ofUnixDay (seconds.fdiv 86400)
  let timeOfDay := (seconds.fmod 86400).toNat
  yearText date.year ++ padded 2 date.month ++ padded 2 date.day ++
    padded 2 (timeOfDay / 3600) ++ padded 2 (timeOfDay / 60 % 60) ++ padded 2 (timeOfDay % 60)

end Calendar

end GatedRollout
