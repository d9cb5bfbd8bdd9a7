/-!
# Durations

A span of time, counted in whole nanoseconds. The longest span is `2 ^ 64` seconds less one
nanosecond, so not every sum exists: `checkedAdd` refuses a total that is out of range.
-/

namespace GatedRollout

def nanosPerSecond : Nat := 1000000000

def nanosPerMilli : Nat := 1000000

/-- A span of time below `2 ^ 64` seconds. -/
structure Duration where
  nanos : Nat
  nanos_lt : nanos < UInt64.size * nanosPerSecond
  deriving DecidableEq

namespace Duration

theorem ext {a b : Duration} (h : a.nanos = b.nanos) : a = b := by
  cases a; cases b; cases h; rfl

/-! ## Building -/

def zero : Duration := ⟨0, by decide⟩

instance : Inhabited Duration := ⟨zero⟩

def ofNanos? (n : Nat) : Option Duration :=
  if h : n < UInt64.size * nanosPerSecond then some ⟨n, h⟩ else none

/-- A span of whole seconds, cut at the longest span there is. -/
def ofSeconds (n : Nat) : Duration :=
  ⟨min n (UInt64.size - 1) * nanosPerSecond, by simp only [UInt64.size, nanosPerSecond]; omega⟩

/-- The span of `n` milliseconds, cut at the longest whole number of milliseconds. -/
def ofMillis (n : Nat) : Duration :=
  ⟨min n (UInt64.size * 1000 - 1) * nanosPerMilli, by
    simp only [UInt64.size, nanosPerMilli, nanosPerSecond]; omega⟩

/-! ## Reading -/

def seconds (d : Duration) : Nat := d.nanos / nanosPerSecond

def subsecNanos (d : Duration) : Nat := d.nanos % nanosPerSecond

def isZero (d : Duration) : Bool := d.nanos == 0

/-! ## Arithmetic -/

def checkedAdd (a b : Duration) : Option Duration := ofNanos? (a.nanos + b.nanos)

/-- The difference of two spans, zero where the second is the longer. -/
def saturatingSub (a b : Duration) : Duration :=
  ⟨a.nanos - b.nanos, Nat.lt_of_le_of_lt (Nat.sub_le _ _) a.nanos_lt⟩

def shorter (a b : Duration) : Duration := if a.nanos ≤ b.nanos then a else b

@[simp] theorem nanos_zero : zero.nanos = 0 := rfl

@[simp] theorem nanos_saturatingSub (a b : Duration) :
    (a.saturatingSub b).nanos = a.nanos - b.nanos := rfl

@[simp] theorem nanos_shorter (a b : Duration) :
    (a.shorter b).nanos = min a.nanos b.nanos := by
  unfold shorter
  split <;> omega

theorem nanos_checkedAdd {a b c : Duration} (h : a.checkedAdd b = some c) :
    c.nanos = a.nanos + b.nanos := by
  simp only [checkedAdd, ofNanos?] at h
  split at h
  · cases h; rfl
  · cases h

theorem isZero_iff (d : Duration) : d.isZero = true ↔ d.nanos = 0 := by
  simp [isZero]

theorem eq_zero_iff (d : Duration) : d = zero ↔ d.nanos = 0 :=
  ⟨fun h => congrArg nanos h, fun h => ext h⟩

end Duration

end GatedRollout
