import GatedRollout.Config.Basic

/-!
# Durations as people write them

A written duration is a run of counts with units, such as `1h 30m` or `2.5s`, or the single
character `0`. The counts add up. Blanks may stand around every part and inside a count, so
`1 0s` is ten seconds; a unit ends at a blank or at the next digit.

Counts are 64-bit words: a count, a count in its unit or a total that does not fit is refused. A
fraction has to come out whole in what its unit is measured in, nanoseconds for the units up to a
minute and seconds for the longer ones.
-/

namespace GatedRollout.DurationText

/-! ## Units -/

inductive TimeUnit
  | nanosecond | microsecond | millisecond | second | minute | hour | day | week | month | year
  deriving DecidableEq, Repr

namespace TimeUnit

def all : List TimeUnit :=
  [nanosecond, microsecond, millisecond, second, minute, hour, day, week, month, year]

/-- The spellings of a unit. Case matters: `m` is a minute and `M` a month. -/
def spellings : TimeUnit → List String
  | nanosecond => ["nanos", "nsec", "ns"]
  | microsecond => ["usec", "us", "µs"]
  | millisecond => ["millis", "msec", "ms"]
  | second => ["seconds", "second", "secs", "sec", "s"]
  | minute => ["minutes", "minute", "min", "mins", "m"]
  | hour => ["hours", "hour", "hr", "hrs", "h"]
  | day => ["days", "day", "d"]
  | week => ["weeks", "week", "wk", "wks", "w"]
  | month => ["months", "month", "M"]
  | year => ["years", "year", "yr", "yrs", "y"]

def ofText? (s : String) : Option TimeUnit := all.find? (·.spellings.contains s)

inductive Measure
  | nanos (n : Nat)
  | seconds (n : Nat)
  deriving DecidableEq, Repr

/-- How a whole count of the unit is measured. A month is a twelfth of 365.25 days. -/
def measure : TimeUnit → Measure
  | nanosecond => .nanos 1
  | microsecond => .nanos 1000
  | millisecond => .nanos 1000000
  | second => .seconds 1
  | minute => .seconds 60
  | hour => .seconds 3600
  | day => .seconds 86400
  | week => .seconds 604800
  | month => .seconds 2630016
  | year => .seconds 31557600

/-- How a fraction of the unit is measured; a nanosecond has no fraction. -/
def fractionMeasure : TimeUnit → Option Measure
  | nanosecond => none
  | microsecond => some (.nanos 1000)
  | millisecond => some (.nanos 1000000)
  | second => some (.nanos 1000000000)
  | minute => some (.nanos 60000000000)
  | hour => some (.seconds 3600)
  | day => some (.seconds 86400)
  | week => some (.seconds 604800)
  | month => some (.seconds 2630016)
  | year => some (.seconds 31557600)

end TimeUnit

/-! ## Sums of 64-bit words -/

def word? (n : Nat) : Option Nat := if n < UInt64.size then some n else none

def pushDigit? (n : Nat) (c : Char) : Option Nat := do
  let n ← word? (n * 10)
  word? (n + (c.toNat - '0'.toNat))

def addTo? (total : Duration) : TimeUnit.Measure → Option Duration
  | .seconds n => Duration.ofNanos? (total.nanos + n * nanosPerSecond)
  | .nanos n => do
      let _ ← word? (total.subsecNanos + n)
      Duration.ofNanos? (total.nanos + n)

/-- A count after its point: the digits as a number, over a power of ten. -/
structure Fraction where
  numerator : Nat
  denominator : Nat
  deriving DecidableEq

def scaled? (n : Nat) : TimeUnit.Measure → Option TimeUnit.Measure
  | .nanos size => (word? (n * size)).map .nanos
  | .seconds size => (word? (n * size)).map .seconds

def Fraction.scaled? (f : Fraction) : TimeUnit.Measure → Option TimeUnit.Measure
  | .nanos size => do
      let n ← word? (f.numerator * size)
      if n % f.denominator = 0 then some (.nanos (n / f.denominator)) else none
  | .seconds size => do
      let n ← word? (f.numerator * size)
      if n % f.denominator = 0 then some (.seconds (n / f.denominator)) else none

/-! ## Reading -/

inductive Place
  | gap
  | whole (count : Nat)
  | point (count : Nat) (fraction : Fraction)
  /-- In a unit; its letters stand in reverse. -/
  | unit (count : Nat) (fraction : Option Fraction) (letters : List Char)
  deriving DecidableEq

structure Reading where
  total : Duration
  any : Bool
  place : Place
  deriving DecidableEq

def Reading.start : Reading := ⟨.zero, false, .gap⟩

def isUnitLetter (c : Char) : Bool := c.isAlpha || c == 'µ'

def Reading.endSpan (r : Reading) (count : Nat) (fraction : Option Fraction)
    (letters : List Char) : Option Reading := do
  let unit ← TimeUnit.ofText? (String.ofList letters.reverse)
  let whole ← scaled? count unit.measure
  let total ← addTo? r.total whole
  match fraction with
  | none => some ⟨total, true, .gap⟩
  | some f => do
      let part ← f.scaled? (← unit.fractionMeasure)
      let total ← addTo? total part
      some ⟨total, true, .gap⟩

def Reading.step (r : Reading) (c : Char) : Option Reading :=
  match r.place with
  | .gap =>
      if c.isDigit then (pushDigit? 0 c).map fun n => { r with place := .whole n }
      else if Text.isBlank c then some r
      else none
  | .whole n =>
      if c.isDigit then (pushDigit? n c).map fun n => { r with place := .whole n }
      else if Text.isBlank c then some r
      else if isUnitLetter c then some { r with place := .unit n none [c] }
      else if c = '.' then some { r with place := .point n ⟨0, 1⟩ }
      else none
  | .point n f =>
      if c.isDigit then do
        let numerator ← pushDigit? f.numerator c
        let denominator ← word? (f.denominator * 10)
        some { r with place := .point n ⟨numerator, denominator⟩ }
      else if Text.isBlank c then some r
      else if isUnitLetter c ∧ f.denominator ≠ 1 then
        some { r with place := .unit n (some f) [c] }
      else none
  | .unit n f letters =>
      if c.isDigit then do
        let r ← r.endSpan n f letters
        (pushDigit? 0 c).map fun n => { r with place := .whole n }
      else if Text.isBlank c then r.endSpan n f letters
      else if isUnitLetter c then some { r with place := .unit n f (c :: letters) }
      else none

/-- The total at the end of the text. A count has to have its unit, and there has to be one. -/
def Reading.finish (r : Reading) : Option Duration :=
  match r.place with
  | .gap => if r.any then some r.total else none
  | .unit n f letters => (r.endSpan n f letters).map (·.total)
  | .whole _ => none
  | .point _ _ => none

def parse? (text : String) : Option Duration :=
  if text = "0" then some .zero
  else (text.toList.foldlM Reading.step Reading.start).bind Reading.finish

end GatedRollout.DurationText
