import FixedWindow.Text.Spoken

/-!
# Wall time

A wall time is a point of the calendar, counted in nanoseconds from the start of the year 1970. The
calendar ends with the year 262142, and `WallTime.add?` refuses to pass that end. In writing, a wall
time is a date, a time of day and the offset from universal time, which is always zero:
`2026-01-01T00:00:00+00:00`.

## Main definitions

* `WallTime`, `WallTime.add?`.
* `Date`, `Date.ofDayNumber`: the date of a day counted from the start of 1970.
* `WallTime.text`: the written form.
-/

namespace FixedWindow

/-- A day of the calendar. -/
structure Date where
  year : Nat
  month : Nat
  day : Nat
  deriving DecidableEq, Repr

namespace Date

/-- The days from the first of March of the year 0 to the start of 1970. -/
def epochDay : Nat := 719468

/-- The days of four centuries, after which the calendar repeats. -/
def daysPerEra : Nat := 146097

/-- The year within its era to which a day of the era belongs, when years begin in March and so end
with their leap day. -/
def yearOfEra (dayOfEra : Nat) : Nat :=
  (dayOfEra - dayOfEra / 1460 + dayOfEra / 36524 - dayOfEra / 146096) / 365

/-- The days of an era before a year of it. -/
def daysBeforeYear (yearOfEra : Nat) : Nat :=
  365 * yearOfEra + yearOfEra / 4 - yearOfEra / 100

/-- The days of a year that begins in March before its month numbered `m` from zero. Any five months
in a row have 153 days. -/
def daysBeforeMonth (m : Nat) : Nat := (153 * m + 2) / 5

/-- The date of a day, counted from the start of 1970. -/
def ofDayNumber (n : Nat) : Date :=
  let era := (n + epochDay) / daysPerEra
  let dayOfEra := (n + epochDay) % daysPerEra
  let year := yearOfEra dayOfEra
  let dayOfYear := dayOfEra - daysBeforeYear year
  let m := (5 * dayOfYear + 2) / 153
  let day := dayOfYear - daysBeforeMonth m + 1
  if m < 10 then ⟨400 * era + year, m + 3, day⟩ else ⟨400 * era + year + 1, m - 9, day⟩

example : ofDayNumber 0 = ⟨1970, 1, 1⟩ := by decide

example : ofDayNumber 11016 = ⟨2000, 2, 29⟩ := by decide

example : ofDayNumber 47540 = ⟨2100, 2, 28⟩ := by decide

example : ofDayNumber 47541 = ⟨2100, 3, 1⟩ := by decide

/-- A year of more than four digits is written with a sign. -/
def text (d : Date) : String :=
  (if d.year < 10000 then Text.padded 4 d.year else "+" ++ toString d.year)
    ++ "-" ++ Text.padded 2 d.month ++ "-" ++ Text.padded 2 d.day

end Date

/-- A point of the calendar, in nanoseconds from the start of 1970. -/
structure WallTime where
  nanos : Nat
  deriving DecidableEq, Repr, Inhabited

namespace WallTime

/-- The seconds from the start of 1970 to the end of the year 262142. -/
def endSecs : Nat := 8210266876800

example : Date.ofDayNumber (endSecs / 86400) = ⟨262143, 1, 1⟩ := by decide

/-- The wall time `d` after `t`, or nothing when the calendar ends before it. -/
def add? (t : WallTime) (d : Span) : Option WallTime :=
  if t.nanos + d.nanos < endSecs * nanosPerSec then some ⟨t.nanos + d.nanos⟩ else none

theorem add?_eq_some_iff {t u : WallTime} {d : Span} :
    t.add? d = some u ↔ t.nanos + d.nanos < endSecs * nanosPerSec ∧ u = ⟨t.nanos + d.nanos⟩ := by
  unfold add?
  split
  · rename_i h; simp [h, eq_comm]
  · rename_i h; simp [h]

/-- A fraction of a second in nanoseconds, with three, six or nine places, as few as show all of it,
and nothing when it is zero. -/
def fractionText (n : Nat) : String :=
  if n = 0 then ""
  else if n % 1000000 = 0 then "." ++ Text.padded 3 (n / 1000000)
  else if n % 1000 = 0 then "." ++ Text.padded 6 (n / 1000)
  else "." ++ Text.padded 9 n

/-- The written form of a wall time. -/
def text (t : WallTime) : String :=
  let secs := t.nanos / nanosPerSec
  let ofDay := secs % 86400
  (Date.ofDayNumber (secs / 86400)).text ++ "T" ++ Text.padded 2 (ofDay / 3600)
    ++ ":" ++ Text.padded 2 (ofDay / 60 % 60) ++ ":" ++ Text.padded 2 (ofDay % 60)
    ++ fractionText (t.nanos % nanosPerSec) ++ "+00:00"

end WallTime

end FixedWindow
