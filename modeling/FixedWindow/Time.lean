/-!
# Spans and instants

Time is counted in whole nanoseconds. A `Span` is a length of time, an `Instant` a point of the
monotonic clock, counted from the clock's zero. The clock has a last instant, and the only way
forward is `Instant.add?`, which refuses to pass it.

## Main definitions

* `Span.ofSecs`, `Span.ofMillis`, `Span.wholeMillis`: spans in coarser units.
* `Instant.last`: the last instant of the clock.
* `Instant.add?`: an instant moved forward by a span, if the clock reaches that far.
* `Instant.since`: the span between two instants, zero when the order is reversed.
-/

namespace FixedWindow

/-- Nanoseconds in a second. -/
def nanosPerSec : Nat := 1000000000

/-- Nanoseconds in a millisecond. -/
def nanosPerMilli : Nat := 1000000

/-- A number of this width wraps at `2 ^ 64`. -/
def wordSize : Nat := 18446744073709551616

/-- The largest count that fits a counter. -/
def maxCount : Nat := wordSize - 1

/-- A length of time in nanoseconds. -/
@[ext]
structure Span where
  nanos : Nat
  deriving DecidableEq, Repr, Inhabited

namespace Span

/-- The empty span. -/
def zero : Span := ⟨0⟩

/-- Whether the span is empty. -/
def isZero (d : Span) : Bool := d.nanos == 0

/-- A span of whole seconds. -/
def ofSecs (s : Nat) : Span := ⟨s * nanosPerSec⟩

/-- A span of whole milliseconds. -/
def ofMillis (ms : Nat) : Span := ⟨ms * nanosPerMilli⟩

/-- The whole seconds of the span. -/
def secs (d : Span) : Nat := d.nanos / nanosPerSec

/-- The nanoseconds beyond the whole seconds. -/
def subsecNanos (d : Span) : Nat := d.nanos % nanosPerSec

/-- The whole milliseconds of the span, rounded down. -/
def wholeMillis (d : Span) : Nat := d.nanos / nanosPerMilli

/-- The whole milliseconds as a 64-bit word, as logs and reports show them. -/
def millisWord (d : Span) : Nat := d.wholeMillis % wordSize

instance : LE Span := ⟨fun a b => a.nanos ≤ b.nanos⟩
instance : LT Span := ⟨fun a b => a.nanos < b.nanos⟩
instance (a b : Span) : Decidable (a ≤ b) := inferInstanceAs (Decidable (a.nanos ≤ b.nanos))
instance (a b : Span) : Decidable (a < b) := inferInstanceAs (Decidable (a.nanos < b.nanos))

theorem isZero_eq_true_iff {d : Span} : d.isZero = true ↔ d = zero := by
  cases d; simp [isZero, zero]

theorem isZero_eq_false_iff {d : Span} : d.isZero = false ↔ d ≠ zero := by
  rw [← Bool.not_eq_true, isZero_eq_true_iff]

theorem wholeMillis_ofMillis (ms : Nat) : (ofMillis ms).wholeMillis = ms := by
  simp [ofMillis, wholeMillis, nanosPerMilli]

end Span

/-- A point of the monotonic clock, in nanoseconds from the clock's zero. -/
@[ext]
structure Instant where
  nanos : Nat
  deriving DecidableEq, Repr, Inhabited

namespace Instant

/-- The clock's zero. -/
def zero : Instant := ⟨0⟩

/-- The last instant of the clock: one nanosecond before `2 ^ 63` seconds. -/
def last : Instant := ⟨9223372036854775807999999999⟩

instance : LE Instant := ⟨fun a b => a.nanos ≤ b.nanos⟩
instance : LT Instant := ⟨fun a b => a.nanos < b.nanos⟩
instance (a b : Instant) : Decidable (a ≤ b) := inferInstanceAs (Decidable (a.nanos ≤ b.nanos))
instance (a b : Instant) : Decidable (a < b) := inferInstanceAs (Decidable (a.nanos < b.nanos))

/-- The instant `d` after `t`, or nothing when the clock ends before it. -/
def add? (t : Instant) (d : Span) : Option Instant :=
  if t.nanos + d.nanos ≤ last.nanos then some ⟨t.nanos + d.nanos⟩ else none

/-- The span from `earlier` to `t`, zero when `t` is not later. -/
def since (t earlier : Instant) : Span := ⟨t.nanos - earlier.nanos⟩

theorem lt_def {a b : Instant} : a < b ↔ a.nanos < b.nanos := Iff.rfl

theorem le_def {a b : Instant} : a ≤ b ↔ a.nanos ≤ b.nanos := Iff.rfl

theorem add?_eq_some_iff {t u : Instant} {d : Span} :
    t.add? d = some u ↔ t.nanos + d.nanos ≤ last.nanos ∧ u = ⟨t.nanos + d.nanos⟩ := by
  unfold add?
  split
  · rename_i h; simp [h, eq_comm]
  · rename_i h; simp [h]

theorem add?_eq_none_iff {t : Instant} {d : Span} :
    t.add? d = none ↔ last.nanos < t.nanos + d.nanos := by
  unfold add?
  split <;> simp_all

/-- An instant reached by adding a span lies exactly that span ahead. -/
theorem since_of_add? {t u : Instant} {d : Span} (h : t.add? d = some u) : u.since t = d := by
  obtain ⟨_, rfl⟩ := add?_eq_some_iff.mp h
  cases d; simp [since]

/-- Adding the span up to a later instant of the clock reaches that instant. -/
theorem add?_since {t u : Instant} (h : t ≤ u) (hu : u ≤ last) : t.add? (u.since t) = some u := by
  have hn : t.nanos + (u.nanos - t.nanos) = u.nanos := Nat.add_sub_cancel' h
  refine add?_eq_some_iff.mpr ⟨?_, ?_⟩
  · simpa only [since, hn] using le_def.mp hu
  · ext
    simp only [since, hn]

/-- The end of a window that is not empty lies ahead. -/
theorem lt_of_add? {t u : Instant} {d : Span} (h : t.add? d = some u) (hd : d ≠ .zero) :
    t < u := by
  obtain ⟨_, rfl⟩ := add?_eq_some_iff.mp h
  have hpos : d.nanos ≠ 0 := fun h0 => hd (Span.ext h0)
  simp only [lt_def]
  omega

theorem le_last_of_add? {t u : Instant} {d : Span} (h : t.add? d = some u) : u ≤ last := by
  obtain ⟨hle, rfl⟩ := add?_eq_some_iff.mp h
  exact hle

/-- The span up to a later instant is not empty. -/
theorem since_ne_zero {t u : Instant} (h : t < u) : u.since t ≠ .zero := by
  intro h0
  have hn : u.nanos - t.nanos = 0 := congrArg Span.nanos h0
  simp only [lt_def] at h
  omega

end Instant

end FixedWindow
