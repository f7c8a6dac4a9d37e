import FixedWindow.Proofs.Eviction

/-!
# The deadlines of a sweeper

A sweeper that is late catches up tick by tick. A tick that is late within the tolerance sets the
next deadline an interval after the one that was missed, a later one sets it an interval after the
current time, and the ticks go on until the deadline lies ahead (`Sweeper.Ticks`). The number of
ticks and the deadline that `Sweeper.wake` works with are those of this rule.

It follows that the deadline of a sweeper that has caught up lies ahead, and at most an interval
ahead. A deadline that the clock cannot represent is put thirty years ahead instead. The clock goes
on for more than that after the end of the timer, so that there is always such an instant, and it
is no further ahead than the interval, which must be longer.

## Main definitions

* `Sweeper.deadlineAfterTick`, `Sweeper.Ticks`: the rule, for one tick and for all that are due.
* `Sweeper.OnTime`: the deadline lies ahead, and at most an interval ahead.

## Main results

* `Sweeper.ticks_due`: a sweeper that wakes follows the rule.
* `Sweeper.onTime_wake`: it is on time when it goes back to wait.
* `Sweeper.cache_wake_of_isDue`, `Sweeper.wake_of_not_isDue`: it has swept if its deadline was
  reached, and otherwise done nothing.
-/

namespace FixedWindow

namespace Sweeper

theorem farAhead_le_last {time : Instant} (h : time ≤ timerEnd) :
    time.nanos + farAhead.nanos ≤ Instant.last.nanos :=
  Nat.le_trans (Nat.add_le_add_right h _) (by decide)

/-! ### The rule for one tick, and for all that are due -/

/-- The deadline that a tick sets. -/
def deadlineAfterTick (interval : Span) (deadline time : Instant) : Instant :=
  if tolerance < time.since deadline then deadlineAfter time interval time
  else deadlineAfter deadline interval time

/-- The ticks of a sweeper whose deadline is found when the timer shows `time`: how many there are,
and the deadline after them, which lies ahead. -/
inductive Ticks (interval : Span) (time : Instant) : Nat → Instant → Instant → Prop
  | idle {deadline : Instant} : time < deadline → Ticks interval time 0 deadline deadline
  | tick {n : Nat} {deadline next : Instant} : deadline ≤ time →
      Ticks interval time n (deadlineAfterTick interval deadline time) next →
      Ticks interval time (n + 1) deadline next

variable {interval : Span} {base deadline time : Instant}

/-- A deadline that is set is at most an interval ahead. Either it lies ahead, or it is an interval
after the instant from which it was counted. -/
theorem deadlineAfter_bounds (hbase : base ≤ time) (htime : time ≤ timerEnd) :
    let next := deadlineAfter base interval time
    next.nanos ≤ time.nanos + interval.nanos ∧
      (time < next ∨ next.nanos = base.nanos + interval.nanos) := by
  have hroom := farAhead_le_last htime
  simp only [Instant.le_def, Instant.lt_def, deadlineAfter] at *
  cases hend : base.add? interval with
  | some next =>
    obtain ⟨-, rfl⟩ := Instant.add?_eq_some_iff.mp hend
    exact ⟨Nat.add_le_add_right hbase _, .inr rfl⟩
  | none =>
    have hlast := Instant.add?_eq_none_iff.mp hend
    have hahead : 0 < farAhead.nanos := by decide
    exact ⟨by simp only [Option.getD_none]; omega, .inl (Nat.lt_add_of_pos_right hahead)⟩

theorem deadlineAfter_of_le {next : Instant} (hnext : next.nanos = base.nanos + interval.nanos)
    (hlast : next ≤ .last) : deadlineAfter base interval time = next := by
  have hend : base.add? interval = some next :=
    Instant.add?_eq_some_iff.mpr ⟨hnext ▸ hlast, Instant.ext hnext⟩
  rw [deadlineAfter, hend, Option.getD_some]

theorem deadlineAfter_congr {base' : Instant} {interval' : Span}
    (h : base.nanos + interval.nanos = base'.nanos + interval'.nanos) :
    deadlineAfter base interval time = deadlineAfter base' interval' time := by
  simp only [deadlineAfter, Instant.add?, h]

theorem deadlineAfterTick_le (hdue : deadline ≤ time) (htime : time ≤ timerEnd) :
    (deadlineAfterTick interval deadline time).nanos ≤ time.nanos + interval.nanos := by
  unfold deadlineAfterTick
  split
  · exact (deadlineAfter_bounds (Nat.le_refl _) htime).1
  · exact (deadlineAfter_bounds hdue htime).1

/-- Ticks that are late within the tolerance keep the rhythm of the deadlines. -/
theorem ticks_of_within (hinterval : interval ≠ .zero) (htime : time ≤ timerEnd) {n : Nat}
    (hdue : deadline ≤ time) (hwithin : ¬ tolerance < time.since deadline)
    (hn : (time.since deadline).nanos / interval.nanos = n) :
    Ticks interval time (n + 1) deadline
      (deadlineAfter deadline ⟨interval.nanos * (n + 1)⟩ time) := by
  have hpos : 0 < interval.nanos := Nat.pos_of_ne_zero fun h => hinterval (Span.ext h)
  induction n generalizing deadline with
  | zero =>
    have hlate : time.nanos - deadline.nanos < interval.nanos :=
      Nat.lt_of_div_eq_zero hpos hn
    refine .tick hdue ?_
    rw [deadlineAfterTick, if_neg hwithin, Nat.mul_one]
    refine .idle ?_
    rcases (deadlineAfter_bounds hdue htime).2 with hahead | hnext
    · exact hahead
    · simp only [Instant.le_def, Instant.lt_def, hnext] at *
      omega
  | succ n ih =>
    -- the next deadline has been reached too, so it is one that the clock can represent
    have hlate : interval.nanos ≤ time.nanos - deadline.nanos :=
      Nat.le_of_not_lt fun h => Nat.noConfusion (hn.symm.trans (Nat.div_eq_of_lt h))
    let next : Instant := ⟨deadline.nanos + interval.nanos⟩
    have hreached : next ≤ time := by
      simp only [Instant.le_def, next] at *
      omega
    have hnext : deadlineAfterTick interval deadline time = next := by
      rw [deadlineAfterTick, if_neg hwithin]
      exact deadlineAfter_of_le rfl (Nat.le_trans hreached (Nat.le_trans (Nat.le_add_right _ _)
        (farAhead_le_last htime)))
    have hrhythm : deadlineAfter next ⟨interval.nanos * (n + 1)⟩ time =
        deadlineAfter deadline ⟨interval.nanos * (n + 1 + 1)⟩ time := by
      refine deadlineAfter_congr ?_
      simp only [next, Nat.mul_succ]
      omega
    have hsince : (time.since next).nanos = (time.since deadline).nanos - interval.nanos :=
      Nat.sub_add_eq ..
    refine .tick hdue ?_
    rw [hnext, ← hrhythm]
    refine ih hreached (fun h => hwithin (Nat.lt_of_lt_of_le h (hsince ▸ Nat.sub_le _ _))) ?_
    rw [hsince]
    exact Nat.succ_inj.mp ((Nat.div_eq_sub_div hpos hlate).symm.trans hn)

/-- The ticks of a sweeper that wakes, and the deadline after them, are those of the rule. -/
theorem ticks_due (hinterval : interval ≠ .zero) (htime : time ≤ timerEnd)
    (deadline : Instant) :
    Ticks interval time (ticksDue interval deadline time) deadline
      (nextDeadline interval deadline time) := by
  unfold nextDeadline ticksDue
  by_cases hahead : time < deadline
  · rw [if_pos hahead, if_pos hahead]
    exact .idle hahead
  · have hdue : deadline ≤ time := Nat.le_of_not_lt hahead
    rw [if_neg hahead, if_neg hahead]
    by_cases hlate : tolerance < time.since deadline
    · rw [if_pos hlate, if_pos hlate]
      refine .tick hdue ?_
      rw [deadlineAfterTick, if_pos hlate]
      refine .idle ?_
      rcases (deadlineAfter_bounds (Nat.le_refl time.nanos) htime).2 with hnext | hnext
      · exact hnext
      · rw [Instant.lt_def, hnext]
        exact Nat.lt_add_of_pos_right (Nat.pos_of_ne_zero fun h => hinterval (Span.ext h))
    · rw [if_neg hlate, if_neg hlate]
      exact ticks_of_within hinterval htime hdue hlate rfl

theorem Ticks.bounds {n : Nat} {next : Instant} (h : Ticks interval time n deadline next)
    (htime : time ≤ timerEnd) (hdeadline : deadline.nanos ≤ time.nanos + interval.nanos) :
    time < next ∧ next.nanos ≤ time.nanos + interval.nanos := by
  induction h with
  | idle hahead => exact ⟨hahead, hdeadline⟩
  | tick hdue _ ih => exact ih (deadlineAfterTick_le hdue htime)

/-! ### What a sweeper is left with when it wakes -/

/-- A running sweeper has an interval, and its deadline is at most an interval ahead. -/
def IsSet (s : Sweeper) (time : Instant) : Prop :=
  ∀ deadline, s.status = .running deadline → s.interval ≠ .zero ∧
    deadline.nanos ≤ time.nanos + s.interval.nanos

/-- A running sweeper has an interval, and its deadline lies ahead, at most an interval. -/
def OnTime (s : Sweeper) (time : Instant) : Prop :=
  ∀ deadline, s.status = .running deadline → s.interval ≠ .zero ∧
    time < deadline ∧ deadline.nanos ≤ time.nanos + s.interval.nanos

variable {s : Sweeper}

theorem OnTime.isSet (h : s.OnTime time) {later : Instant} (hle : time ≤ later) :
    s.IsSet later := by
  intro deadline hrunning
  obtain ⟨hinterval, -, hbound⟩ := h deadline hrunning
  exact ⟨hinterval, Nat.le_trans hbound (Nat.add_le_add_right hle _)⟩

theorem onTime_of_not_running (h : ∀ deadline, s.status ≠ .running deadline) : s.OnTime time :=
  fun deadline hrunning => absurd hrunning (h deadline)

theorem state_start (hinterval : interval ≠ .zero) (time : Instant) :
    (start interval time).state =
      ⟨interval, .running (deadlineAfter time interval time)⟩ := by
  simp [start, Span.isZero_eq_false_iff.mpr hinterval]

theorem onTime_start (interval : Span) (htime : time ≤ timerEnd) :
    (start interval time).state.OnTime time := by
  intro deadline hrunning
  by_cases hinterval : interval = .zero
  · subst hinterval
    cases hrunning
  · rw [state_start hinterval] at hrunning ⊢
    cases hrunning
    obtain ⟨hle, hahead⟩ := deadlineAfter_bounds (Nat.le_refl time.nanos) htime
    refine ⟨hinterval, hahead.elim id fun hnext => ?_, hle⟩
    rw [Instant.lt_def, hnext]
    exact Nat.lt_add_of_pos_right (Nat.pos_of_ne_zero fun h => hinterval (Span.ext h))

/-- Whatever its timer shows, a sweeper is on time when it goes back to wait. -/
theorem onTime_wake (h : s.IsSet time) (htime : time ≤ timerEnd) (cache : Cache) (now : Instant) :
    (s.wake time cache now).state.1.OnTime time := by
  intro next hnext
  unfold wake at hnext ⊢
  split at hnext
  · rename_i deadline hrunning
    obtain ⟨hinterval, hbound⟩ := h deadline hrunning
    cases hnext
    exact ⟨hinterval, (ticks_due hinterval htime deadline).bounds htime hbound⟩
  · rename_i hnot
    exact absurd hnext (hnot next)

/-! ### What it sweeps -/

/-- The deadline of a running sweeper is reached. -/
def IsDue (s : Sweeper) (time : Instant) : Prop :=
  ∃ deadline, s.status = .running deadline ∧ deadline ≤ time

theorem sweep_sweep (cache : Cache) (now : Instant) :
    ((cache.sweep now).state.sweep now).state = (cache.sweep now).state := by
  simp [Cache.sweep, Table.retain, List.filter_filter]

theorem state_sweepTimes (cache : Cache) (now : Instant) (n : Nat) :
    (sweepTimes cache now (n + 1)).state = (cache.sweep now).state := by
  induction n generalizing cache with
  | zero => rfl
  | succ n ih => exact (ih _).trans (sweep_sweep cache now)

theorem cache_wake_of_isDue (h : s.IsDue time) (cache : Cache) (now : Instant) :
    (s.wake time cache now).state.2 = (cache.sweep now).state := by
  obtain ⟨deadline, hrunning, hdue⟩ := h
  obtain ⟨n, hn⟩ : ∃ n, ticksDue s.interval deadline time = n + 1 := by
    have hreached : ¬ time < deadline := Nat.not_lt_of_le hdue
    rw [ticksDue, if_neg hreached]
    split
    · exact ⟨0, rfl⟩
    · exact ⟨_, rfl⟩
  simp only [wake, hrunning, hn, state_sweepTimes]

theorem wake_of_not_isDue (h : ¬ s.IsDue time) (cache : Cache) (now : Instant) :
    (s.wake time cache now).state = (s, cache) := by
  unfold wake
  split
  · rename_i deadline hrunning
    have hahead : time < deadline := Nat.lt_of_not_le fun hle => h ⟨deadline, hrunning, hle⟩
    simp only [ticksDue, nextDeadline, if_pos hahead, sweepTimes, ← hrunning]
  · rfl

end Sweeper

end FixedWindow
