import FixedWindow.Cache

/-!
# Sweepers

A sweeper drops the closed entries of a cache at regular intervals of a timer of its own, until it
is stopped. The timer may be moved by any amount at once. A tick that is at most five milliseconds
late keeps the rhythm of the deadlines; a later one starts the rhythm anew at the current time, so
that a long pause is followed by one sweep and not by many.

The timer counts its milliseconds in a word of 64 bits, and stands still once it has come to the end
of them. The clock goes on for long after that, so that a running sweeper always has a deadline.

## Main definitions

* `Sweeper`, `Sweeper.Status`.
* `Sweeper.start`, `Sweeper.wake`, `Sweeper.shutdown`, `Sweeper.release`.
* `SweeperPool`: sweepers on one timer and one cache.
* `SweeperPool.later`, `SweeperPool.moveTimer`: the timer moves, and the sweepers wake.
-/

namespace FixedWindow

/-- Where a sweeper stands: waiting for its next deadline, ended on its own because it cannot tick,
or stopped. -/
inductive Sweeper.Status
  | running (deadline : Instant)
  | failed
  | ended
  deriving DecidableEq, Repr

/-- A sweeper with its interval. -/
structure Sweeper where
  interval : Span
  status : Sweeper.Status
  deriving DecidableEq, Repr

namespace Sweeper

/-- How late a tick may be without breaking the rhythm. -/
def tolerance : Span := .ofMillis 5

/-- How far ahead a deadline is put that the clock cannot represent: thirty years. -/
def farAhead : Span := .ofSecs 946080000

/-- The last instant of a timer: the largest word of milliseconds that it does not keep as a mark of
its own. -/
def timerEnd : Instant := ⟨(wordSize - 3) * nanosPerMilli⟩

/-- The instant an interval after `base`, or one far ahead of the time when there is none. -/
def deadlineAfter (base : Instant) (interval : Span) (time : Instant) : Instant :=
  (base.add? interval).getD ⟨time.nanos + farAhead.nanos⟩

/-- Starts a sweeper. The tick at the start sweeps nothing, so that the first sweep comes an
interval later. An interval of zero lets the sweeper fail at once. -/
def start (interval : Span) (time : Instant) : Effect Sweeper Unit :=
  { answer := ()
    state :=
      if interval.isZero then ⟨interval, .failed⟩
      else ⟨interval, .running (deadlineAfter time interval time)⟩
    log := [.sweeperStarted interval] }

/-- How many ticks are due at a time: none before the deadline, one when the deadline was missed by
more than the tolerance, and otherwise one for each interval that has passed since it. -/
def ticksDue (interval : Span) (deadline time : Instant) : Nat :=
  if time < deadline then 0
  else if tolerance < time.since deadline then 1
  else (time.since deadline).nanos / interval.nanos + 1

/-- The deadline that follows the ticks due at a time. -/
def nextDeadline (interval : Span) (deadline time : Instant) : Instant :=
  if time < deadline then deadline
  else if tolerance < time.since deadline then deadlineAfter time interval time
  else deadlineAfter deadline ⟨interval.nanos * ticksDue interval deadline time⟩ time

/-- Sweeps a cache a number of times in a row. -/
def sweepTimes (cache : Cache) (now : Instant) : Nat → Effect Cache Unit
  | 0 => { answer := (), state := cache }
  | n + 1 =>
    let swept := cache.sweep now
    (sweepTimes swept.state now n).after [.swept swept.answer swept.state.size]

/-- Lets a sweeper do what is due when its timer shows `time`. -/
def wake (s : Sweeper) (time : Instant) (cache : Cache) (now : Instant) :
    Effect (Sweeper × Cache) Unit :=
  match s.status with
  | .running deadline =>
    let done := sweepTimes cache now (ticksDue s.interval deadline time)
    { answer := ()
      state := ({ s with status := .running (nextDeadline s.interval deadline time) }, done.state)
      log := done.log }
  | _ => { answer := (), state := (s, cache) }

/-- Tells a sweeper to stop and waits for its end. -/
def shutdown (s : Sweeper) : Effect Sweeper Unit :=
  { answer := ()
    state := { s with status := .ended }
    log := match s.status with
      | .running _ => [.sweeperStopped]
      | .failed => [.sweeperFailed]
      | .ended => [] }

/-- Lets go of a sweeper, which stops it too. -/
def release (s : Sweeper) : Effect Sweeper Unit :=
  { answer := ()
    state := { s with status := .ended }
    log := match s.status with
      | .running _ => [.sweeperStopped]
      | _ => [] }

/-- Whether a sweeper that is still held has come to an end. -/
def isFinished? (s : Sweeper) : Option Bool :=
  match s.status with
  | .running _ => some false
  | .failed => some true
  | .ended => none

/-- The next deadline of a running sweeper. -/
def deadline? (s : Sweeper) : Option Instant :=
  match s.status with
  | .running deadline => some deadline
  | _ => none

end Sweeper

/-- Sweepers of one cache on one timer, in the order in which they were started. -/
structure SweeperPool where
  time : Instant := .zero
  sweepers : List Sweeper := []
  time_le : time ≤ Sweeper.timerEnd := by decide

namespace SweeperPool

/-- Starts one more sweeper and answers its number. -/
def spawn (p : SweeperPool) (interval : Span) : Effect SweeperPool Nat :=
  let started := Sweeper.start interval p.time
  { answer := p.sweepers.length
    state := { p with sweepers := p.sweepers ++ [started.state] }
    log := started.log }

/-- Does something with the sweeper numbered `i`, if there is one. -/
def onSweeper (p : SweeperPool) (i : Nat) (op : Sweeper → Effect Sweeper Unit) :
    Effect SweeperPool Unit :=
  match p.sweepers[i]? with
  | none => { answer := (), state := p }
  | some s =>
    let done := op s
    { answer := ()
      state := { p with sweepers := p.sweepers.set i done.state }
      log := done.log }

/-- Whether the sweeper numbered `i`, while it is held, has come to an end. -/
def isFinished? (p : SweeperPool) (i : Nat) : Option Bool :=
  (p.sweepers[i]?).bind Sweeper.isFinished?

/-- Wakes the sweepers with the given numbers, in that order. -/
def wakeEach (p : SweeperPool) (cache : Cache) (now : Instant) :
    List Nat → Effect (SweeperPool × Cache) Unit
  | [] => { answer := (), state := (p, cache) }
  | i :: rest =>
    match p.sweepers[i]? with
    | none => wakeEach p cache now rest
    | some s =>
      let done := s.wake p.time cache now
      (wakeEach { p with sweepers := p.sweepers.set i done.state.1 } done.state.2 now rest).after
        done.log

/-- The numbers of the running sweepers, those with earlier deadlines first. -/
def wakeOrder (p : SweeperPool) : List Nat :=
  let deadlines := p.sweepers.zipIdx.filterMap fun (s, i) => s.deadline?.map fun t => (t.nanos, i)
  (deadlines.mergeSort fun a b => a.1 ≤ b.1).map Prod.snd

/-- The sweepers when their timer has moved forward in one jump and none of them has woken yet. -/
def later (p : SweeperPool) (d : Span) : SweeperPool where
  time := ⟨min (p.time.nanos + d.nanos) Sweeper.timerEnd.nanos⟩
  sweepers := p.sweepers
  time_le := Nat.min_le_right _ _

/-- Moves the timer forward and lets every sweeper do what is then due. -/
def moveTimer (p : SweeperPool) (d : Span) (cache : Cache) (now : Instant) :
    Effect (SweeperPool × Cache) Unit :=
  wakeEach (p.later d) cache now p.wakeOrder

end SweeperPool

end FixedWindow
