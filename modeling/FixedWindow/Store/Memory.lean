import FixedWindow.Store.Call
import FixedWindow.Table

/-!
# The in-memory store

The store inside one process. A key's window is opened by the first call after the previous window
closed, and later calls count in it whatever window they ask for. Counters of closed windows are
dropped from time to time by the calls themselves: a call that arrives when a pass is due makes the
pass first and puts the next one a window ahead.

Counts are words of 64 bits, and a call that would raise one beyond the largest is aborted. This
takes more calls in one window than can be made, so `Memory.increment` counts on without an end, and
`Memory.store` adds the abort.

## Main definitions

* `Store.Counter`, `Store.Counter.next`, `Store.Memory`.
* `Store.Memory.increment`, `Store.Memory.get?`, `Store.Memory.sweep`.
* `Store.Memory.backend`, `Store.Memory.store`: the store as the limiter uses it, without and with
  the end of the counts.
-/

namespace FixedWindow.Store

/-- The counter of a key: the calls counted since its window opened, and the window's end. -/
structure Counter where
  count : Nat
  expiresAt : Instant
  deriving DecidableEq, Repr

/-- A counter stands for its window strictly before the window's end. -/
def Counter.isLive (c : Counter) (now : Instant) : Bool := now < c.expiresAt

/-- The counter that includes one more call: in the open window, or alone in a new one. -/
def Counter.next (live : Option Counter) (newEnd : Instant) : Counter :=
  match live with
  | some c => { c with count := c.count + 1 }
  | none => ⟨1, newEnd⟩

/-- Counters by key, and the instant from which the next pass over them is due. -/
structure Memory where
  counters : Table Counter := Table.empty
  nextSweep : Instant

namespace Memory

/-- A store created now. -/
def create (now : Instant) : Memory := { nextSweep := now }

/-- The number of keys held, those of closed windows included. -/
def size (m : Memory) : Nat := m.counters.size

/-- Whether no key is held. -/
def isEmpty (m : Memory) : Bool := m.size == 0

/-- The live counter of a key. -/
def live? (m : Memory) (now : Instant) (key : String) : Option Counter :=
  (m.counters.get? key).filter fun c => c.isLive now

/-- The count of a key's open window. -/
def get? (m : Memory) (now : Instant) (key : String) : Option Nat :=
  (m.live? now key).map Counter.count

/-- Drops the counters of closed windows and answers how many there were. -/
def sweep (m : Memory) (now : Instant) : Effect Memory Nat :=
  let swept : Memory := { m with counters := m.counters.retain fun _ c => c.isLive now }
  { answer := m.size - swept.size, state := swept }

/-- Makes the pass over closed windows if one is due, and sets the next one a window ahead. -/
def sweepIfDue (m : Memory) (now : Instant) (window : Span) : Effect Memory Unit :=
  if now < m.nextSweep then { answer := (), state := m }
  else
    let swept := m.sweep now
    { answer := ()
      state := { swept.state with nextSweep := (now.add? window).getD now }
      log := if 0 < swept.answer then [.countersEvicted swept.answer swept.state.size] else [] }

/-- Counts one call in the open window of its key, or in a new one. A window that would end beyond
the clock is refused and changes nothing, even when the key's window is open. -/
def increment (m : Memory) (now : Instant) (call : Call) : Effect Memory Answer :=
  match now.add? call.window with
  | none => { answer := .error (.protocol (.clockOverflow call.window)), state := m }
  | some freshEnd =>
    let pass := m.sweepIfDue now call.window
    let counter := Counter.next (pass.state.live? now call.key) freshEnd
    { answer := .ok ⟨counter.count, counter.expiresAt.since now⟩
      state := { pass.state with counters := pass.state.counters.insert call.key counter }
      log := pass.log ++ [.counterIncremented call.key counter.count] }

/-- A ping of this store takes no time. -/
def pingLatency : Span := Span.zero

/-- The name of this store. -/
def name : String := "memory"

/-- The in-memory store as the limiter uses it, as long as its counts fit a word. -/
def backend : Backend Memory := ⟨name, increment⟩

/-- The in-memory store as the limiter uses it. A call to a key whose count is the largest makes the
pass that is due, and is then aborted. -/
def store : Fragile Memory where
  name := name
  increment m now call :=
    if (now.add? call.window).isSome ∧ m.get? now call.key = some maxCount then
      let pass := m.sweepIfDue now call.window
      { answer := .error .countPastEnd, state := pass.state, log := pass.log }
    else backend.fragile.increment m now call

/-- As long as the count of its key is not the largest, a call is not aborted. -/
theorem increment_store_of_ne {m : Memory} {now : Instant} {call : Call}
    (h : m.get? now call.key ≠ some maxCount) :
    store.increment m now call = backend.fragile.increment m now call :=
  if_neg fun hfull => h hfull.2

/-- A sweep changes nothing that can be found. -/
theorem live?_sweep (m : Memory) (now : Instant) (key : String) :
    (m.sweep now).state.live? now key = m.live? now key := by
  simp [live?, sweep, Table.get?_retain, Option.filter_filter]

/-- Whether a pass is made changes nothing that can be found. -/
theorem live?_sweepIfDue (m : Memory) (now : Instant) (window : Span) (key : String) :
    (m.sweepIfDue now window).state.live? now key = m.live? now key := by
  unfold sweepIfDue
  split
  · rfl
  · exact live?_sweep m now key

end Memory

end FixedWindow.Store
