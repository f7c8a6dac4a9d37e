import FixedWindow.Effect
import FixedWindow.Table

/-!
# The local cache

The local tier keeps one entry per subject: a count, the limit it was last checked against and the
instant at which its window closes. Entries whose window has closed are still held but are never
seen; a sweep drops them. While the store can be reached its figures overwrite the entry, otherwise
the entry counts by itself.

## Main definitions

* `Entry`, `Cache`.
* `Cache.get?`: the live entry of a subject.
* `Cache.overwrite`: an entry takes over the store's figures.
* `Cache.increment`: an entry counts one call by itself.
* `Cache.sweep`: closed entries are dropped.
-/

namespace FixedWindow

/-- What the local tier keeps of a subject. -/
structure Entry where
  count : Nat
  limit : Nat
  resetAt : Instant
  deriving DecidableEq, Repr

namespace Entry

/-- A window is open strictly before its end. -/
def isLive (e : Entry) (now : Instant) : Bool := now < e.resetAt

/-- The time until the window closes, zero once it has. -/
def resetIn (e : Entry) (now : Instant) : Span := e.resetAt.since now

/-- A count that has reached a limit leaves no room under it. -/
def isExhausted (e : Entry) (limit : Nat) : Bool := limit ≤ e.count

end Entry

/-- The local tier: entries by subject. -/
structure Cache where
  entries : Table Entry := Table.empty

namespace Cache

/-- The cache without entries. -/
def empty : Cache := {}

instance : Inhabited Cache := ⟨empty⟩

/-- The live entry of a subject. -/
def get? (c : Cache) (now : Instant) (subject : String) : Option Entry :=
  (c.entries.get? subject).filter fun e => e.isLive now

/-- The number of entries held, closed ones included. -/
def size (c : Cache) : Nat := c.entries.size

/-- Puts an entry in place. -/
def put (c : Cache) (subject : String) (e : Entry) : Cache := ⟨c.entries.insert subject e⟩

/-- Whether no entry is held. -/
def isEmpty (c : Cache) : Bool := c.size == 0

/-- Drops every entry. -/
def clear (_ : Cache) : Effect Cache Unit := { answer := (), state := empty }

/-- The end of a window that opens now. -/
def windowEnd (now : Instant) (window : Span) : Except LimitError Instant :=
  match now.add? window with
  | some resetAt => .ok resetAt
  | none => .error (.invariant (.clockOverflow window))

/-- Makes an entry take over figures obtained elsewhere. A window that is already closed, or that
ends beyond the clock, is refused and changes nothing. -/
def overwrite (c : Cache) (now : Instant) (subject : String) (count limit : Nat) (ttl : Span) :
    Effect Cache (Except LimitError Entry) :=
  if ttl.isZero then
    { answer := .error (.invariant (.closedWindow subject)), state := c }
  else match windowEnd now ttl with
    | .error e => { answer := .error e, state := c }
    | .ok resetAt =>
      let entry : Entry := ⟨count, limit, resetAt⟩
      { answer := .ok entry, state := c.put subject entry
        log := [.entryOverwritten subject count limit ttl] }

/-- Counts one call in the entry of a subject. A live entry keeps its window and gains one; anything
else restarts at one in a window that opens now. A zero-length window, or a new one that ends beyond
the clock, is refused and changes nothing. A live count at the end of its range starts over at zero
and aborts. -/
def increment (c : Cache) (now : Instant) (subject : String) (limit : Nat) (window : Span) :
    Effect Cache (Except LimitError Entry) :=
  if window.isZero then
    { answer := .error (.invariant (.zeroWindow subject)), state := c }
  else match c.get? now subject with
    | some live =>
      if live.count < maxCount then
        let entry : Entry := ⟨live.count + 1, limit, live.resetAt⟩
        { answer := .ok entry, state := c.put subject entry }
      else
        { answer := .error (.abort .countPastEnd), state := c.put subject { live with count := 0 } }
    | none => match windowEnd now window with
      | .error e => { answer := .error e, state := c }
      | .ok resetAt =>
        let entry : Entry := ⟨1, limit, resetAt⟩
        { answer := .ok entry, state := c.put subject entry
          log := [.entryIncremented subject 1 limit] }

/-- Drops the entries whose window has closed and answers how many there were. -/
def sweep (c : Cache) (now : Instant) : Effect Cache Nat :=
  let swept : Cache := ⟨c.entries.retain fun _ e => e.isLive now⟩
  { answer := c.size - swept.size, state := swept }

/-- The end of a window that opens now lies that window ahead. -/
theorem windowEnd_eq_ok_iff {now resetAt : Instant} {window : Span} :
    windowEnd now window = .ok resetAt ↔ now.add? window = some resetAt := by
  unfold windowEnd
  split <;> simp_all

/-- The end of a window is refused exactly if it lies beyond the clock. -/
theorem windowEnd_eq_error_iff {now : Instant} {window : Span} {err : LimitError} :
    windowEnd now window = .error err ↔
      now.add? window = none ∧ err = .invariant (.clockOverflow window) := by
  unfold windowEnd
  cases now.add? window with
  | none => simp [eq_comm]
  | some resetAt => simp

/-- An entry is found exactly when it is held and live. -/
theorem get?_eq_some_iff {c : Cache} {now : Instant} {subject : String} {e : Entry} :
    c.get? now subject = some e ↔ c.entries.get? subject = some e ∧ now < e.resetAt := by
  simp [get?, Option.filter_eq_some_iff, Entry.isLive]

/-- What is found after an entry was put in place. -/
theorem get?_put (c : Cache) (now : Instant) (subject other : String) (e : Entry) :
    (c.put subject e).get? now other =
      if other = subject then (if e.isLive now then some e else none) else c.get? now other := by
  simp only [get?, put, Table.get?_insert]
  split
  · simp [Option.filter]
  · rfl

/-- A sweep changes nothing that can be found. -/
theorem get?_sweep (c : Cache) (now : Instant) (subject : String) :
    (c.sweep now).state.get? now subject = c.get? now subject := by
  simp [get?, sweep, Table.get?_retain, Option.filter_filter]

end Cache

end FixedWindow
