import FixedWindow.Fleet
import FixedWindow.Proofs.Check
import FixedWindow.Proofs.Store.Retention

/-!
# The range of the counts in memory

The counts of the in-memory store are words of 64 bits, and the store aborts a call that would raise
one beyond the largest. A call raises the count of one key by one, and nothing else raises a count.
So a run has to make `2 ^ 64` calls before one can be aborted, and up to then it makes no difference
whether the store has an end of its counts or not: `Store.Memory.store` answers as
`Store.Memory.backend` does, over which runs are stated.

## Main definitions

* `Store.Memory.AtMost`: no count of the store is above a number.

## Main results

* `Store.Memory.AtMost.serve`, `Store.Memory.increment_store_after`: one request, and the calls
  after a run of them.
* `Fleet.atMost_run`, `Fleet.increment_store_run`: the same for the checks of limiters.
-/

namespace FixedWindow.Store.Memory

variable {m : Memory} {n : Nat} {now : Instant} {key : String}

/-- No count is above `n`, those of closed windows included. -/
def AtMost (n : Nat) (m : Memory) : Prop :=
  ∀ key c, m.counters.get? key = some c → c.count ≤ n

theorem atMost_create (now : Instant) (n : Nat) : (create now).AtMost n := nofun

namespace AtMost

theorem mono {k : Nat} (h : m.AtMost n) (hle : n ≤ k) : m.AtMost k :=
  fun key c hc => Nat.le_trans (h key c hc) hle

theorem count_le {c : Counter} (h : m.AtMost n) (hc : m.live? now key = some c) : c.count ≤ n :=
  h key c (Option.filter_eq_some_iff.mp hc).1

theorem sweep (h : m.AtMost n) (now : Instant) : (m.sweep now).state.AtMost n := by
  intro key c hc
  simp only [Memory.sweep, Table.get?_retain] at hc
  exact h key c (Option.filter_eq_some_iff.mp hc).1

theorem sweepIfDue (h : m.AtMost n) (now : Instant) (window : Span) :
    (m.sweepIfDue now window).state.AtMost n := by
  unfold Memory.sweepIfDue
  split
  · exact h
  · exact h.sweep now

/-- A call raises the largest count by at most one. -/
theorem increment (h : m.AtMost n) (now : Instant) (call : Call) :
    (m.increment now call).state.AtMost (n + 1) := by
  unfold Memory.increment
  split
  · exact h.mono (Nat.le_succ n)
  · rename_i freshEnd _
    intro key c hc
    simp only [Table.get?_insert] at hc
    split at hc
    · obtain rfl := Option.some.inj hc
      rw [live?_sweepIfDue]
      cases hlive : m.live? now call.key with
      | none => exact Nat.le_add_left 1 n
      | some old => exact Nat.succ_le_succ (h.count_le hlive)
    · exact Nat.le_succ_of_le (h.sweepIfDue now call.window key c hc)

theorem serve (h : m.AtMost n) (now : Instant) (request : Request) :
    (m.serve now request).state.AtMost (n + 1) := by
  cases request with
  | increment call => exact h.increment now call
  | read key => exact h.mono (Nat.le_succ n)
  | sweep => exact (h.sweep now).mono (Nat.le_succ n)
  | reschedule due => exact h.mono (Nat.le_succ n)

theorem after (h : m.AtMost n) (requests : List (Instant × Request)) :
    (m.after requests).AtMost (n + requests.length) := by
  induction requests generalizing m n with
  | nil => exact h
  | cons r rest ih =>
    rw [List.length_cons, Nat.add_comm rest.length, ← Nat.add_assoc]
    exact ih (h.serve r.1 r.2)

theorem increment_store (h : m.AtMost n) (hroom : n < maxCount) (now : Instant) (call : Call) :
    store.increment m now call = backend.fragile.increment m now call := by
  refine increment_store_of_ne fun hfull => ?_
  obtain ⟨c, hc, hcount⟩ := Option.map_eq_some_iff.mp hfull
  exact Nat.not_le.mpr hroom (hcount ▸ h.count_le hc)

theorem increment_state_store (h : m.AtMost n) (now : Instant) (call : Call) :
    (store.increment m now call).state.AtMost (n + 1) := by
  simp only [store]
  split
  · exact (h.sweepIfDue now call.window).mono (Nat.le_succ n)
  · exact h.increment now call

end AtMost

/-- After fewer than `2 ^ 64 - 1` requests to a new store, no call is aborted. -/
theorem increment_store_after (start : Instant) {requests : List (Instant × Request)}
    (hfew : requests.length < maxCount) (now : Instant) (call : Call) :
    store.increment ((create start).after requests) now call =
      backend.fragile.increment ((create start).after requests) now call :=
  ((atMost_create start 0).after requests).increment_store
    (by rwa [Nat.zero_add]) now call

end FixedWindow.Store.Memory

namespace FixedWindow.Fleet

open Store

variable {members : Nat → Member} {name : String} {f : Fleet Relay} {n : Nat}

/-- A step of limiters raises the largest count by at most one, however its call fares. -/
theorem atMost_step (h : f.store.inner.AtMost n) (s : Step Delivery) :
    (f.step members (Relay.service name) s).state.store.inner.AtMost (n + 1) := by
  cases s with
  | set time => exact h.mono (Nat.le_succ n)
  | check i raw limit fares =>
    simp only [step, check]
    rcases (members i).limiter.store_check ((Relay.service name).backend fares) f.now raw limit
      (f.tiers (members i) i) with hkept | ⟨subject, -, hcalled⟩
    · rw [hkept]
      exact h.mono (Nat.le_succ n)
    · rw [hcalled]
      rcases Relay.inner_increment fares f.store f.now
        ⟨subject.storeKey (members i).limiter.keyPrefix, (members i).limiter.window⟩ with
        hinner | hinner
      · exact hinner ▸ h.mono (Nat.le_succ n)
      · exact hinner ▸ h.increment f.now _
  | sweepCache i => exact h.mono (Nat.le_succ n)
  | sweepStore => exact (h.sweep f.now).mono (Nat.le_succ n)

theorem atMost_run (h : f.store.inner.AtMost n) (steps : List (Step Delivery)) :
    (f.run members (Relay.service name) steps).state.store.inner.AtMost (n + steps.length) := by
  induction steps generalizing f n with
  | nil => exact h
  | cons s rest ih =>
    rw [List.length_cons, Nat.add_comm rest.length, ← Nat.add_assoc]
    exact ih (atMost_step h s)

/-- After fewer than `2 ^ 64 - 1` steps of limiters over a new store, no call is aborted. -/
theorem increment_store_run {start : Instant} (hnew : f.store = Relay.create start)
    {steps : List (Step Delivery)} (hfew : steps.length < maxCount) (now : Instant) (call : Call) :
    let left := (f.run members (Relay.service name) steps).state.store.inner
    Memory.store.increment left now call = Memory.backend.fragile.increment left now call := by
  have hcreated : f.store.inner.AtMost 0 := by
    rw [hnew]
    exact Memory.atMost_create start 0
  exact (atMost_run hcreated steps).increment_store (by rwa [Nat.zero_add]) now call

end FixedWindow.Fleet
