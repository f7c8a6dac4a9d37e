import FixedWindow.Cache
import FixedWindow.Store.Call
import FixedWindow.Subject

/-!
# The two-tier limiter

A check first looks at the local tier: a live entry that has reached the limit denies the call and
nothing else happens. Otherwise the store is asked once. If it answers, its figures overwrite the
local entry and decide; if it fails, the local entry counts the call by itself and decides, and the
limiter is in degraded mode until the store answers again.

A check is split where the store is asked, so that what happens before and after can be seen apart
from the store: `Limiter.opening` either settles the check or says which call to make, and
`Limiter.conclude` settles it with the store's answer. The clock stands still during a check: it is
read once, and what a later reading would have shown is left to statements about later instants.

## Main definitions

* `Limiter`, `Tiers`.
* `Limiter.opening`, `Limiter.conclude`.
* `Limiter.attempt`: the whole check over a store whose calls may be aborted.
* `Limiter.check`: the whole check over a store that always answers.
-/

namespace FixedWindow

/-- The prefix of store keys unless another is chosen. -/
def defaultKeyPrefix : String := "rate_limit"

/-- A limiter: the name of this instance, the prefix of its store keys and its window. -/
structure Limiter where
  window : Span
  keyPrefix : String := defaultKeyPrefix
  instanceId : String := ""
  deriving DecidableEq, Repr

/-- What a check works on: the degraded flag, the local tier and the store. -/
structure Tiers (σ : Type) where
  degraded : Bool := false
  cache : Cache
  store : σ

/-- How a check begins: it is settled at once, or a call has to be made. -/
inductive Opening
  | settled (answer : Except LimitError Decision) (log : List Event)
  | ask (subject : Subject) (call : Store.Call)

namespace Limiter

/-- The part of a check before the store is asked. A bad argument is rejected, and a live entry
that has reached the limit denies. -/
def opening (l : Limiter) (cache : Cache) (now : Instant) (subject : String) (limit : Nat) :
    Opening :=
  match Subject.parse subject, checkedLimit limit with
  | .error e, _ => .settled (.error e) []
  | .ok _, .error e => .settled (.error e) []
  | .ok s, .ok limit =>
    match (cache.get? now s.text).filter fun e => e.isExhausted limit with
    | some e =>
      .settled (.ok (.exhausted limit (e.resetIn now))) [.exhausted s.text limit e.count]
    | none => .ask s ⟨s.storeKey l.keyPrefix, l.window⟩

/-- The event for a store failure, of one kind on entering degraded mode and of another within. -/
def failureEvent (l : Limiter) (store : String) (degraded : Bool) (e : StoreError) : Event :=
  if degraded then .stillDegraded e else .becameDegraded l.instanceId store e

/-- The event for a store answer, written only on leaving degraded mode. -/
def recoveryEvents (l : Limiter) (store : String) (degraded : Bool) : List Event :=
  if degraded then [.recovered l.instanceId store] else []

/-- Turns the outcome of a write to the local tier into the outcome of the check. -/
def settle (subject : String) (write : Effect Cache (Except LimitError Entry))
    (decision : Entry → Decision) : Effect Cache (Except LimitError Decision) :=
  match write.answer with
  | .error e => { write with answer := .error e }
  | .ok entry =>
    { answer := .ok (decision entry)
      state := write.state
      log := write.log ++ [.decided subject (decision entry)] }

/-- The part of a check after the store has answered. The store's figures overwrite the entry and
decide; after a failure the entry counts by itself and decides. -/
def conclude (l : Limiter) (store : String) (degraded : Bool) (cache : Cache) (now : Instant)
    (subject : Subject) (limit : Nat) (answer : Store.Answer) :
    Effect (Bool × Cache) (Except LimitError Decision) :=
  match answer with
  | .ok figures =>
    let written := settle subject.text
      (cache.overwrite now subject.text figures.count limit figures.ttl)
      fun _ => .ofCount figures.count limit figures.ttl .store
    { answer := written.answer
      state := (false, written.state)
      log := l.recoveryEvents store degraded ++ written.log }
  | .error e =>
    let written := settle subject.text
      (cache.increment now subject.text limit l.window)
      fun entry => .ofCount entry.count limit (entry.resetIn now) .degraded
    { answer := written.answer
      state := (true, written.state)
      log := l.failureEvent store degraded e :: written.log }

/-- Decides whether a call by a subject is allowed under a limit, and counts it. If the call to the
store is aborted, so is the check, and the local tier is left as it is. -/
def attempt {σ : Type} (l : Limiter) (store : Store.Fragile σ) (now : Instant) (subject : String)
    (limit : Nat) (tiers : Tiers σ) : Effect (Tiers σ) (Except LimitError Decision) :=
  match l.opening tiers.cache now subject limit with
  | .settled answer log => { answer := answer, state := tiers, log := log }
  | .ask s call =>
    let served := store.increment tiers.store now call
    match served.answer with
    | .error why =>
      { answer := .error (.abort why)
        state := { tiers with store := served.state }
        log := served.log }
    | .ok answer =>
      let settled := l.conclude store.name tiers.degraded tiers.cache now s limit answer
      { answer := settled.answer
        state := ⟨settled.state.1, settled.state.2, served.state⟩
        log := served.log ++ settled.log }

/-- Decides whether a call by a subject is allowed under a limit, and counts it, over a store that
always answers. -/
def check {σ : Type} (l : Limiter) (store : Store.Backend σ) (now : Instant) (subject : String)
    (limit : Nat) (tiers : Tiers σ) : Effect (Tiers σ) (Except LimitError Decision) :=
  l.attempt store.fragile now subject limit tiers

/-- A check over a store that always answers is concluded with the answer. -/
theorem check_eq {σ : Type} (l : Limiter) (store : Store.Backend σ) (now : Instant)
    (subject : String) (limit : Nat) (tiers : Tiers σ) :
    l.check store now subject limit tiers =
      match l.opening tiers.cache now subject limit with
      | .settled answer log => { answer := answer, state := tiers, log := log }
      | .ask s call =>
        let served := store.increment tiers.store now call
        let settled := l.conclude store.name tiers.degraded tiers.cache now s limit served.answer
        { answer := settled.answer
          state := ⟨settled.state.1, settled.state.2, served.state⟩
          log := served.log ++ settled.log } := rfl

/-- The limiter in diagnostics. -/
def diagnostic (l : Limiter) (store : String) (degraded : Bool) : String :=
  "RateLimiter \x7b instance_id: " ++ Text.quoted l.instanceId ++ ", store: " ++ Text.quoted store
    ++ ", key_prefix: " ++ Text.quoted l.keyPrefix ++ ", window: " ++ l.window.text
    ++ ", degraded: " ++ toString degraded ++ " \x7d"

end Limiter

end FixedWindow
