import FixedWindow.Clock
import FixedWindow.Limiter

/-!
# Limiters that share a store

Several limiters work side by side on one clock over one store. Each works on one of the caches; two
limiters may work on the same one. A `Fleet` is the state of them all, and a run is a list of steps:
moves of the clock, checks, and sweeps of either tier. The store is any service, so that runs over
different stores can be compared.

## Main definitions

* `Member`, `Fleet`.
* `Fleet.check`: a check through one limiter.
* `Fleet.onCache`, `Fleet.onStore`: an operation on the cache of one limiter, or on the store.
* `Fleet.Step`, `Fleet.step`, `Fleet.run`.
-/

namespace FixedWindow

/-- A limiter and the number of the cache that it works on. -/
structure Member where
  limiter : Limiter
  cache : Nat
  deriving DecidableEq, Repr

/-- The state of limiters that share a store: the clock, the degraded flag of each, the caches and
the store. -/
structure Fleet (σ : Type) where
  now : Instant
  degraded : Nat → Bool := fun _ => false
  caches : Nat → Cache := fun _ => Cache.empty
  store : σ

namespace Fleet

variable {σ δ : Type}

/-- Changes the value of a function at one number. -/
def setAt {α : Type} (f : Nat → α) (i : Nat) (value : α) : Nat → α :=
  fun j => if j = i then value else f j

/-- The tiers that the limiter numbered `i` works on. -/
def tiers (f : Fleet σ) (m : Member) (i : Nat) : Tiers σ :=
  ⟨f.degraded i, f.caches m.cache, f.store⟩

/-- A check through the limiter numbered `i`. -/
def check (members : Nat → Member) (store : Store.Backend σ) (f : Fleet σ) (i : Nat)
    (subject : String) (limit : Nat) : Effect (Fleet σ) (Except LimitError Decision) :=
  let m := members i
  let done := m.limiter.check store f.now subject limit (f.tiers m i)
  { answer := done.answer
    state := { f with
      degraded := setAt f.degraded i done.state.degraded
      caches := setAt f.caches m.cache done.state.cache
      store := done.state.store }
    log := done.log }

/-- An operation on the cache of the limiter numbered `i`. -/
def onCache {α : Type} (members : Nat → Member) (f : Fleet σ) (i : Nat)
    (op : Cache → Instant → Effect Cache α) : Effect (Fleet σ) α :=
  let j := (members i).cache
  let done := op (f.caches j) f.now
  { answer := done.answer
    state := { f with caches := setAt f.caches j done.state }
    log := done.log }

/-- An operation on the store. -/
def onStore {α : Type} (f : Fleet σ) (op : σ → Instant → Effect σ α) : Effect (Fleet σ) α :=
  let done := op f.store f.now
  { answer := done.answer, state := { f with store := done.state }, log := done.log }

/-- One step of a run. A check comes with the way its call to the store fares, should it make
one. -/
inductive Step (δ : Type)
  | set (time : Instant)
  | check (i : Nat) (subject : String) (limit : Nat) (fares : δ)
  | sweepCache (i : Nat)
  | sweepStore
  deriving DecidableEq, Repr

/-- The state after one step, with the decision or error if the step was a check. -/
def step (members : Nat → Member) (service : Store.Service σ δ) (f : Fleet σ) :
    Step δ → Effect (Fleet σ) (Option (Except LimitError Decision))
  | .set time => { answer := none, state := { f with now := time } }
  | .check i subject limit fares =>
    let done := f.check members (service.backend fares) i subject limit
    { done with answer := some done.answer }
  | .sweepCache i =>
    let done := f.onCache members i Cache.sweep
    { done with answer := none }
  | .sweepStore =>
    let done := f.onStore service.sweep
    { done with answer := none }

/-- A run of steps: the answer of each, and the state at the end. -/
def run (members : Nat → Member) (service : Store.Service σ δ) (f : Fleet σ) :
    List (Step δ) → Effect (Fleet σ) (List (Option (Except LimitError Decision)))
  | [] => { answer := [], state := f }
  | s :: rest =>
    let first := f.step members service s
    let others := run members service first.state rest
    { answer := first.answer :: others.answer
      state := others.state
      log := first.log ++ others.log }

end Fleet

end FixedWindow
