import FixedWindow.Effect

/-!
# Calls to a counter store

A store counts calls per key in windows of its own. It is asked one thing, to count one more call
under a key, and answers with the count that includes this call and the time left in the window.
Some stores may also abort a call midway, and then they give no answer at all.

## Main definitions

* `Store.Call`, `Store.WindowCount`, `Store.Answer`.
* `Store.Backend`: a store over a state of type `σ`, as the limiter uses it.
* `Store.Fragile`: a store whose calls may be aborted.
* `Store.Service`: a store as several limiters share it.
-/

namespace FixedWindow.Store

/-- A request to count one call under a key, in a window that the call opens if none is open. -/
structure Call where
  key : String
  window : Span
  deriving DecidableEq, Repr

/-- A count with the time left in its window. -/
structure WindowCount where
  count : Nat
  ttl : Span
  deriving DecidableEq, Repr

/-- What comes back from a call. -/
abbrev Answer := Except StoreError WindowCount

/-- A store, as the limiter uses it: its name, and what a call made at an instant does to it. -/
structure Backend (σ : Type) where
  name : String
  increment : σ → Instant → Call → Effect σ Answer

/-- A store whose calls may be aborted midway instead of being answered. -/
structure Fragile (σ : Type) where
  name : String
  increment : σ → Instant → Call → Effect σ (Except Abort Answer)

/-- A store that always answers, as one whose calls may be aborted. -/
def Backend.fragile {σ : Type} (store : Backend σ) : Fragile σ where
  name := store.name
  increment s now call :=
    let done := store.increment s now call
    { done with answer := .ok done.answer }

/-- A store whose aborted calls count as failed. -/
def Fragile.guarded {σ : Type} (store : Fragile σ) : Backend σ where
  name := store.name
  increment s now call :=
    let done := store.increment s now call
    { done with answer := done.answer.toOption.getD (.error .redis) }

theorem Fragile.answer_guarded {σ : Type} (store : Fragile σ) {s : σ} {now : Instant} {call : Call}
    {answer : Answer} (h : (store.increment s now call).answer = .ok answer) :
    (store.guarded.increment s now call).answer = answer := by
  simp only [guarded, h]
  rfl

/-- A store, as several limiters share it: how it serves a call, which may depend on how the call
fares on its way, and what an explicit sweep does. -/
structure Service (σ δ : Type) where
  backend : δ → Backend σ
  sweep : σ → Instant → Effect σ Nat

end FixedWindow.Store
