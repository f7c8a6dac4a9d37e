import FixedWindow.Store.Memory

/-!
# Calls that go astray

Between a limiter and its store a call can fail before it is applied, or be applied and lose its
answer; and what comes back can be other than what the store said. A `Delivery` fixes how one call
fares, and a `Relay` is an in-memory store behind such deliveries that remembers the calls made.

## Main definitions

* `Store.Delivery`, `Store.Relay`.
* `Store.Relay.increment`, `Store.Relay.sweep`, `Store.Relay.service`.
-/

namespace FixedWindow.Store

/-- How a call fares on its way to the store and back. -/
inductive Delivery
  /-- The call is applied and its answer arrives. -/
  | sound
  /-- The call fails without being applied. -/
  | lostBefore (e : StoreError)
  /-- The call is applied and its answer is lost. -/
  | lostAfter (e : StoreError)
  /-- The call is applied, and the answer arrives with no time left in the window. -/
  | closed
  /-- The call is not applied, and an answer arrives all the same. -/
  | forged (figures : WindowCount)
  deriving DecidableEq, Repr

/-- An in-memory store and the calls that were made to it, oldest first. -/
structure Relay where
  inner : Memory
  calls : List Call := []

namespace Relay

/-- Replaces the answer of a call that was applied without failing. -/
def answerWith (f : WindowCount → Answer) (e : Effect Memory Answer) : Effect Memory Answer :=
  { e with answer := e.answer.bind f }

/-- What a delivery makes of a call to the store. -/
def deliver (d : Delivery) (inner : Memory) (now : Instant) (call : Call) :
    Effect Memory Answer :=
  match d with
  | .sound => inner.increment now call
  | .lostBefore e => { answer := .error e, state := inner }
  | .lostAfter e => answerWith (fun _ => .error e) (inner.increment now call)
  | .closed => answerWith (fun figures => .ok { figures with ttl := .zero })
      (inner.increment now call)
  | .forged figures => { answer := .ok figures, state := inner }

/-- Makes a call under a delivery and remembers it. -/
def increment (d : Delivery) (r : Relay) (now : Instant) (call : Call) : Effect Relay Answer :=
  let served := deliver d r.inner now call
  { answer := served.answer
    state := ⟨served.state, r.calls ++ [call]⟩
    log := served.log }

/-- A store in which nothing has been counted, created now. -/
def create (now : Instant) : Relay := { inner := .create now }

/-- Sweeps the store itself. -/
def sweep (r : Relay) (now : Instant) : Effect Relay Nat :=
  let done := r.inner.sweep now
  { answer := done.answer, state := { r with inner := done.state }, log := done.log }

/-- The store as limiters share it, each call under a delivery of its own. -/
def service (name : String) : Service Relay Delivery := ⟨fun d => ⟨name, increment d⟩, sweep⟩

end Relay

end FixedWindow.Store
