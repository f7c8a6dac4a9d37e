import FixedWindow.Redis.Client
import FixedWindow.Store.Memory

/-!
# The store that the settings choose

Counters are held in memory or behind a server. Once a store is connected, the limiter uses either
kind in the same way.

## Main definitions

* `Store.Choice`: a connected store of either kind.
* `Store.connect`: connects the store that the settings name.
* `Store.Choice.increment`, `Store.Choice.ping`, `Store.Choice.store`.
-/

namespace FixedWindow.Store

/-- A connected store. -/
inductive Choice (σ : Type)
  | memory (m : Memory)
  | server (c : Redis.Client σ)

/-- The name of the store of a kind. -/
def kindName : StoreKind → String
  | .redis => Redis.Client.name
  | .memory => Memory.name

/-- Connects the store that the settings name, over one connection at least. -/
def connect {σ : Type} (dial : String → Except StoreError σ) (s : StoreSettings)
    (hpool : 0 < s.poolSize) (now : Instant) : Effect Unit (Except LimitError (Choice σ)) :=
  let ready := Event.storeReady (kindName s.backend)
  match s.backend with
  | .memory => { answer := .ok (.memory (.create now)), state := (), log := [ready] }
  | .redis =>
    let opened := Redis.Client.connect dial s hpool
    match opened.answer with
    | .ok c => { answer := .ok (.server c), state := (), log := opened.log ++ [ready] }
    | .error e => { answer := .error (.storeUnavailable e), state := (), log := opened.log }

namespace Choice

variable {σ : Type}

/-- Counts one call. -/
def increment (peer : Redis.Peer σ) (store : Choice σ) (now : Instant) (call : Call) :
    Effect (Choice σ) (Except Abort Answer) :=
  match store with
  | memory m =>
    let done := Memory.store.increment m now call
    { answer := done.answer, state := .memory done.state, log := done.log }
  | server c =>
    let done := c.increment peer now call
    { answer := done.answer, state := .server done.state, log := done.log }

/-- Asks for a sign of life. One from a server takes a while. -/
def ping (peer : Redis.Peer σ) (store : Choice σ) (now : Instant) (took : Span) :
    Effect (Choice σ) (Except StoreError Span) :=
  match store with
  | memory m => { answer := .ok Memory.pingLatency, state := .memory m }
  | server c =>
    let done := c.ping peer now took
    { answer := done.answer, state := .server done.state, log := done.log }

/-- The store as the limiter uses it. -/
def store (peer : Redis.Peer σ) (kind : StoreKind) : Fragile (Choice σ) :=
  ⟨kindName kind, increment peer⟩

end Choice

end FixedWindow.Store
