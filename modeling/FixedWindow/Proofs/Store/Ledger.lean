import FixedWindow.Proofs.Store.Counting

/-!
# A store that never evicts

The reference for the in-memory store is a ledger. It keeps of each key the last window that was
opened, with the call that opened it and the calls that came later in the same window, and it never
drops anything; whether the window is still open is decided by the clock alone. The end of the
window is fixed by the opening call, whatever windows the later ones ask for.

A run is a list of requests, each at an instant. Between the requests that are answered the store
may be swept, and the pass over closed windows that the calls themselves make may be put at any
instant, so that each call can be made to sweep or not. The ledger takes no notice of either, and
the store answers as the ledger does.

## Main definitions

* `Store.Request`, `Store.Reply`: what may be done to a store in a run, and what is answered.
* `Store.Window`, `Store.Ledger`: the reference.
* `Store.Memory.replies`, `Store.Ledger.replies`: the answers of a run.
* `Store.Memory.Follows`: the store shows what the ledger has open.

## Main results

* `Store.Memory.Follows.serve`: one request is answered alike and keeps the store with the ledger.
* `Store.Memory.replies_create`: the store answers as the ledger, and eviction does not show.
-/

namespace FixedWindow.Store

/-! ### Requests -/

/-- What may be done to a store in a run. -/
inductive Request
  /-- A call is counted. -/
  | increment (call : Call)
  /-- The count of a key is asked for. -/
  | read (key : String)
  /-- The store is swept. -/
  | sweep
  /-- The next pass that the calls themselves make is put at an instant. -/
  | reschedule (due : Instant)
  deriving DecidableEq, Repr

/-- Whether the request is answered. The others only bear on when closed windows are dropped. -/
def Request.isAnswered : Request → Bool
  | increment _ | read _ => true
  | sweep | reschedule _ => false

/-- The answer to a request. -/
inductive Reply
  | counted (answer : Answer)
  | found (count : Option Nat)

/-- What a store makes of a request. -/
def Memory.serve (m : Memory) (now : Instant) : Request → Effect Memory (Option Reply)
  | .increment call =>
    let done := m.increment now call
    { answer := some (.counted done.answer), state := done.state, log := done.log }
  | .read key => { answer := some (.found (m.get? now key)), state := m }
  | .sweep => { answer := none, state := (m.sweep now).state }
  | .reschedule due => { answer := none, state := { m with nextSweep := due } }

/-- The answers of a store to the requests of a run. -/
def Memory.replies (m : Memory) : List (Instant × Request) → List Reply
  | [] => []
  | (now, request) :: rest =>
    let done := m.serve now request
    done.answer.toList ++ replies done.state rest

/-! ### The ledger -/

/-- A window of a key: when it was opened, by which call, and the calls counted in it since. -/
structure Window where
  opened : Instant
  first : Call
  later : List Call := []
  deriving DecidableEq, Repr

namespace Window

/-- The window that the opening call asked for runs from then on. -/
def closesAt (w : Window) : Instant := ⟨w.opened.nanos + w.first.window.nanos⟩

/-- The number of calls counted in the window. -/
def calls (w : Window) : Nat := w.later.length + 1

/-- The count and the end of the window. -/
def tally (w : Window) : Tally := ⟨w.calls, w.closesAt⟩

end Window

/-- The last window of each key. -/
abbrev Ledger := String → Option Window

namespace Ledger

/-- A ledger without windows. -/
def empty : Ledger := fun _ => none

/-- Notes the last window of a key. -/
def note (ledger : Ledger) (key : String) (w : Window) : Ledger :=
  fun other => if other = key then some w else ledger other

/-- The window of a key, if it is still open. -/
def openAt (ledger : Ledger) (now : Instant) (key : String) : Option Window :=
  (ledger key).filter fun w => now < w.closesAt

/-- Counts a call in the open window of its key, or in one that it opens. A call whose own window
would end beyond the clock is refused and not noted. -/
def increment (ledger : Ledger) (now : Instant) (call : Call) : Answer × Ledger :=
  if Instant.last.nanos < now.nanos + call.window.nanos then
    (.error (.protocol (.clockOverflow call.window)), ledger)
  else
    match ledger.openAt now call.key with
    | some w =>
      let joined := { w with later := call :: w.later }
      (.ok ⟨joined.calls, w.closesAt.since now⟩, ledger.note call.key joined)
    | none => (.ok ⟨1, call.window⟩, ledger.note call.key ⟨now, call, []⟩)

/-- The number of calls in the open window of a key. -/
def read (ledger : Ledger) (now : Instant) (key : String) : Option Nat :=
  (ledger.openAt now key).map Window.calls

/-- What the ledger makes of a request. It has nothing to drop. -/
def serve (ledger : Ledger) (now : Instant) : Request → Option Reply × Ledger
  | .increment call =>
    let done := ledger.increment now call
    (some (.counted done.1), done.2)
  | .read key => (some (.found (ledger.read now key)), ledger)
  | .sweep | .reschedule _ => (none, ledger)

/-- The answers of a ledger to the requests of a run. -/
def replies (ledger : Ledger) : List (Instant × Request) → List Reply
  | [] => []
  | (now, request) :: rest =>
    let done := ledger.serve now request
    done.1.toList ++ replies done.2 rest

theorem map_tally_openAt (ledger : Ledger) (now : Instant) (key : String) :
    (ledger.openAt now key).map Window.tally =
      Tally.open? ((ledger key).map Window.tally) now := by
  rw [Tally.open?, Option.filter_map]
  rfl

theorem openAt_note_of_ne (ledger : Ledger) (now : Instant) {key other : String} (w : Window)
    (h : other ≠ key) : (ledger.note key w).openAt now other = ledger.openAt now other := by
  rw [openAt, note, if_neg h]
  rfl

theorem map_tally_openAt_note_self (ledger : Ledger) (now : Instant) (key : String) (w : Window) :
    ((ledger.note key w).openAt now key).map Window.tally = Tally.open? (some w.tally) now := by
  rw [map_tally_openAt, note, if_pos rfl]
  rfl

/-- A call that the clock can hold is noted in a window that includes it, and is told that
window's count and the time left in it. -/
theorem increment_of_le (ledger : Ledger) {now : Instant} {call : Call}
    (h : now.nanos + call.window.nanos ≤ Instant.last.nanos) :
    ∃ w : Window,
      ledger.increment now call =
          (.ok ⟨w.calls, w.closesAt.since now⟩, ledger.note call.key w) ∧
        w.tally = Tally.next ((ledger.openAt now call.key).map Window.tally)
          ⟨now.nanos + call.window.nanos⟩ := by
  rw [increment, if_neg (Nat.not_lt.mpr h)]
  cases ledger.openAt now call.key with
  | some w => exact ⟨{ w with later := call :: w.later }, rfl, rfl⟩
  | none =>
    refine ⟨⟨now, call, []⟩, ?_, rfl⟩
    have hleft : (Window.closesAt ⟨now, call, []⟩).since now = call.window :=
      Instant.since_of_add? (Instant.add?_eq_some_iff.mpr ⟨h, rfl⟩)
    rw [hleft]
    rfl

theorem replies_filter (ledger : Ledger) (requests : List (Instant × Request)) :
    ledger.replies (requests.filter (·.2.isAnswered)) = ledger.replies requests := by
  induction requests generalizing ledger with
  | nil => rfl
  | cons r rest ih =>
    obtain ⟨now, request⟩ := r
    cases request with
    | increment call => exact congrArg (_ :: ·) (ih _)
    | read key => exact congrArg (_ :: ·) (ih _)
    | sweep => exact ih ledger
    | reschedule due => exact ih ledger

end Ledger

/-! ### The store beside the ledger -/

/-- The store shows of each key the window that the ledger has open. -/
def Memory.Follows (m : Memory) (ledger : Ledger) (now : Instant) : Prop :=
  ∀ key, m.tally? now key = (ledger.openAt now key).map Window.tally

namespace Memory

theorem follows_create (start now : Instant) : (create start).Follows Ledger.empty now :=
  fun _ => rfl

namespace Follows

variable {m : Memory} {ledger : Ledger} {now : Instant}

theorem later (h : m.Follows ledger now) {later : Instant} (hle : now ≤ later) :
    m.Follows ledger later := fun key => by
  rw [tally?_later m key hle, h key, Ledger.map_tally_openAt, Ledger.map_tally_openAt,
    Tally.open?_open? _ hle]

theorem read (h : m.Follows ledger now) (key : String) :
    m.get? now key = ledger.read now key := by
  have hcount : m.get? now key = (m.tally? now key).map Tally.count := by
    rw [get?, tally?, Option.map_map]
    rfl
  rw [hcount, h key, Option.map_map]
  rfl

/-- A call is told the same by both, and both have counted it. -/
theorem increment (h : m.Follows ledger now) (call : Call) :
    (m.increment now call).answer = (ledger.increment now call).1 ∧
      (m.increment now call).state.Follows (ledger.increment now call).2 now := by
  -- both refuse a call whose window the clock cannot hold, and nothing is counted
  cases hend : now.add? call.window with
  | none =>
    have hover : Instant.last.nanos < now.nanos + call.window.nanos :=
      Instant.add?_eq_none_iff.mp hend
    rw [increment_of_add?_eq_none m hend, Ledger.increment, if_pos hover]
    exact ⟨rfl, h⟩
  | some newEnd =>
    obtain ⟨hfits, rfl⟩ := Instant.add?_eq_some_iff.mp hend
    obtain ⟨w, hcounted, hnext⟩ := Ledger.increment_of_le ledger hfits
    have htally : w.tally = Tally.next (m.tally? now call.key) ⟨now.nanos + call.window.nanos⟩ := by
      rw [h call.key, hnext]
    rw [hcounted]
    refine ⟨(answer_increment m hend).trans (by rw [← htally]; rfl), fun key => ?_⟩
    -- an empty window is noted, but open in neither
    by_cases hkey : key = call.key
    · rw [hkey, tally?_increment_self m hend, ← htally, Ledger.map_tally_openAt_note_self]
    · rw [tally?_increment_of_ne m now hkey, h key, Ledger.openAt_note_of_ne ledger now _ hkey]

/-- One request is answered alike, and afterwards the store still shows what the ledger has open. -/
theorem serve (h : m.Follows ledger now) (request : Request) :
    (m.serve now request).answer = (ledger.serve now request).1 ∧
      (m.serve now request).state.Follows (ledger.serve now request).2 now := by
  cases request with
  | increment call =>
    obtain ⟨hanswer, hfollows⟩ := h.increment call
    exact ⟨congrArg (some ∘ Reply.counted) hanswer, hfollows⟩
  | read key => exact ⟨congrArg (some ∘ Reply.found) (h.read key), h⟩
  | sweep => exact ⟨rfl, fun key => (tally?_sweep m now key).trans (h key)⟩
  | reschedule due => exact ⟨rfl, h⟩

/-- In a run that goes forward every request is answered alike. -/
theorem replies (h : m.Follows ledger now) {requests : List (Instant × Request)}
    (hlater : ∀ r ∈ requests, now ≤ r.1) (hforward : requests.Pairwise fun a b => a.1 ≤ b.1) :
    m.replies requests = ledger.replies requests := by
  induction requests generalizing m ledger now with
  | nil => rfl
  | cons r rest ih =>
    obtain ⟨time, request⟩ := r
    obtain ⟨hrest, hforward⟩ := List.pairwise_cons.mp hforward
    obtain ⟨hanswer, hfollows⟩ := (h.later (hlater _ List.mem_cons_self)).serve request
    simp only [Memory.replies, Ledger.replies, hanswer, ih hfollows hrest hforward]

end Follows

/-- In a run that goes forward a new store answers every request as the ledger that never evicts,
and what it answers depends on the calls and the reads alone: sweeps may be put in or left out
anywhere, and the passes that the calls make may fall due at any instants. -/
theorem replies_create (start : Instant) (requests : List (Instant × Request))
    (hforward : requests.Pairwise fun a b => a.1 ≤ b.1) :
    (create start).replies requests = Ledger.empty.replies requests ∧
      ∀ (start' : Instant) (others : List (Instant × Request)),
        others.Pairwise (fun a b => a.1 ≤ b.1) →
        others.filter (·.2.isAnswered) = requests.filter (·.2.isAnswered) →
          (create start').replies others = (create start).replies requests := by
  have hledger : ∀ (start : Instant) (requests : List (Instant × Request)),
      requests.Pairwise (fun a b => a.1 ≤ b.1) →
        (create start).replies requests = Ledger.empty.replies requests :=
    fun start requests => (follows_create start .zero).replies fun r _ => Nat.zero_le r.1.nanos
  refine ⟨hledger start requests hforward, fun start' others hothers hsame => ?_⟩
  rw [hledger start' others hothers, hledger start requests hforward,
    ← Ledger.replies_filter _ others, hsame, Ledger.replies_filter]

/-- A window of three nanoseconds takes in a later call that asks for an empty one; the next call
opens an empty window, one is refused because the clock cannot hold its window, and the last one
opens a window again. The answers are the same whether the passes of the calls are put off and the
store is swept at the end, or the passes are made as they fall due and the store is swept before. -/
theorem replies_create_of_rollover :
    let call (nanos : Nat) : Request := .increment ⟨"k", ⟨nanos⟩⟩
    let kept : List (Instant × Request) :=
      [(⟨1⟩, .reschedule .last), (⟨1⟩, call 3), (⟨2⟩, call 0), (⟨3⟩, .read "k"),
        (⟨4⟩, .read "k"), (⟨4⟩, call 0), (⟨4⟩, call Instant.last.nanos), (⟨4⟩, call 7),
        (⟨5⟩, .sweep), (⟨6⟩, .read "k")]
    let swept : List (Instant × Request) :=
      [(⟨1⟩, call 3), (⟨2⟩, call 0), (⟨3⟩, .read "k"), (⟨4⟩, .sweep), (⟨4⟩, .read "k"),
        (⟨4⟩, call 0), (⟨4⟩, call Instant.last.nanos), (⟨4⟩, call 7), (⟨6⟩, .read "k")]
    (create .zero).replies kept =
        [.counted (.ok ⟨1, ⟨3⟩⟩), .counted (.ok ⟨2, ⟨2⟩⟩), .found (some 2), .found none,
          .counted (.ok ⟨1, ⟨0⟩⟩),
          .counted (.error (.protocol (.clockOverflow ⟨Instant.last.nanos⟩))),
          .counted (.ok ⟨1, ⟨7⟩⟩), .found (some 1)] ∧
      (create .zero).replies swept = (create .zero).replies kept := by
  intro call kept swept
  obtain ⟨hledger, hswept⟩ := replies_create .zero kept (by decide)
  exact ⟨hledger.trans rfl, hswept .zero swept (by decide) (by decide)⟩

end Memory

end FixedWindow.Store
