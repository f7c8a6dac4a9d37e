import FixedWindow.Proofs.Fleet.Simulation
import FixedWindow.Proofs.Redis.Keyspace

/-!
# One contract for both stores

Limiters may share an in-memory store or a server behind a client. The server counts in slots with
an expiry in milliseconds, drops what has expired by itself, and answers in signed words that the
client has to read; the in-memory store keeps instants, and drops closed windows in passes of its
own. No call to the server is aborted, so it does not matter that the client takes aborted calls for
failures. As long as the clock shows whole milliseconds, the windows are whole milliseconds that fit
a signed word, and fewer checks are made than there are positive signed words, no limiter can tell
which of the two it works on.

The server replaces the in-memory store: under every key it shows the tally of the open window, and
each count leaves room for all checks to come, while its window ends within a signed word.

## Main definitions

* `Store.Memory.service`, `Redis.Client.service`: the two stores as limiters share them.
* `Fleet.WholeMillis`: the clock shows whole milliseconds all along a run.
* `Fleet.Replaces`: the server shows what the in-memory store shows.

## Main results

* `Fleet.Replaces.later`, `Fleet.Replaces.call`: time and calls keep the two stores alike.
* `Fleet.answer_run_server`: a run is answered alike over both stores.
-/

namespace FixedWindow

open Redis (Keyspace Client maxInteger)

/-- The in-memory store as limiters share it. -/
def Store.Memory.service : Store.Service Memory Unit := ⟨fun _ => backend, sweep⟩

/-- A server as limiters share it through a client. A sweep of it has nothing to drop. -/
def Redis.Client.service {σ : Type} (peer : Redis.Peer σ) : Store.Service (Client σ) Unit :=
  ⟨fun _ => backend peer, fun c _ => { answer := 0, state := c }⟩

namespace Fleet

/-- The clock shows whole milliseconds at the start and after every step. -/
def WholeMillis {δ : Type} (now : Instant) (steps : List (Step δ)) : Prop :=
  now.OnMillis ∧ Along (fun now s => (s.clock now).OnMillis) now steps

instance {δ : Type} (now : Instant) (steps : List (Step δ)) : Decidable (WholeMillis now steps) :=
  inferInstanceAs (Decidable (_ ∧ _))

/-- A server shows under every key what an in-memory store shows, and there is room for a number of
checks to come in every count, a new one included. -/
structure Replaces (left : Nat) (now : Instant) (c : Client Keyspace) (m : Store.Memory) :
    Prop where
  onMillis : now.OnMillis
  shows : ∀ key, c.server.Shows now key (m.tally? now key)
  lenient : c.server.latest? = none
  few : left ≤ maxInteger
  room : ∀ key t, m.tally? now key = some t → t.count + left ≤ maxInteger
  near : ∀ key t, m.tally? now key = some t →
    t.closesAt.wholeMillis ≤ now.wholeMillis + maxInteger

namespace Replaces

variable {left : Nat} {now : Instant} {c : Client Keyspace} {m : Store.Memory}

theorem create (hnow : now.OnMillis) (hleft : left ≤ maxInteger) {connections : Nat}
    (hconnected : 0 < connections) (timeout : Span) :
    Replaces left now
      { connections := connections, connected := hconnected, timeout := timeout, server := {} }
      (.create now) where
  onMillis := hnow
  shows key := Keyspace.shows_empty now key
  lenient := rfl
  few := hleft
  room _ _ ht := by cases ht
  near _ _ ht := by cases ht

/-- Time closes the same windows in both stores. -/
theorem later (h : Replaces left now c m) {later : Instant} (hle : now ≤ later)
    (hlater : later.OnMillis) : Replaces left later c m where
  onMillis := hlater
  shows key := by
    rw [Store.Memory.tally?_later m key hle]
    exact (h.shows key).later hle hlater
  lenient := h.lenient
  few := h.few
  room key t ht := by
    rw [Store.Memory.tally?_later m key hle] at ht
    exact h.room key t (Tally.open?_eq_some_iff.mp ht).1
  near key t ht := by
    rw [Store.Memory.tally?_later m key hle] at ht
    have hms : now.wholeMillis ≤ later.wholeMillis := Nat.div_le_div_right hle
    exact Nat.le_trans (h.near key t (Tally.open?_eq_some_iff.mp ht).1)
      (Nat.add_le_add_right hms _)

/-- Fewer checks need less room. -/
theorem fewer (h : Replaces (left + 1) now c m) : Replaces left now c m where
  onMillis := h.onMillis
  shows := h.shows
  lenient := h.lenient
  few := Nat.le_of_succ_le h.few
  room key t ht := Nat.le_of_succ_le (h.room key t ht)
  near := h.near

theorem sweep (h : Replaces left now c m) : Replaces left now c (m.sweep now).state where
  onMillis := h.onMillis
  shows key := by
    rw [Store.Memory.tally?_sweep]
    exact h.shows key
  lenient := h.lenient
  few := h.few
  room key t ht := by
    rw [Store.Memory.tally?_sweep] at ht
    exact h.room key t ht
  near key t ht := by
    rw [Store.Memory.tally?_sweep] at ht
    exact h.near key t ht

/-- A call is told the same by both stores, which both count it. -/
theorem call (h : Replaces (left + 1) now c m) (call : Store.Call) {ms : Nat}
    (hwindow : call.window = .ofMillis ms) (hpos : 0 < ms) (hms : ms ≤ maxInteger)
    {newEnd : Instant} (hend : now.add? call.window = some newEnd) :
    let done := c.increment Keyspace.peer now call
    let done' := m.increment now call
    done.answer = .ok done'.answer ∧ Replaces left now done.state done'.state := by
  intro done done'
  have hne : call.window ≠ .zero := hwindow ▸ Span.ofMillis_ne_zero hpos
  have hopen (t : Tally) (ht : m.tally? now call.key = some t) :
      now < t.closesAt ∧ t.count < maxInteger := by
    have hroom := h.room call.key t ht
    exact ⟨Store.Memory.lt_of_tally? ht, by omega⟩
  obtain ⟨hanswer, hshows, hlenient, hothers⟩ := Client.increment_of_shows (h.shows call.key)
    h.lenient h.onMillis hwindow hpos hms hend hopen (h.near call.key)
  have hcounted := m.tally?_increment hne hend
  have hanswer' : done.answer = .ok done'.answer :=
    hanswer.trans (congrArg Except.ok (m.answer_increment hend).symm)
  refine ⟨hanswer', h.onMillis, fun key => ?_, hlenient, Nat.le_of_succ_le h.few,
    fun key t ht => ?_, fun key t ht => ?_⟩
  · by_cases hkey : key = call.key
    · rw [hkey, hcounted]
      exact hshows
    · rw [m.tally?_increment_of_ne now hkey]
      exact ⟨(hothers key hkey).trans (h.shows key).live, (h.shows key).onMillis⟩
  · by_cases hkey : key = call.key
    · rw [hkey, hcounted] at ht
      obtain rfl := Option.some.inj ht
      -- the call takes the room of one check, or starts a count at one
      cases hbefore : m.tally? now call.key with
      | none =>
        have hfew := h.few
        show 1 + left ≤ maxInteger
        omega
      | some u =>
        have hroom := h.room call.key u hbefore
        show u.count + 1 + left ≤ maxInteger
        omega
    · rw [m.tally?_increment_of_ne now hkey] at ht
      exact Nat.le_of_succ_le (h.room key t ht)
  · by_cases hkey : key = call.key
    · rw [hkey, hcounted] at ht
      obtain rfl := Option.some.inj ht
      -- the window is the one that was open, or opens now
      cases hbefore : m.tally? now call.key with
      | none =>
        have hnewMs := (Instant.onMillis_of_add? h.onMillis (hwindow ▸ hend)).2
        show newEnd.wholeMillis ≤ now.wholeMillis + maxInteger
        omega
      | some u => exact h.near call.key u hbefore
    · rw [m.tally?_increment_of_ne now hkey] at ht
      exact h.near key t ht

end Replaces

variable {members : Nat → Member}

/-- Limiters with windows of whole milliseconds are served alike by a server and by the in-memory
store that it replaces. -/
theorem simulation_server
    (hwindows : ∀ i, ∃ ms, 0 < ms ∧ ms ≤ maxInteger ∧ (members i).limiter.window = .ofMillis ms) :
    Simulation members (Client.service Keyspace.peer) Store.Memory.service
      (fun now s => (now ≤ s.clock now ∧ (s.clock now).OnMillis) ∧
        s.OnCheck fun i _ _ _ => (now.add? (members i).limiter.window).isSome = true)
      Replaces where
  set hP h := h.later hP.1.1 hP.1.2
  fewer h := h.fewer
  sweep h := h.sweep
  call {_ _ _ _ i _ _ _} subject hP h := by
    obtain ⟨ms, hpos, hms, hwindow⟩ := hwindows i
    obtain ⟨newEnd, hend⟩ := Option.isSome_iff_exists.mp hP.2
    obtain ⟨hanswer, hreplaces⟩ := h.call ⟨subject.storeKey _, _⟩ hwindow hpos hms hend
    exact ⟨(Client.store _).answer_guarded hanswer, hreplaces⟩

/-- On a clock that shows whole milliseconds and never goes back, limiters whose windows are whole
milliseconds between one and the largest signed word get the same answers from a new server and
from a new in-memory store, as long as they make no more checks than that word and the clock can
hold their windows. The limiters may share prefixes and caches in any way, and either tier may be
swept between the checks. -/
theorem answer_run_server (members : Nat → Member)
    (hwindows : ∀ i, ∃ ms, 0 < ms ∧ ms ≤ maxInteger ∧ (members i).limiter.window = .ofMillis ms)
    {connections : Nat} (hconnected : 0 < connections) (timeout : Span) (start : Instant)
    (steps : List (Step Unit))
    (hmillis : WholeMillis start steps) (hforward : Forward start steps)
    (hreach : InReach members start steps) (hfew : steps.countP Step.isCheck ≤ maxInteger) :
    let client : Client Keyspace :=
      { connections := connections, connected := hconnected, timeout := timeout, server := {} }
    let shared : Fleet (Client Keyspace) := { now := start, store := client }
    let alone : Fleet Store.Memory := { now := start, store := .create start }
    (shared.run members (Client.service Keyspace.peer) steps).answer =
      (alone.run members Store.Memory.service steps).answer := by
  intro client shared alone
  have hstores := Replaces.create hmillis.1 hfew hconnected timeout
  exact (simulation_server hwindows).answer_run ⟨rfl, rfl, hstores⟩
    ((hforward.and hmillis.2).and hreach)

/-- Two limiters share a cache and have windows of five and six milliseconds. The second check joins
the window of the first, the third is denied by the cache. At the end of the window a new one is
opened, which the other limiter joins, and a subject is checked that looks like a key of the first.
The time left is the same in both stores all along. -/
theorem answer_run_server_of_two :
    let members (i : Nat) : Member := ⟨{ window := .ofMillis (if i = 0 then 5 else 6) }, 0⟩
    let time (ms : Nat) : Instant := ⟨ms * nanosPerMilli⟩
    let steps : List (Step Unit) :=
      [.check 0 "a" 2 (), .check 1 "a" 2 (), .check 0 "a" 2 (), .set (time 7), .sweepCache 1,
        .check 1 "a" 4 (), .set (time 8), .check 1 "a" 2 (), .sweepStore, .set (time 11),
        .check 0 "a" 1 (), .check 0 "a" 2 (), .check 1 "rate_limit:a" 1 ()]
    let client : Client Keyspace := { connections := 2, timeout := .ofMillis 50, server := {} }
    let shared : Fleet (Client Keyspace) := { now := time 3, store := client }
    let alone : Fleet Store.Memory := { now := time 3, store := .create (time 3) }
    let answers := (shared.run members (Client.service Keyspace.peer) steps).answer
    answers = (alone.run members Store.Memory.service steps).answer ∧
      (answers.filterMap fun answer => answer.bind Except.toOption) =
        [⟨true, 2, 1, .ofMillis 5, .store⟩, ⟨true, 2, 0, .ofMillis 5, .store⟩,
          ⟨false, 2, 0, .ofMillis 5, .cache⟩, ⟨true, 4, 1, .ofMillis 1, .store⟩,
          ⟨true, 2, 1, .ofMillis 6, .store⟩, ⟨false, 1, 0, .ofMillis 3, .cache⟩,
          ⟨true, 2, 0, .ofMillis 3, .store⟩, ⟨true, 1, 0, .ofMillis 6, .store⟩] := by
  intro members time steps client shared alone answers
  have hwindows (i : Nat) : ∃ ms, 0 < ms ∧ ms ≤ maxInteger ∧
      (members i).limiter.window = .ofMillis ms :=
    ⟨if i = 0 then 5 else 6, by split <;> decide, by split <;> decide, rfl⟩
  exact ⟨answer_run_server members hwindows (show 0 < 2 by decide) (.ofMillis 50)
    (time 3) steps (by decide +zetaReduce) (by decide +zetaReduce) (by decide +zetaReduce)
    (by decide +zetaReduce), by decide +kernel +zetaReduce⟩

end Fleet

end FixedWindow
