import FixedWindow.Proofs.Store.Ledger
import Mathlib.Data.List.Dedup
import Mathlib.Data.List.Perm.Subperm

/-!
# How long the in-memory store holds a key

Counters of closed windows are dropped by the calls themselves: a call that finds a pass due drops
them and puts the next pass one window ahead. If all calls ask for the same window, this bounds what
is held. A counter that a pass left behind was open at that pass, and a counter that was written
since is newer still; so what is held when the next pass falls due was open less than one window
before (`Store.Memory.Scheduled`). A call leaves the next pass ahead of it, and therefore holds no
key whose window was opened two windows before it or earlier.

When a window was opened is read off the ledger, which keeps it with the call that opened it.

## Main definitions

* `Store.Memory.after`, `Store.Ledger.after`: what a run leaves.
* `Store.keysCalled`: the keys called in a run within a span up to an instant.
* `Store.Memory.Scheduled`: what is held, beside the ledger and the schedule of passes.

## Main results

* `Store.Ledger.opened_of_after`: every window of the ledger was opened by a call of the run.
* `Store.Memory.Scheduled.serve`, `Store.Memory.Scheduled.after`: requests keep to the schedule.
* `Store.Memory.held_within_two_windows`: the store is bounded by the last two windows.
-/

namespace FixedWindow.Store

/-! ### Runs and what they leave -/

/-- What a run leaves of a store. -/
def Memory.after (m : Memory) (requests : List (Instant × Request)) : Memory :=
  requests.foldl (fun m r => (m.serve r.1 r.2).state) m

/-- What a run leaves of a ledger. -/
def Ledger.after (ledger : Ledger) (requests : List (Instant × Request)) : Ledger :=
  requests.foldl (fun ledger r => (ledger.serve r.1 r.2).2) ledger

/-- A request that asks for no window but the given one, and leaves it to the store when the next
pass is due. -/
def Request.KeepsTo (window : Span) : Request → Prop
  | increment call => call.window = window
  | read _ | sweep => True
  | reschedule _ => False

instance (window : Span) : DecidablePred (Request.KeepsTo window) := fun r => by
  cases r <;> unfold Request.KeepsTo <;> infer_instance

/-- The keys called in a run at an instant that is not after `now`, and lies less than `span` before
it; each key once. -/
def keysCalled (requests : List (Instant × Request)) (span : Span) (now : Instant) : List String :=
  (requests.filterMap fun
    | (time, .increment call) =>
      if time ≤ now ∧ now.nanos < time.nanos + span.nanos then some call.key else none
    | _ => none).dedup

theorem mem_keysCalled {requests : List (Instant × Request)} {span : Span} {now time : Instant}
    {call : Call} (hcall : (time, .increment call) ∈ requests) (hle : time ≤ now)
    (hlt : now.nanos < time.nanos + span.nanos) : call.key ∈ keysCalled requests span now := by
  rw [keysCalled, List.mem_dedup, List.mem_filterMap]
  exact ⟨_, hcall, if_pos ⟨hle, hlt⟩⟩

/-! ### The opening of windows -/

namespace Ledger

/-- A window that is noted after a call had been opened before, or is opened by the call. -/
theorem opened_of_increment {ledger : Ledger} {now : Instant} {call : Call} {key : String}
    {w : Window} (h : (ledger.increment now call).2 key = some w) :
    (∃ old, ledger key = some old ∧ w.opened = old.opened ∧ w.first = old.first) ∨
      key = call.key ∧ w.opened = now ∧ w.first = call := by
  unfold increment at h
  split at h
  · exact .inl ⟨w, h, rfl, rfl⟩
  · split at h
    · rename_i old hold
      simp only [note] at h
      split at h
      · rename_i hkey
        cases h
        exact .inl ⟨old, hkey ▸ (Option.filter_eq_some_iff.mp hold).1, rfl, rfl⟩
      · exact .inl ⟨w, h, rfl, rfl⟩
    · simp only [note] at h
      split at h
      · rename_i hkey
        cases h
        exact .inr ⟨hkey, rfl, rfl⟩
      · exact .inl ⟨w, h, rfl, rfl⟩

/-- Every window that is noted after a run had been noted before, or was opened by a call of the
run. -/
theorem opened_of_after {ledger : Ledger} {requests : List (Instant × Request)} {key : String}
    {w : Window} (h : ledger.after requests key = some w) :
    (∃ old, ledger key = some old ∧ w.opened = old.opened ∧ w.first = old.first) ∨
      w.first.key = key ∧ (w.opened, .increment w.first) ∈ requests := by
  induction requests generalizing ledger with
  | nil => exact .inl ⟨w, h, rfl, rfl⟩
  | cons r rest ih =>
    obtain ⟨now, request⟩ := r
    rcases ih h with ⟨old, hold, hopened, hfirst⟩ | ⟨hkey, hmem⟩
    · cases request with
      | increment call =>
        rcases opened_of_increment hold with ⟨older, holder, hopened', hfirst'⟩ | ⟨rfl, rfl, rfl⟩
        · exact .inl ⟨older, holder, hopened.trans hopened', hfirst.trans hfirst'⟩
        · rw [hopened, hfirst]
          exact .inr ⟨rfl, List.mem_cons_self⟩
      | read _ | sweep | reschedule _ => exact .inl ⟨old, hold, hopened, hfirst⟩
    · exact .inr ⟨hkey, List.mem_cons_of_mem _ hmem⟩

end Ledger

/-! ### The schedule of passes -/

namespace Memory

theorem get?_sweepIfDue {m : Memory} {now : Instant} {window : Span} {key : String} {c : Counter}
    (h : (m.sweepIfDue now window).state.counters.get? key = some c) :
    m.counters.get? key = some c ∧ (m.nextSweep ≤ now → now < c.expiresAt) := by
  unfold sweepIfDue at h
  split at h
  · rename_i hearly
    exact ⟨h, fun hdue => absurd hearly (Nat.not_lt.mpr hdue)⟩
  · simp only [sweep, Table.get?_retain, Option.filter_eq_some_iff, Counter.isLive,
      decide_eq_true_eq] at h
    exact ⟨h.1, fun _ => h.2⟩

theorem get?_increment {m : Memory} {now newEnd : Instant} {call : Call}
    (hend : now.add? call.window = some newEnd) {key : String} {c : Counter}
    (h : (m.increment now call).state.counters.get? key = some c) :
    key = call.key ∧ c.tally = Tally.next (m.tally? now call.key) newEnd ∨
      key ≠ call.key ∧ m.counters.get? key = some c ∧ (m.nextSweep ≤ now → now < c.expiresAt) := by
  simp only [increment, hend, Table.get?_insert] at h
  split at h
  · rename_i hkey
    cases h
    exact .inl ⟨hkey, by rw [live?_sweepIfDue, tally_next]⟩
  · rename_i hkey
    exact .inr ⟨hkey, get?_sweepIfDue h⟩

theorem nextSweep_increment (m : Memory) {now newEnd : Instant} {call : Call}
    (hend : now.add? call.window = some newEnd) :
    (m.increment now call).state.nextSweep =
      if now < m.nextSweep then m.nextSweep else newEnd := by
  simp only [increment, hend, sweepIfDue]
  split <;> rfl

/-- The store shows what the ledger has open, and holds of each key at most the last window that the
ledger has noted. The next pass is due within a window, and finds no counter that closed a window
before it or earlier. -/
structure Scheduled (m : Memory) (ledger : Ledger) (window : Span) (now : Instant) : Prop where
  follows : m.Follows ledger now
  noted : ∀ key c, m.counters.get? key = some c → ∃ w, ledger key = some w ∧ c.tally = w.tally
  due : m.nextSweep.nanos ≤ now.nanos + window.nanos
  recent : ∀ key c, m.counters.get? key = some c →
    m.nextSweep.nanos < c.expiresAt.nanos + window.nanos

theorem scheduled_create (start : Instant) (window : Span) :
    (create start).Scheduled Ledger.empty window start where
  follows := follows_create start start
  noted _ _ h := by cases h
  due := Nat.le_add_right _ _
  recent _ _ h := by cases h

namespace Scheduled

variable {m : Memory} {ledger : Ledger} {window : Span} {now : Instant}

theorem later (h : m.Scheduled ledger window now) {later : Instant} (hle : now ≤ later) :
    m.Scheduled ledger window later where
  follows := h.follows.later hle
  noted := h.noted
  due := Nat.le_trans h.due (Nat.add_le_add_right hle _)
  recent := h.recent

theorem sweep (h : m.Scheduled ledger window now) :
    (m.sweep now).state.Scheduled ledger window now := by
  have hheld : ∀ key c, (m.sweep now).state.counters.get? key = some c →
      m.counters.get? key = some c := fun key c hc => by
    rw [Memory.sweep, Table.get?_retain] at hc
    exact (Option.filter_eq_some_iff.mp hc).1
  exact ⟨fun key => (tally?_sweep m now key).trans (h.follows key),
    fun key c hc => h.noted key c (hheld key c hc), h.due,
    fun key c hc => h.recent key c (hheld key c hc)⟩

/-- A call that is counted keeps to the schedule, and leaves the next pass ahead of it. -/
theorem increment {call : Call} (h : m.Scheduled ledger call.window now)
    (hwindow : call.window ≠ .zero) {newEnd : Instant}
    (hend : now.add? call.window = some newEnd) :
    let m' := (m.increment now call).state
    now < m'.nextSweep ∧ m'.Scheduled (ledger.increment now call).2 call.window now := by
  intro m'
  have hahead := Instant.lt_of_add? hend hwindow
  have hnext := m.nextSweep_increment hend
  have hdue := h.due
  obtain ⟨hfits, rfl⟩ := Instant.add?_eq_some_iff.mp hend
  obtain ⟨w, hcounted, htally⟩ := Ledger.increment_of_le ledger hfits
  refine ⟨?_, (h.follows.increment _).2, fun key c hc => ?_, ?_, fun key c hc => ?_⟩
  · rw [hnext]
    split
    · assumption
    · exact hahead
  · have hnoted : (ledger.increment now call).2 key =
        if key = call.key then some w else ledger key := by
      rw [hcounted]
      rfl
    rcases get?_increment hend hc with ⟨hkey, hcounter⟩ | ⟨hkey, hheld, -⟩
    · exact ⟨w, hnoted.trans (if_pos hkey), by rw [hcounter, htally, h.follows call.key]⟩
    · obtain ⟨old, hold, hcounter⟩ := h.noted key c hheld
      exact ⟨old, (hnoted.trans (if_neg hkey)).trans hold, hcounter⟩
  · rw [hnext]
    split
    · exact hdue
    · exact Nat.le_refl _
  · rw [hnext]
    rcases get?_increment hend hc with ⟨-, hcounter⟩ | ⟨-, hheld, hpassed⟩
    · -- the counter of the call is open, and the next pass is at most a window ahead
      have hopen : now < c.tally.closesAt :=
        hcounter ▸ Tally.closesAt_next (fun _ => lt_of_tally?) fun _ => hahead
      have hlater := Nat.add_lt_add_right (Instant.lt_def.mp hopen) call.window.nanos
      split
      · exact Nat.lt_of_le_of_lt hdue hlater
      · exact hlater
    · split
      · exact h.recent key c hheld
      · -- the pass found any other counter open, and put the next one a window ahead
        rename_i hpass
        exact Nat.add_lt_add_right (hpassed (Nat.le_of_not_lt hpass)) _

/-- Every request that keeps to the window keeps to the schedule. -/
theorem serve (h : m.Scheduled ledger window now) (hwindow : window ≠ .zero) {request : Request}
    (hrequest : request.KeepsTo window) :
    (m.serve now request).state.Scheduled (ledger.serve now request).2 window now := by
  cases request with
  | increment call =>
    obtain rfl : call.window = window := hrequest
    cases hend : now.add? call.window with
    | some newEnd => exact (h.increment hwindow hend).2
    | none =>
      -- a call whose window the clock cannot hold leaves both as they are
      have hstore := increment_of_add?_eq_none m hend
      have hledger : ledger.increment now call =
          (.error (.protocol (.clockOverflow call.window)), ledger) :=
        if_pos (Instant.add?_eq_none_iff.mp hend)
      simp only [Memory.serve, Ledger.serve, hstore, hledger]
      exact h
  | read key => exact h
  | sweep => exact h.sweep
  | reschedule due => exact hrequest.elim

/-- A run that goes forward keeps to the schedule. -/
theorem after (h : m.Scheduled ledger window now) (hwindow : window ≠ .zero)
    {requests : List (Instant × Request)} (hrequests : ∀ r ∈ requests, r.2.KeepsTo window)
    (hlater : ∀ r ∈ requests, now ≤ r.1) (hforward : requests.Pairwise fun a b => a.1 ≤ b.1)
    {later : Instant} (hle : now ≤ later) (hbefore : ∀ r ∈ requests, r.1 ≤ later) :
    (m.after requests).Scheduled (ledger.after requests) window later := by
  induction requests generalizing m ledger now with
  | nil => exact h.later hle
  | cons r rest ih =>
    obtain ⟨hkeeps, hrequests⟩ := List.forall_mem_cons.mp hrequests
    obtain ⟨hrest, hforward⟩ := List.pairwise_cons.mp hforward
    obtain ⟨hend, hbefore⟩ := List.forall_mem_cons.mp hbefore
    exact ih ((h.later (hlater _ List.mem_cons_self)).serve hwindow hkeeps) hrequests hrest hforward
      hend hbefore

/-- What is held beside the ledger of a run belongs to the last window noted of its key, which was
opened by a call of the run. If the next pass is ahead, that was later than two windows ago. -/
theorem held {run : List (Instant × Request)}
    (h : m.Scheduled (Ledger.empty.after run) window now) (hahead : now < m.nextSweep)
    (hkeeps : ∀ r ∈ run, r.2.KeepsTo window) {key : String} {c : Counter}
    (hc : m.counters.get? key = some c) :
    ∃ w, Ledger.empty.after run key = some w ∧ c = ⟨w.calls, w.closesAt⟩ ∧
      now.nanos < w.opened.nanos + 2 * window.nanos ∧ w.first.key = key ∧
      (w.opened, .increment w.first) ∈ run := by
  obtain ⟨w, hnoted, htally⟩ := h.noted key c hc
  obtain ⟨hcount, hcloses⟩ := Tally.mk.inj htally
  rcases Ledger.opened_of_after hnoted with ⟨old, hold, -⟩ | ⟨hkey, hmem⟩
  · cases hold
  · have hasked : w.first.window = window := hkeeps _ hmem
    have hrecent := h.recent key c hc
    refine ⟨w, hnoted, by rw [← hcount, ← hcloses], ?_, hkey, hmem⟩
    simp only [hcloses, Window.closesAt, hasked] at hrecent
    simp only [Instant.lt_def] at hahead
    omega

theorem size_le {run : List (Instant × Request)}
    (h : m.Scheduled (Ledger.empty.after run) window now) (hahead : now < m.nextSweep)
    (hkeeps : ∀ r ∈ run, r.2.KeepsTo window) (hbefore : ∀ r ∈ run, r.1 ≤ now) :
    m.size ≤ (keysCalled run ⟨2 * window.nanos⟩ now).length := by
  have hcalled : m.counters.keys ⊆ keysCalled run ⟨2 * window.nanos⟩ now := by
    intro key hmem
    obtain ⟨c, hc⟩ := Option.isSome_iff_exists.mp (Table.mem_keys_iff.mp hmem)
    obtain ⟨w, -, -, hrecent, hkey, hopened⟩ := h.held hahead hkeeps hc
    exact hkey ▸ mem_keysCalled hopened (hbefore _ hopened) hrecent
  rw [size, Table.size_eq_length_keys]
  exact (List.subperm_of_subset m.counters.nodup_keys hcalled).length_le

end Scheduled

/-- If all calls ask for the same window, which is not empty, a store is bounded by the last two
windows of a run that goes forward. Right after a call that the clock can hold, made at `now`, all
that is held under a key is the counter of the last window noted of the key, which was opened later
than two windows before `now`; so there are no more keys than were called since then. -/
theorem held_within_two_windows (start : Instant) (requests : List (Instant × Request))
    (now : Instant) (call : Call) (hwindow : call.window ≠ .zero)
    (hend : (now.add? call.window).isSome = true) :
    let run := requests ++ [(now, .increment call)]
    (∀ r ∈ run, r.2.KeepsTo call.window) → (∀ r ∈ run, start ≤ r.1) →
      run.Pairwise (fun a b => a.1 ≤ b.1) →
      let m := (create start).after run
      (∀ held c, m.counters.get? held = some c → ∃ w, Ledger.empty.after run held = some w ∧
        c = ⟨w.calls, w.closesAt⟩ ∧ now.nanos < w.opened.nanos + 2 * call.window.nanos) ∧
      m.size ≤ (keysCalled run ⟨2 * call.window.nanos⟩ now).length := by
  intro run hkeeps hstart hforward m
  obtain ⟨newEnd, hend⟩ := Option.isSome_iff_exists.mp hend
  obtain ⟨hforward', -, hbefore⟩ := List.pairwise_append.mp hforward
  have hbefore : ∀ r ∈ requests, r.1 ≤ now := fun r hr => hbefore r hr _ List.mem_cons_self
  have hnow : start ≤ now := hstart _ (List.mem_append_right _ List.mem_cons_self)
  -- before the last call the next pass may be due; the call makes it, so that it is ahead again
  have hearlier := (scheduled_create start call.window).after hwindow
    (fun r hr => hkeeps r (List.mem_append_left _ hr))
    (fun r hr => hstart r (List.mem_append_left _ hr)) hforward' hnow hbefore
  obtain ⟨hahead, hscheduled⟩ := hearlier.increment hwindow hend
  have hm : m = (((create start).after requests).increment now call).state :=
    List.foldl_append
  have hledger : Ledger.empty.after run =
      ((Ledger.empty.after requests).increment now call).2 :=
    List.foldl_append
  rw [← hm, ← hledger] at hscheduled
  rw [← hm] at hahead
  refine ⟨fun key c hc => ?_, hscheduled.size_le hahead hkeeps fun r hr => ?_⟩
  · obtain ⟨w, hnoted, hcounter, hrecent, -⟩ := hscheduled.held hahead hkeeps hc
    exact ⟨w, hnoted, hcounter, hrecent⟩
  · rcases List.mem_append.mp hr with hearlier | hlast
    · exact hbefore _ hearlier
    · exact Nat.le_of_eq (congrArg (·.1.nanos) (List.mem_singleton.mp hlast))

/-- Windows of ten nanoseconds. The third call makes a pass, which drops the first key and finds the
window of the second one open; eight nanoseconds after that window was closed the counter is still
held. -/
theorem held_within_two_windows_of_late_pass :
    let window : Span := ⟨10⟩
    let call (key : String) : Request := .increment ⟨key, window⟩
    let requests : List (Instant × Request) :=
      [(⟨100⟩, call "a"), (⟨101⟩, call "b"), (⟨105⟩, .sweep), (⟨110⟩, call "c"), (⟨111⟩, .read "b")]
    let run := requests ++ [(⟨119⟩, call "d")]
    let m := (create ⟨100⟩).after run
    (∀ r ∈ run, r.2.KeepsTo window) ∧ run.Pairwise (fun a b => a.1 ≤ b.1) ∧
      m.counters.keys = ["d", "c", "b"] ∧ keysCalled run ⟨20⟩ ⟨119⟩ = ["a", "b", "c", "d"] ∧
      (∀ held c, m.counters.get? held = some c → ∃ w, Ledger.empty.after run held = some w ∧
        c = ⟨w.calls, w.closesAt⟩ ∧ 119 < w.opened.nanos + 2 * window.nanos) ∧
      m.size ≤ (keysCalled run ⟨2 * window.nanos⟩ ⟨119⟩).length := by
  intro window call requests run m
  have hkeeps : ∀ r ∈ run, r.2.KeepsTo window := by decide
  have hforward : run.Pairwise fun a b => a.1 ≤ b.1 := by decide
  exact ⟨hkeeps, hforward, by decide +kernel, by decide +kernel,
    held_within_two_windows ⟨100⟩ requests ⟨119⟩ ⟨"d", window⟩ (by decide) rfl hkeeps (by decide)
      hforward⟩

end Memory

end FixedWindow.Store
