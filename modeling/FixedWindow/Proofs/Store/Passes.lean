import FixedWindow.Proofs.Store.Retention

/-!
# Which calls make a pass

A call that finds a pass over closed windows due makes it, and puts the next one ahead by the window
that it asks for itself. So the time between two passes is set by the earlier one: a call makes a
pass if the window of the call that made the last one has gone by, whatever window it asks for.

If all calls ask for the same window, this comes to one window after the last pass. In a run of
different windows a call may arrive its own window after the last pass, and longer, and find none
due, because the last one was made by a call with a longer window. It drops nothing then, and closed
windows go on being held.

## Main definitions

* `Store.Pass`, `Store.Pass.IsOver`: a pass, and the end of the time for which it puts off the next.
* `Store.Request.pass?`, `Store.lastPass?`: the last pass that the calls of a run make.

## Main results

* `Store.Memory.nextSweep_serve`, `Store.Memory.nextSweep_after`: when the next pass is due.
* `Store.Memory.get?_increment_of_ne`: what a call leaves under other keys.
* `Store.Memory.evicts_after_last_pass`: which calls make a pass, and what they leave.
-/

namespace FixedWindow.Store

/-! ### Passes of a run -/

/-- A pass over closed windows: when a call made it, and the window that the call asked for. -/
structure Pass where
  made : Instant
  window : Span
  deriving DecidableEq, Repr

/-- The window of the call that made a pass has gone by. -/
def Pass.IsOver (p : Pass) (now : Instant) : Prop := p.made.nanos + p.window.nanos ≤ now.nanos

instance (p : Pass) (now : Instant) : Decidable (p.IsOver now) :=
  inferInstanceAs (Decidable (_ ≤ _))

/-- The pass that a request makes. A call makes one if the clock can hold its window, and if none
was made before or the last one is over. -/
def Request.pass? (last? : Option Pass) (now : Instant) : Request → Option Pass
  | increment call =>
    if (now.add? call.window).isSome = true ∧ ∀ p ∈ last?, p.IsOver now then
      some ⟨now, call.window⟩
    else none
  | read _ | sweep | reschedule _ => none

/-- The last pass that the calls of a run make. -/
def lastPass? (requests : List (Instant × Request)) : Option Pass :=
  requests.foldl (fun last? r => (r.2.pass? last? r.1).or last?) none

/-- The instant from which a pass is due, in a store created at `start`. -/
def passDue (start : Instant) : Option Pass → Instant
  | none => start
  | some p => ⟨p.made.nanos + p.window.nanos⟩

theorem not_lt_passDue_iff {start now : Instant} (hstart : start ≤ now) (last? : Option Pass) :
    ¬ now < passDue start last? ↔ ∀ p ∈ last?, p.IsOver now := by
  cases last? with
  | none => simpa [passDue, Instant.lt_def, Instant.le_def] using hstart
  | some p => simp [passDue, Pass.IsOver, Instant.lt_def]

namespace Memory

/-! ### The schedule of a run -/

/-- A request that makes a pass puts the next one ahead by its window. -/
theorem nextSweep_serve {m : Memory} {start now : Instant} {last? : Option Pass}
    (h : m.nextSweep = passDue start last?) (hstart : start ≤ now) {request : Request}
    (hrequest : ∀ due, request ≠ .reschedule due) :
    (m.serve now request).state.nextSweep = passDue start ((request.pass? last? now).or last?) := by
  cases request with
  | read key => exact h
  | sweep => exact h
  | reschedule due => exact absurd rfl (hrequest due)
  | increment call =>
    cases hend : now.add? call.window with
    | none =>
      have hrefused := congrArg Effect.state (increment_of_add?_eq_none m hend)
      have hnone : (Request.increment call).pass? last? now = none := by
        simp [Request.pass?, hend]
      simp only [serve, hrefused, hnone, Option.none_or, h]
    | some newEnd =>
      have hnext := m.nextSweep_increment hend
      obtain ⟨-, rfl⟩ := Instant.add?_eq_some_iff.mp hend
      simp only [serve, hnext, h, Request.pass?, hend, Option.isSome_some, true_and,
        ← not_lt_passDue_iff hstart last?]
      by_cases hearly : now < passDue start last?
      · rw [if_pos hearly, if_neg (not_not_intro hearly), Option.none_or]
      · rw [if_neg hearly, if_pos hearly]
        rfl

/-- After a run the next pass is due when the last one is over. -/
theorem nextSweep_after {start : Instant} {requests : List (Instant × Request)}
    (hplain : ∀ r ∈ requests, ∀ due, r.2 ≠ .reschedule due)
    (hstart : ∀ r ∈ requests, start ≤ r.1) :
    ((create start).after requests).nextSweep = passDue start (lastPass? requests) := by
  suffices ∀ (m : Memory) (last? : Option Pass), m.nextSweep = passDue start last? →
      (m.after requests).nextSweep = passDue start
        (requests.foldl (fun last? r => (r.2.pass? last? r.1).or last?) last?) from
    this (create start) none rfl
  induction requests with
  | nil => exact fun m last? h => h
  | cons r rest ih =>
    obtain ⟨hrequest, hplain⟩ := List.forall_mem_cons.mp hplain
    obtain ⟨hfirst, hstart⟩ := List.forall_mem_cons.mp hstart
    exact fun m last? h => ih hplain hstart _ _ (nextSweep_serve h hfirst hrequest)

/-! ### What a call leaves -/

/-- Under other keys than its own a call that is counted leaves what is there, or what a pass leaves
of it if one is due. -/
theorem get?_increment_of_ne (m : Memory) {now newEnd : Instant} {call : Call}
    (hend : now.add? call.window = some newEnd) {key : String} (hkey : key ≠ call.key) :
    (m.increment now call).state.counters.get? key =
      if now < m.nextSweep then m.counters.get? key
      else (m.counters.get? key).filter (·.isLive now) := by
  simp only [increment, hend, Table.get?_insert_of_ne _ _ hkey, sweepIfDue]
  split
  · rfl
  · exact Table.get?_retain ..

/-- No counter of a closed window is held, the one under a key left aside. -/
def IsClearBeside (m : Memory) (now : Instant) (key : String) : Prop :=
  ∀ other c, m.counters.get? other = some c → other ≠ key → now < c.expiresAt

/-- A call whose window the clock cannot hold leaves the store as it is. Any other call makes a pass
exactly if none was made before or the window of the call that made the last one has gone by; it
drops the counters of closed windows then, and nothing otherwise. So afterwards none is held beside
the key of the call if a pass was due or none was held before, and in no other case. In particular
none is held after a call that arrives its own window after the last pass, if the call that made
that pass did not ask for a longer one. -/
theorem evicts_after_last_pass (start : Instant) (requests : List (Instant × Request))
    (now : Instant) (call : Call) (hplain : ∀ r ∈ requests, ∀ due, r.2 ≠ .reschedule due)
    (hstart : ∀ r ∈ requests, start ≤ r.1) (hnow : start ≤ now) :
    let m := (create start).after requests
    let m' := (m.increment now call).state
    let isDue := ∀ p ∈ lastPass? requests, p.IsOver now
    (now.add? call.window = none → m' = m) ∧
      ((now.add? call.window).isSome = true →
        (∀ key, key ≠ call.key → m'.counters.get? key =
          if isDue then (m.counters.get? key).filter (·.isLive now) else m.counters.get? key) ∧
        (m'.IsClearBeside now call.key ↔ isDue ∨ m.IsClearBeside now call.key) ∧
        ((∀ p ∈ lastPass? requests, p.window ≤ call.window ∧
            p.made.nanos + call.window.nanos ≤ now.nanos) → m'.IsClearBeside now call.key)) := by
  intro m m' isDue
  have hdue : ¬ now < m.nextSweep ↔ isDue := by
    rw [nextSweep_after hplain hstart]
    exact not_lt_passDue_iff hnow _
  refine ⟨fun hend => congrArg Effect.state (increment_of_add?_eq_none m hend), fun hsome => ?_⟩
  obtain ⟨newEnd, hend⟩ := Option.isSome_iff_exists.mp hsome
  have hleft : ∀ key, key ≠ call.key → m'.counters.get? key =
      if isDue then (m.counters.get? key).filter (·.isLive now) else m.counters.get? key := by
    intro key hkey
    simp only [m', m.get?_increment_of_ne hend hkey, ← hdue, ite_not]
  have hclear : m'.IsClearBeside now call.key ↔ isDue ∨ m.IsClearBeside now call.key := by
    by_cases hpass : isDue
    · refine iff_of_true (fun key c hc hkey => ?_) (.inl hpass)
      rw [hleft key hkey, if_pos hpass] at hc
      exact of_decide_eq_true (Option.filter_eq_some_iff.mp hc).2
    · rw [or_iff_right hpass]
      refine forall₂_congr fun key c => ?_
      constructor
      · exact fun h hc hkey => h (by rwa [hleft key hkey, if_neg hpass]) hkey
      · exact fun h hc hkey => h (by rwa [hleft key hkey, if_neg hpass] at hc) hkey
  refine ⟨hleft, hclear, fun hrule => hclear.mpr (.inl fun p hp => ?_)⟩
  obtain ⟨hshorter, hlate⟩ := hrule p hp
  exact Nat.le_trans (Nat.add_le_add_left hshorter _) hlate

/-- A call with a window of sixty nanoseconds makes the first pass. A call with a window of one
nanosecond that arrives five nanoseconds later makes none, and a window that has closed before goes
on being held; the same call makes a pass when the sixty nanoseconds have gone by. -/
theorem evicts_after_last_pass_of_longer_window :
    let requests : List (Instant × Request) :=
      [(⟨100⟩, .increment ⟨"long", ⟨60⟩⟩), (⟨100⟩, .increment ⟨"short", ⟨1⟩⟩),
        (⟨103⟩, .read "short")]
    let m := (create ⟨100⟩).after requests
    let late : Call := ⟨"late", ⟨1⟩⟩
    lastPass? requests = some ⟨⟨100⟩, ⟨60⟩⟩ ∧
      ((m.increment ⟨105⟩ late).state.counters.get? "short" = some ⟨1, ⟨101⟩⟩ ∧
        ¬ (m.increment ⟨105⟩ late).state.IsClearBeside ⟨105⟩ "late") ∧
      ((m.increment ⟨160⟩ late).state.counters.get? "short" = none ∧
        (m.increment ⟨160⟩ late).state.IsClearBeside ⟨160⟩ "late") := by
  intro requests m late
  have hplain : ∀ r ∈ requests, ∀ due, r.2 ≠ .reschedule due := by
    simp [requests]
  have hstart : ∀ r ∈ requests, (⟨100⟩ : Instant) ≤ r.1 := by decide
  have hshort : m.counters.get? "short" = some ⟨1, ⟨101⟩⟩ := by decide +kernel
  obtain ⟨-, hearly⟩ := evicts_after_last_pass ⟨100⟩ requests ⟨105⟩ late hplain hstart (by decide)
  obtain ⟨-, hlater⟩ := evicts_after_last_pass ⟨100⟩ requests ⟨160⟩ late hplain hstart (by decide)
  obtain ⟨hkept, hclosed, -⟩ := hearly rfl
  obtain ⟨hdropped, hclear, -⟩ := hlater rfl
  have hnot : ¬ ∀ p ∈ lastPass? requests, p.IsOver ⟨105⟩ := by decide +kernel
  have hdue : ∀ p ∈ lastPass? requests, p.IsOver ⟨160⟩ := by decide +kernel
  refine ⟨by decide +kernel, ⟨?_, fun h => ?_⟩, ⟨?_, hclear.mpr (.inl hdue)⟩⟩
  · rw [hkept "short" (by decide), if_neg hnot, hshort]
  · rcases hclosed.mp h with hover | hbefore
    · exact hnot hover
    · exact absurd (hbefore "short" _ hshort (by decide)) (by decide)
  · rw [hdropped "short" (by decide), if_pos hdue, hshort]
    rfl

end Memory

end FixedWindow.Store
