import FixedWindow.Proofs.Sweeper.Pool

/-!
# What sweepers clear away

While a sweeper waits for its deadline, an entry that has closed can stay where it is. It cannot
stay beyond the deadline, which lies at most an interval ahead at any time; and no operation brings
in a closed entry, so it does not come back. A sweeper that is started runs until it is ended.
Sweepers drop nothing but closed entries, and those that have been ended drop nothing at all.

## Main definitions

* `Cache.GainsLive`: what a cache has gained is live.
* `Workplace.Request.ends`: the requests that end a sweeper.
* `Workplace.ClearsBy`: an entry is gone, or a sweeper is about to clear it away.

## Main results

* `Workplace.gainsLive_serve`: no request brings in a closed entry.
* `Workplace.isRunning_run`: a sweeper runs until it is ended.
* `Workplace.ClearsBy.run`: a closed entry is gone by the deadline of a sweeper.
* `Workplace.clears_in_time`: what sweepers clear away in a run, and when.
-/

namespace FixedWindow

namespace Cache

/-- What a cache holds and did not hold before is live. -/
def GainsLive (now : Instant) (before after : Cache) : Prop :=
  ∀ subject e, after.entries.get? subject = some e →
    before.entries.get? subject = some e ∨ now < e.resetAt

variable {now : Instant} {c : Cache}

theorem GainsLive.refl (now : Instant) (c : Cache) : GainsLive now c c := fun _ _ => .inl

theorem gainsLive_put (subject : String) (e : Entry) (h : now < e.resetAt) :
    GainsLive now c (c.put subject e) := by
  intro other e' he'
  rw [put, Table.get?_insert] at he'
  split at he'
  · cases he'
    exact .inr h
  · exact .inl he'

theorem gainsLive_sweep (now : Instant) (c : Cache) : GainsLive now c (c.sweep now).state := by
  intro subject e he
  rw [sweep, Table.get?_retain, Option.filter_eq_some_iff] at he
  exact .inl he.1

theorem lt_of_windowEnd {ttl : Span} (hzero : ¬ ttl.isZero = true) {resetAt : Instant}
    (h : windowEnd now ttl = .ok resetAt) : now < resetAt :=
  Instant.lt_of_add? (windowEnd_eq_ok_iff.mp h) fun h => hzero (Span.isZero_eq_true_iff.mpr h)

theorem gainsLive_overwrite (now : Instant) (c : Cache) (subject : String) (count limit : Nat)
    (ttl : Span) : GainsLive now c (c.overwrite now subject count limit ttl).state := by
  unfold overwrite
  split
  · exact .refl now c
  · rename_i hzero
    split
    · exact .refl now c
    · rename_i resetAt hend
      exact gainsLive_put subject _ (lt_of_windowEnd hzero hend)

theorem gainsLive_increment (now : Instant) (c : Cache) (subject : String) (limit : Nat)
    (window : Span) : GainsLive now c (c.increment now subject limit window).state := by
  unfold increment
  split
  · exact .refl now c
  · rename_i hzero
    split
    -- a live entry keeps its window, also when its count starts over
    · rename_i live hlive
      have hopen := (get?_eq_some_iff.mp hlive).2
      split
      · exact gainsLive_put subject _ hopen
      · exact gainsLive_put subject _ hopen
    · split
      · exact .refl now c
      · rename_i resetAt hend
        exact gainsLive_put subject _ (lt_of_windowEnd hzero hend)

end Cache

namespace Limiter

variable (l : Limiter)

theorem gainsLive_conclude (store : String) (degraded : Bool) (cache : Cache) (now : Instant)
    (subject : Subject) (limit : Nat) (answer : Store.Answer) :
    cache.GainsLive now (l.conclude store degraded cache now subject limit answer).state.2 := by
  have hsettle (write : Effect Cache (Except LimitError Entry)) (decision : Entry → Decision) :
      (settle subject.text write decision).state = write.state := by
    unfold settle
    split <;> rfl
  cases answer with
  | ok figures =>
    simp only [conclude, hsettle]
    exact cache.gainsLive_overwrite now subject.text figures.count limit figures.ttl
  | error e =>
    simp only [conclude, hsettle]
    exact cache.gainsLive_increment now subject.text limit l.window

theorem gainsLive_check {σ : Type} (store : Store.Backend σ) (now : Instant) (subject : String)
    (limit : Nat) (tiers : Tiers σ) :
    tiers.cache.GainsLive now (l.check store now subject limit tiers).state.cache := by
  rw [check_eq]
  split
  · exact .refl now _
  · exact l.gainsLive_conclude _ _ _ _ _ _ _

end Limiter

namespace Workplace

open Store (Relay Delivery)

variable {σ δ : Type} (limiters : Nat → Limiter) (backend : δ → Store.Backend σ)

/-- Whether the request ends the sweeper numbered `i`. -/
def Request.ends (i : Nat) : Request δ → Bool
  | stopSweeper j | releaseSweeper j => j = i
  | read _ | overwrite .. | increment .. | clear | check .. | sweep | startSweeper _
  | moveTimer _ => false

/-! ### One request -/

/-- No request brings in a closed entry. -/
theorem gainsLive_serve (w : Workplace σ) (now : Instant) (request : Request δ) :
    w.cache.GainsLive now (w.serve limiters backend now request).state.cache := by
  cases request with
  | read _ | startSweeper _ | stopSweeper _ | releaseSweeper _ => exact .refl now w.cache
  | overwrite subject count limit ttl =>
    exact w.cache.gainsLive_overwrite now subject count limit ttl
  | increment subject limit window => exact w.cache.gainsLive_increment now subject limit window
  | clear => exact fun subject e he => (by cases he)
  | check i subject limit fares =>
    exact (limiters i).gainsLive_check (backend fares) now subject limit
      ⟨w.degraded i, w.cache, w.store⟩
  | sweep => exact w.cache.gainsLive_sweep now
  | moveTimer d =>
    simp only [serve]
    by_cases hdue : (w.sweepers.later d).IsDue
    · rw [SweeperPool.cache_moveTimer_of_isDue d w.cache now hdue]
      exact w.cache.gainsLive_sweep now
    · rw [SweeperPool.moveTimer_of_not_isDue d w.cache now hdue]
      exact .refl now w.cache

theorem onTime_serve {w : Workplace σ} (h : w.sweepers.OnTime) (now : Instant)
    (request : Request δ) : (w.serve limiters backend now request).state.sweepers.OnTime := by
  cases request with
  | read _ | overwrite | increment | clear | check | sweep => exact h
  | startSweeper interval => exact SweeperPool.onTime_spawn h interval
  | moveTimer d => exact SweeperPool.onTime_moveTimer d w.cache now h
  | stopSweeper i => exact SweeperPool.onTime_onSweeper h i fun _ => rfl
  | releaseSweeper i => exact SweeperPool.onTime_onSweeper h i fun _ => rfl

theorem sweepers_serve_of_not_isDue {w : Workplace σ} {i : Nat} {s : Sweeper}
    (hs : w.sweepers.sweepers[i]? = some s) (now : Instant) {request : Request δ}
    (hends : request.ends i = false)
    (hdue : ∀ d, request = .moveTimer d → ¬ s.IsDue (w.sweepers.later d).time) :
    (w.serve limiters backend now request).state.sweepers.sweepers[i]? = some s := by
  cases request with
  | read _ | overwrite | increment | clear | check | sweep => exact hs
  | startSweeper interval => exact SweeperPool.sweepers_spawn hs interval
  | moveTimer d => exact SweeperPool.sweepers_moveTimer_of_not_isDue d w.cache now hs (hdue d rfl)
  | stopSweeper j | releaseSweeper j =>
    have hne : j ≠ i := of_decide_eq_false hends
    exact (w.sweepers.sweepers_onSweeper_of_ne hne _).trans hs

theorem time_serve (w : Workplace σ) (now : Instant) (request : Request δ) :
    (w.serve limiters backend now request).state.sweepers.time =
      match request with
      | .moveTimer d => (w.sweepers.later d).time
      | _ => w.sweepers.time := by
  cases request with
  | read _ | overwrite | increment | clear | check | sweep | startSweeper _ => rfl
  | moveTimer d => exact SweeperPool.time_moveTimer d w.cache now w.sweepers
  | stopSweeper i | releaseSweeper i => exact w.sweepers.time_onSweeper i _

/-- The sweeper numbered `i` has been ended. -/
def HasEnded (w : Workplace σ) (i : Nat) : Prop :=
  ∃ s, w.sweepers.sweepers[i]? = some s ∧ s.status = .ended

theorem hasEnded_of_ends {w : Workplace σ} {i : Nat} {s : Sweeper}
    (hs : w.sweepers.sweepers[i]? = some s) (now : Instant) {request : Request δ}
    (hends : request.ends i = true) : (w.serve limiters backend now request).state.HasEnded i := by
  cases request with
  | stopSweeper j =>
    obtain rfl : j = i := of_decide_eq_true hends
    exact ⟨_, SweeperPool.sweepers_onSweeper_self hs _, rfl⟩
  | releaseSweeper j =>
    obtain rfl : j = i := of_decide_eq_true hends
    exact ⟨_, SweeperPool.sweepers_onSweeper_self hs _, rfl⟩
  | read _ | overwrite | increment | clear | check | sweep | startSweeper _ | moveTimer _ =>
    cases hends

theorem HasEnded.serve {w : Workplace σ} {i : Nat} (h : w.HasEnded i) (now : Instant)
    (request : Request δ) : (w.serve limiters backend now request).state.HasEnded i := by
  obtain ⟨s, hs, hended⟩ := h
  cases hends : request.ends i with
  | true => exact hasEnded_of_ends limiters backend hs now hends
  | false =>
    refine ⟨s, sweepers_serve_of_not_isDue limiters backend hs now hends ?_, hended⟩
    rintro d - ⟨deadline, hrunning, -⟩
    cases hended.symm.trans hrunning

theorem isRunning_serve {w : Workplace σ} {i : Nat} {interval : Span}
    (h : w.sweepers.IsRunning i interval) (now : Instant) {request : Request δ}
    (hends : request.ends i = false) :
    (w.serve limiters backend now request).state.sweepers.IsRunning i interval := by
  cases request with
  | read _ | overwrite | increment | clear | check | sweep => exact h
  | startSweeper _ => exact h.imp fun _ hs => SweeperPool.sweepers_spawn hs _
  | moveTimer d => exact h.moveTimer d w.cache now
  | stopSweeper j | releaseSweeper j =>
    have hne : j ≠ i := of_decide_eq_false hends
    exact h.imp fun _ hs => (w.sweepers.sweepers_onSweeper_of_ne hne _).trans hs

/-- An entry is gone, or else a sweeper waits for a deadline by which it will clear it away. -/
def ClearsBy (w : Workplace σ) (i : Nat) (bound : Instant) (subject : String) (e : Entry) : Prop :=
  w.cache.entries.get? subject ≠ some e ∨
    ∃ s deadline, w.sweepers.sweepers[i]? = some s ∧ s.status = .running deadline ∧
      w.sweepers.time < deadline ∧ deadline ≤ bound

/-- While an entry is closed and its sweeper is not ended, nothing is done that would keep it beyond
the deadline. -/
theorem ClearsBy.serve {w : Workplace σ} {i : Nat} {bound : Instant} {subject : String} {e : Entry}
    (h : w.ClearsBy i bound subject e) {now : Instant} (hclosed : e.resetAt ≤ now)
    {request : Request δ} (hends : request.ends i = false) :
    (w.serve limiters backend now request).state.ClearsBy i bound subject e := by
  have hnew : ¬ now < e.resetAt := Nat.not_lt_of_le hclosed
  rcases h with hgone | ⟨s, deadline, hs, hrunning, hahead, hbound⟩
  · exact .inl fun he =>
      (gainsLive_serve limiters backend w now request subject e he).elim hgone hnew
  · by_cases hdue : ∃ d, request = .moveTimer d ∧ deadline ≤ (w.sweepers.later d).time
    · obtain ⟨d, rfl, hreached⟩ := hdue
      refine .inl fun he => ?_
      have hswept : (w.sweepers.later d).IsDue :=
        ⟨s, List.mem_of_getElem? hs, deadline, hrunning, hreached⟩
      simp only [Workplace.serve, SweeperPool.cache_moveTimer_of_isDue d w.cache now hswept] at he
      rw [Cache.sweep, Table.get?_retain, Option.filter_eq_some_iff] at he
      exact hnew (of_decide_eq_true he.2)
    · refine .inr ⟨s, deadline, ?_, hrunning, ?_, hbound⟩
      · refine sweepers_serve_of_not_isDue limiters backend hs now hends ?_
        rintro d rfl ⟨deadline', hrunning', hreached⟩
        cases hrunning.symm.trans hrunning'
        exact hdue ⟨d, rfl, hreached⟩
      · rw [time_serve]
        split
        · rename_i d
          exact Nat.lt_of_not_le fun hreached => hdue ⟨d, rfl, hreached⟩
        · exact hahead

/-! ### Runs -/

theorem onTime_run {w : Workplace σ} (h : w.sweepers.OnTime)
    (requests : List (Instant × Request δ)) :
    (w.run limiters backend requests).1.sweepers.OnTime := by
  induction requests generalizing w with
  | nil => exact h
  | cons r rest ih => exact ih (onTime_serve limiters backend h r.1 r.2)

theorem isRunning_run {w : Workplace σ} {i : Nat} {interval : Span}
    (h : w.sweepers.IsRunning i interval) {requests : List (Instant × Request δ)}
    (hrequests : ∀ r ∈ requests, r.2.ends i = false) :
    (w.run limiters backend requests).1.sweepers.IsRunning i interval := by
  induction requests generalizing w with
  | nil => exact h
  | cons r rest ih =>
    obtain ⟨hends, hrest⟩ := List.forall_mem_cons.mp hrequests
    exact ih (isRunning_serve limiters backend h r.1 hends) hrest

theorem HasEnded.run {w : Workplace σ} {i : Nat} (h : w.HasEnded i)
    (requests : List (Instant × Request δ)) : (w.run limiters backend requests).1.HasEnded i := by
  induction requests generalizing w with
  | nil => exact h
  | cons r rest ih => exact ih (h.serve limiters backend r.1 r.2)

theorem ClearsBy.run {w : Workplace σ} {i : Nat} {bound : Instant} {subject : String} {e : Entry}
    (h : w.ClearsBy i bound subject e) {requests : List (Instant × Request δ)}
    (hrequests : ∀ r ∈ requests, e.resetAt ≤ r.1 ∧ r.2.ends i = false) :
    (w.run limiters backend requests).1.ClearsBy i bound subject e := by
  induction requests generalizing w with
  | nil => exact h
  | cons r rest ih =>
    obtain ⟨⟨hclosed, hends⟩, hrest⟩ := List.forall_mem_cons.mp hrequests
    exact ih (h.serve limiters backend hclosed hends) hrest

theorem lt_resetAt_of_run {w : Workplace σ} {subject : String} {e e' : Entry}
    {requests : List (Instant × Request δ)} (hclosed : ∀ r ∈ requests, e.resetAt ≤ r.1)
    (h : (w.run limiters backend requests).1.cache.entries.get? subject = some e') :
    w.cache.entries.get? subject = some e' ∨ e.resetAt < e'.resetAt := by
  induction requests generalizing w with
  | nil => exact .inl h
  | cons r rest ih =>
    obtain ⟨hfirst, hrest⟩ := List.forall_mem_cons.mp hclosed
    rcases ih hrest h with hkept | hlater
    · exact (gainsLive_serve limiters backend w r.1 r.2 subject e' hkept).imp id
        (Nat.lt_of_le_of_lt hfirst)
    · exact .inr hlater

/-- A move of the timer, made while the clock of the cache shows `now`, drops an entry. -/
def Drops (w : Workplace σ) (now : Instant) (d : Span) (subject : String) (e : Entry) : Prop :=
  w.cache.entries.get? subject = some e ∧
    (w.serve limiters backend now (.moveTimer d)).state.cache.entries.get? subject ≠ some e

/-- A move of the timer reaches the deadline of the running sweeper numbered `j`. -/
def Reaches (w : Workplace σ) (d : Span) (j : Nat) : Prop :=
  ∃ s, w.sweepers.sweepers[j]? = some s ∧ s.IsDue (w.sweepers.later d).time

theorem HasEnded.not_reaches {w : Workplace σ} {i : Nat} (h : w.HasEnded i) (d : Span) :
    ¬ w.Reaches d i := by
  obtain ⟨s, hs, hended⟩ := h
  rintro ⟨s', hs', deadline, hrunning, -⟩
  cases hs.symm.trans hs'
  cases hended.symm.trans hrunning

/-- What a move of the timer drops is closed, and a running sweeper has reached its deadline. -/
theorem of_drops {w : Workplace σ} {now : Instant} {d : Span} {subject : String} {e : Entry}
    (h : w.Drops limiters backend now d subject e) : e.resetAt ≤ now ∧ ∃ j, w.Reaches d j := by
  obtain ⟨hheld, hgone⟩ := h
  simp only [serve] at hgone
  by_cases hdue : (w.sweepers.later d).IsDue
  · obtain ⟨s, hs, hreached⟩ := id hdue
    obtain ⟨j, hj⟩ := List.mem_iff_getElem?.mp hs
    refine ⟨Nat.le_of_not_lt fun hlive => hgone ?_, j, s, hj, hreached⟩
    rw [SweeperPool.cache_moveTimer_of_isDue d w.cache now hdue, Cache.sweep, Table.get?_retain,
      hheld]
    exact Option.filter_some_pos (decide_eq_true hlive)
  · rw [SweeperPool.moveTimer_of_not_isDue d w.cache now hdue] at hgone
    exact absurd hheld hgone

theorem HasEnded.dropped_by_other {w : Workplace σ} {i : Nat} (h : w.HasEnded i) {now : Instant}
    {d : Span} {subject : String} {e : Entry} (hdrops : w.Drops limiters backend now d subject e) :
    ∃ j, j ≠ i ∧ w.Reaches d j := by
  obtain ⟨-, j, hj⟩ := of_drops limiters backend hdrops
  refine ⟨j, fun hji => ?_, hj⟩
  subst hji
  exact h.not_reaches d hj

theorem cache_serve_of_ends (w : Workplace σ) (now : Instant) {request : Request δ} {i : Nat}
    (hends : request.ends i = true) :
    (w.serve limiters backend now request).state.cache = w.cache := by
  cases request with
  | stopSweeper _ | releaseSweeper _ => rfl
  | read _ | overwrite | increment | clear | check | sweep | startSweeper _ | moveTimer _ =>
    cases hends

/-- A closed entry is gone once the timer has moved by the interval of a sweeper that is not ended
meanwhile. -/
theorem not_held_of_moved {w : Workplace σ} (honTime : w.sweepers.OnTime) {i : Nat} {s : Sweeper}
    {deadline : Instant} (hs : w.sweepers.sweepers[i]? = some s)
    (hrunning : s.status = .running deadline) (subject : String) {e : Entry}
    {later : List (Instant × Request δ)}
    (hlater : ∀ r ∈ later, e.resetAt ≤ r.1 ∧ r.2.ends i = false)
    (hmoved : w.sweepers.time.nanos + s.interval.nanos ≤
      (w.run limiters backend later).1.sweepers.time.nanos) :
    (w.run limiters backend later).1.cache.entries.get? subject ≠ some e := by
  obtain ⟨-, hahead, hbound⟩ := honTime s (List.mem_of_getElem? hs) deadline hrunning
  have hclears : w.ClearsBy i deadline subject e :=
    .inr ⟨s, deadline, hs, hrunning, hahead, Nat.le_refl _⟩
  -- the deadline has passed, so the sweeper has met it
  refine (hclears.run limiters backend hlater).resolve_right ?_
  rintro ⟨s', deadline', -, -, hahead', hbound'⟩
  simp only [Instant.lt_def, Instant.le_def] at hahead' hbound' hmoved hbound
  omega

/-- Sweepers clear away closed entries in time, nothing else, and nothing once they are ended. At
any point of a run that began without sweepers:

* a sweeper that is started with an interval runs, and goes on until a request ends it;
* the deadline of a running sweeper lies ahead, and at most an interval ahead;
* an entry that stays closed from there on is gone as soon as the timer has moved by the interval of
  a sweeper that is not ended meanwhile; if its subject is held then, it was written since;
* what a move of the timer drops is closed, and a running sweeper has reached its deadline;
* a sweeper that is ended stays so, and what is dropped later is dropped by another. -/
theorem clears_in_time (w₀ : Workplace σ) (hnone : w₀.sweepers.sweepers = [])
    (requests : List (Instant × Request δ)) :
    let w := (w₀.run limiters backend requests).1
    (∀ now interval, interval ≠ .zero →
      let i := w.sweepers.sweepers.length
      let started := (w.serve limiters backend now (.startSweeper interval)).state
      ∀ later : List (Instant × Request δ), (∀ r ∈ later, r.2.ends i = false) →
        (started.run limiters backend later).1.sweepers.IsRunning i interval) ∧
    (∀ s ∈ w.sweepers.sweepers, s.OnTime w.sweepers.time) ∧
    (∀ i s deadline, w.sweepers.sweepers[i]? = some s → s.status = .running deadline →
      ∀ subject e, w.cache.entries.get? subject = some e →
      ∀ later : List (Instant × Request δ), (∀ r ∈ later, e.resetAt ≤ r.1 ∧ r.2.ends i = false) →
      let w' := (w.run limiters backend later).1
      w.sweepers.time.nanos + s.interval.nanos ≤ w'.sweepers.time.nanos →
        (∀ e', w'.cache.entries.get? subject = some e' → e.resetAt < e'.resetAt) ∧
        ((∀ done, done <+: later → ∀ e',
            (w.run limiters backend done).1.cache.entries.get? subject = some e' → e' = e) →
          w'.cache.entries.get? subject = none)) ∧
    (∀ now d subject e, w.Drops limiters backend now d subject e →
      e.resetAt ≤ now ∧ ∃ j, w.Reaches d j) ∧
    (∀ i s, w.sweepers.sweepers[i]? = some s → ∀ now request, request.ends i = true →
      let ended := (w.serve limiters backend now request).state
      ended.cache = w.cache ∧
      ∀ later : List (Instant × Request δ),
      let w' := (ended.run limiters backend later).1
      w'.HasEnded i ∧
        ∀ now d subject e, w'.Drops limiters backend now d subject e →
          ∃ j, j ≠ i ∧ w'.Reaches d j) := by
  intro w
  have honTime : w.sweepers.OnTime :=
    onTime_run limiters backend (fun s hs => by rw [hnone] at hs; cases hs) requests
  refine ⟨?_, honTime, ?_, fun now d subject e => of_drops limiters backend, ?_⟩
  · intro now interval hinterval i started later hlater
    have hstarted : started.sweepers.IsRunning i interval :=
      w.sweepers.isRunning_spawn hinterval
    exact isRunning_run limiters backend hstarted hlater
  · intro i s deadline hs hrunning subject e he later hlater w' hmoved
    have hgone : w'.cache.entries.get? subject ≠ some e :=
      not_held_of_moved limiters backend honTime hs hrunning subject hlater hmoved
    have hlate : ∀ e', w'.cache.entries.get? subject = some e' → e.resetAt < e'.resetAt := by
      intro e' he'
      have hclosed : ∀ r ∈ later, e.resetAt ≤ r.1 := fun r hr => (hlater r hr).1
      refine (lt_resetAt_of_run limiters backend hclosed he').resolve_left fun hheld => ?_
      cases he.symm.trans hheld
      exact hgone he'
    refine ⟨hlate, fun honly => Option.eq_none_iff_forall_ne_some.mpr fun e' he' => ?_⟩
    cases honly later List.prefix_rfl e' he'
    exact hgone he'
  · intro i s hs now request hends ended
    have hended : ended.HasEnded i := hasEnded_of_ends limiters backend hs now hends
    refine ⟨cache_serve_of_ends limiters backend w now hends, fun later =>
      ⟨hended.run limiters backend later, fun now d subject e hdrops => ?_⟩⟩
    exact (hended.run limiters backend later).dropped_by_other limiters backend hdrops

/-- A sweeper is three ticks behind when its timer is moved, and reaches its next deadline after an
entry has closed. It then drops that entry, within an interval, and keeps the one of another
subject. Had it been let go of before, the closed entry would have stayed. Meanwhile a sweeper with
an interval of a minute is started, and it still runs after all others were let go of. -/
theorem clears_in_time_of_late_ticks :
    let limiters : Nat → Limiter := fun _ => { window := .ofSecs 1 }
    let backend (d : Delivery) : Store.Backend Relay := (Relay.service "memory").backend d
    let w₀ : Workplace Relay := { cache := .empty, store := .create .zero }
    let second : Instant := ⟨nanosPerSec⟩
    let minute : Instant := ⟨60 * nanosPerSec⟩
    let requests : List (Instant × Request Delivery) :=
      [(.zero, .startSweeper (.ofMillis 2)), (.zero, .startSweeper (.ofMillis 10)),
        (.zero, .overwrite "a" 1 3 (.ofSecs 1)), (.zero, .check 0 "b" 3 (.lostBefore .redis)),
        (.zero, .overwrite "b" 2 3 (.ofSecs 9)), (.zero, .stopSweeper 1),
        (.zero, .moveTimer (.ofMillis 7))]
    let later : List (Instant × Request Delivery) :=
      [(minute, .read "b"), (second, .moveTimer (.ofMillis 2))]
    let w := (w₀.run limiters backend requests).1
    let w' := (w.run limiters backend later).1
    let released := (w.serve limiters backend second (.releaseSweeper 0)).state
    let w'' := (released.run limiters backend later).1
    let started := (w.serve limiters backend second (.startSweeper (.ofSecs 60))).state
    let others : List (Instant × Request Delivery) :=
      [(second, .releaseSweeper 0), (second, .moveTimer (.ofSecs 90)), (minute, .stopSweeper 1)]
    w₀.sweepers.sweepers = [] ∧
      w.sweepers.sweepers.map (·.deadline?) = [some ⟨8000000⟩, none] ∧
      (started.run limiters backend others).1.sweepers.IsRunning 2 (.ofSecs 60) ∧
      w'.cache.entries.get? "a" = none ∧ (w'.cache.entries.get? "b").isSome = true ∧
      w''.HasEnded 0 ∧ w''.cache.entries.get? "a" = some ⟨1, 3, second⟩ := by
  intro limiters backend w₀ second minute requests later w w' released w'' started others
  have hnone : w₀.sweepers.sweepers = [] := rfl
  obtain ⟨hruns, -, hclears, -, hends⟩ := clears_in_time limiters backend w₀ hnone requests
  have ha : w.cache.entries.get? "a" = some ⟨1, 3, second⟩ := by decide +kernel +zetaReduce
  have hs : w.sweepers.sweepers[0]? = some ⟨.ofMillis 2, .running ⟨8000000⟩⟩ := by
    decide +kernel +zetaReduce
  have hlater : ∀ r ∈ later, second ≤ r.1 ∧ r.2.ends 0 = false := by decide +kernel +zetaReduce
  have hmoved : w.sweepers.time.nanos + (Span.ofMillis 2).nanos ≤ w'.sweepers.time.nanos := by
    decide +kernel +zetaReduce
  have hread : ((w.run limiters backend [(minute, .read "b")]).1.cache.entries.get? "a") =
      some ⟨1, 3, second⟩ := by decide +kernel +zetaReduce
  have hend : w'.cache.entries.get? "a" = none := by decide +kernel +zetaReduce
  have honly : ∀ done, done <+: later → ∀ e',
      (w.run limiters backend done).1.cache.entries.get? "a" = some e' → e' = ⟨1, 3, second⟩ := by
    intro done hdone e' he'
    rcases List.prefix_cons_iff.mp hdone with rfl | ⟨_, rfl, hrest⟩
    · exact Option.some.inj (he'.symm.trans ha)
    · rcases List.prefix_cons_iff.mp hrest with rfl | ⟨_, rfl, hnil⟩
      · exact Option.some.inj (he'.symm.trans hread)
      · obtain rfl := List.prefix_nil.mp hnil
        cases hend.symm.trans he'
  have hlength : w.sweepers.sweepers.length = 2 := by decide +kernel +zetaReduce
  have hminute := hruns second (.ofSecs 60) (by decide) others
    (by rw [hlength]; decide +zetaReduce)
  rw [hlength] at hminute
  obtain ⟨-, hgone⟩ := hclears 0 _ _ hs rfl "a" _ ha later hlater hmoved
  obtain ⟨-, hended⟩ := hends 0 _ hs second (.releaseSweeper 0) rfl
  exact ⟨hnone, by decide +kernel +zetaReduce, hminute, hgone honly, by decide +kernel +zetaReduce,
    (hended later).1, by decide +kernel +zetaReduce⟩

end Workplace

end FixedWindow
