import FixedWindow.Fleet
import FixedWindow.Proofs.Check
import FixedWindow.Store.Delivery
import FixedWindow.Sweeper

/-!
# The eviction of closed entries

The operations on a cache depend on it only through its live entries (`Cache.SeesLive`). Two caches
that show the same ones are therefore answered alike and go on showing the same ones, for as long as
the clock does not go back; and a sweep, or a tick of a sweeper, changes what is held and not what
is shown.

A `Workplace` is a cache with all that works on it. Its runs are lists of requests, each at an
instant. The requests that only bear on eviction may be put into a run or left out of it anywhere.

## Main definitions

* `Workplace`, `Workplace.Request`, `Workplace.Reply`, `Workplace.serve`, `Workplace.run`.
* `Workplace.Alike`: two workplaces that differ in closed entries and in their sweepers only.

## Main results

* `Cache.mem_rows_sweep`: what a sweep leaves.
* `SweeperPool.get?_moveTimer`: the ticks of sweepers change nothing that is shown.
* `Workplace.run_eviction`: eviction does not show in a run.
-/

namespace FixedWindow

/-- A sweep holds on to exactly what is shown. -/
theorem Cache.mem_rows_sweep (c : Cache) (now : Instant) (subject : String) (e : Entry) :
    (subject, e) ∈ (c.sweep now).state.entries.rows ↔ c.get? now subject = some e := by
  rw [get?, ← Table.get?_eq_some_iff, sweep, Table.get?_retain]

/-! ### Sweepers -/

namespace Sweeper

theorem get?_sweepTimes (cache : Cache) (now : Instant) (times : Nat) (subject : String) :
    (sweepTimes cache now times).state.get? now subject = cache.get? now subject := by
  induction times generalizing cache with
  | zero => rfl
  | succ n ih => exact (ih _).trans (cache.get?_sweep now subject)

theorem get?_wake (s : Sweeper) (time : Instant) (cache : Cache) (now : Instant)
    (subject : String) :
    (s.wake time cache now).state.2.get? now subject = cache.get? now subject := by
  unfold wake
  split
  · exact get?_sweepTimes cache now _ subject
  · rfl

end Sweeper

namespace SweeperPool

theorem get?_wakeEach (p : SweeperPool) (cache : Cache) (now : Instant) (is : List Nat)
    (subject : String) :
    (p.wakeEach cache now is).state.2.get? now subject = cache.get? now subject := by
  induction is generalizing p cache with
  | nil => rfl
  | cons i rest ih =>
    unfold wakeEach
    split
    · exact ih p cache
    · rename_i s _
      exact (ih _ _).trans (s.get?_wake p.time cache now subject)

/-- The ticks of sweepers change nothing that is shown, however far their timer is moved. -/
theorem get?_moveTimer (p : SweeperPool) (d : Span) (cache : Cache) (now : Instant)
    (subject : String) :
    (p.moveTimer d cache now).state.2.get? now subject = cache.get? now subject :=
  get?_wakeEach _ cache now _ subject

end SweeperPool

/-! ### A cache in use -/

/-- A cache with all that works on it: limiters, known by their numbers, over a store, and sweepers
on a timer of their own. -/
structure Workplace (σ : Type) where
  cache : Cache
  degraded : Nat → Bool := fun _ => false
  store : σ
  sweepers : SweeperPool := {}

namespace Workplace

open Store (Relay Delivery)

variable {σ δ : Type}

/-- What may be done at a workplace. A check comes with the way its call to the store fares, should
it make one. -/
inductive Request (δ : Type)
  | read (subject : String)
  | overwrite (subject : String) (count limit : Nat) (ttl : Span)
  | increment (subject : String) (limit : Nat) (window : Span)
  | clear
  | check (i : Nat) (subject : String) (limit : Nat) (fares : δ)
  | sweep
  | startSweeper (interval : Span)
  | moveTimer (d : Span)
  | stopSweeper (i : Nat)
  | releaseSweeper (i : Nat)
  deriving DecidableEq, Repr

/-- Whether the request is answered. The others only bear on when closed entries are dropped. -/
def Request.isAnswered : Request δ → Bool
  | read _ | overwrite .. | increment .. | clear | check .. => true
  | sweep | startSweeper _ | moveTimer _ | stopSweeper _ | releaseSweeper _ => false

/-- The answer to a request. -/
inductive Reply
  | found (e : Option Entry)
  | written (outcome : Except LimitError Entry)
  | cleared
  | decided (outcome : Except LimitError Decision)

/-- Does what a request asks for. -/
def serve (limiters : Nat → Limiter) (backend : δ → Store.Backend σ) (w : Workplace σ)
    (now : Instant) : Request δ → Effect (Workplace σ) (Option Reply)
  | .read subject => { answer := some (.found (w.cache.get? now subject)), state := w }
  | .overwrite subject count limit ttl =>
    let done := w.cache.overwrite now subject count limit ttl
    { answer := some (.written done.answer)
      state := { w with cache := done.state }
      log := done.log }
  | .increment subject limit window =>
    let done := w.cache.increment now subject limit window
    { answer := some (.written done.answer)
      state := { w with cache := done.state }
      log := done.log }
  | .clear =>
    let done := w.cache.clear
    { answer := some .cleared, state := { w with cache := done.state }, log := done.log }
  | .check i subject limit fares =>
    let done := (limiters i).check (backend fares) now subject limit
      ⟨w.degraded i, w.cache, w.store⟩
    { answer := some (.decided done.answer)
      state := { w with
        cache := done.state.cache
        degraded := Fleet.setAt w.degraded i done.state.degraded
        store := done.state.store }
      log := done.log }
  | .sweep =>
    let done := w.cache.sweep now
    { answer := none, state := { w with cache := done.state }, log := done.log }
  | .startSweeper interval =>
    let done := w.sweepers.spawn interval
    { answer := none, state := { w with sweepers := done.state }, log := done.log }
  | .moveTimer d =>
    let done := w.sweepers.moveTimer d w.cache now
    { answer := none
      state := { w with sweepers := done.state.1, cache := done.state.2 }
      log := done.log }
  | .stopSweeper i =>
    let done := w.sweepers.onSweeper i Sweeper.shutdown
    { answer := none, state := { w with sweepers := done.state }, log := done.log }
  | .releaseSweeper i =>
    let done := w.sweepers.onSweeper i Sweeper.release
    { answer := none, state := { w with sweepers := done.state }, log := done.log }

/-- A run of requests, each at an instant: the answers, each with the events that were written on
the way to it, and what is left at the end. -/
def run (limiters : Nat → Limiter) (backend : δ → Store.Backend σ) (w : Workplace σ) :
    List (Instant × Request δ) → Workplace σ × List (Reply × List Event)
  | [] => (w, [])
  | (now, request) :: rest =>
    let done := w.serve limiters backend now request
    let others := run limiters backend done.state rest
    (others.1, (done.answer.map (·, done.log)).toList ++ others.2)

/-- Two workplaces differ in closed entries and in their sweepers only. -/
structure Alike (w w' : Workplace σ) (now : Instant) : Prop where
  shown : ∀ subject, w.cache.get? now subject = w'.cache.get? now subject
  degraded : w.degraded = w'.degraded
  store : w.store = w'.store

namespace Alike

variable {w w' : Workplace σ} {now : Instant} (limiters : Nat → Limiter)
  (backend : δ → Store.Backend σ)

theorem refl (w : Workplace σ) (now : Instant) : w.Alike w now := ⟨fun _ => rfl, rfl, rfl⟩

theorem symm (h : w.Alike w' now) : w'.Alike w now :=
  ⟨fun subject => (h.shown subject).symm, h.degraded.symm, h.store.symm⟩

theorem trans {w'' : Workplace σ} (h : w.Alike w' now) (h' : w'.Alike w'' now) :
    w.Alike w'' now :=
  ⟨fun subject => (h.shown subject).trans (h'.shown subject), h.degraded.trans h'.degraded,
    h.store.trans h'.store⟩

theorem later (h : w.Alike w' now) {later : Instant} (hle : now ≤ later) : w.Alike w' later where
  shown subject := by
    rw [Cache.get?_later _ _ hle, Cache.get?_later _ _ hle, h.shown]
  degraded := h.degraded
  store := h.store

theorem of_not_isAnswered (h : w.Alike w' now) {request : Request δ}
    (hrequest : request.isAnswered = false) :
    (w.serve limiters backend now request).answer = none ∧
      (w.serve limiters backend now request).state.Alike w' now := by
  cases request with
  | sweep =>
    exact ⟨rfl, fun subject => (w.cache.get?_sweep now subject).trans (h.shown subject),
      h.degraded, h.store⟩
  | moveTimer d =>
    exact ⟨rfl, fun subject => (w.sweepers.get?_moveTimer d w.cache now subject).trans
      (h.shown subject), h.degraded, h.store⟩
  | startSweeper _ | stopSweeper _ | releaseSweeper _ =>
    exact ⟨rfl, h.shown, h.degraded, h.store⟩
  | read _ | overwrite | increment | clear | check => cases hrequest

theorem shown_putAny (h : w.Alike w' now) (subject : String) (written : Option Entry)
    (other : String) :
    (w.cache.putAny subject written).get? now other =
      (w'.cache.putAny subject written).get? now other :=
  Cache.get?_putAny_congr (h.shown other) written

theorem of_seesLive {α : Type} (h : w.Alike w' now) {subject : String}
    {op : Cache → Effect Cache α} (hop : Cache.SeesLive now subject op) :
    (op w.cache).answer = (op w'.cache).answer ∧ (op w.cache).log = (op w'.cache).log ∧
      Alike { w with cache := (op w.cache).state } { w' with cache := (op w'.cache).state }
        now := by
  obtain ⟨answer, written, log, hc, hc'⟩ := hop w.cache w'.cache (h.shown subject)
  rw [hc, hc']
  exact ⟨rfl, rfl, h.shown_putAny subject written, h.degraded, h.store⟩

/-- A request of any other kind is answered alike, with the same events, and leaves the two
alike. -/
theorem serve (h : w.Alike w' now) (request : Request δ) (hrequest : request.isAnswered = true) :
    let done := w.serve limiters backend now request
    let done' := w'.serve limiters backend now request
    done.answer = done'.answer ∧ done.log = done'.log ∧ done.state.Alike done'.state now := by
  cases request with
  | read subject => exact ⟨congrArg (some ∘ Reply.found) (h.shown subject), rfl, h⟩
  | overwrite subject count limit ttl =>
    obtain ⟨hanswer, hlog, halike⟩ :=
      h.of_seesLive (Cache.seesLive_overwrite now subject count limit ttl)
    exact ⟨congrArg (some ∘ Reply.written) hanswer, hlog, halike⟩
  | increment subject limit window =>
    obtain ⟨hanswer, hlog, halike⟩ :=
      h.of_seesLive (Cache.seesLive_increment now subject limit window)
    exact ⟨congrArg (some ∘ Reply.written) hanswer, hlog, halike⟩
  | clear => exact ⟨rfl, rfl, fun _ => rfl, h.degraded, h.store⟩
  | check i subject limit fares =>
    obtain ⟨decided, flag, written, store, log, hc, hc'⟩ := (limiters i).check_seesLive
      (backend fares) subject limit (w.degraded i) w.store (h.shown subject)
    rw [h.degraded, h.store] at hc'
    simp only [Workplace.serve, hc, hc']
    exact ⟨trivial, trivial, h.shown_putAny subject written, by simp only [h.degraded], rfl⟩
  | sweep | startSweeper _ | moveTimer _ | stopSweeper _ | releaseSweeper _ => cases hrequest

/-- A run beside the same run without the requests that only bear on eviction. -/
theorem run (h : w.Alike w' now) {requests : List (Instant × Request δ)}
    (hlater : ∀ r ∈ requests, now ≤ r.1) (hforward : requests.Pairwise fun a b => a.1 ≤ b.1) :
    let done := w.run limiters backend requests
    let done' := w'.run limiters backend (requests.filter (·.2.isAnswered))
    done.2 = done'.2 ∧ ∀ later, now ≤ later → (∀ r ∈ requests, r.1 ≤ later) →
      done.1.Alike done'.1 later := by
  induction requests generalizing w w' now with
  | nil => exact ⟨rfl, fun later hle _ => h.later hle⟩
  | cons r rest ih =>
    obtain ⟨time, request⟩ := r
    obtain ⟨hrest, hforward⟩ := List.pairwise_cons.mp hforward
    have htime := h.later (hlater _ List.mem_cons_self)
    cases hrequest : request.isAnswered with
    | true =>
      obtain ⟨hanswer, hlog, halike⟩ := htime.serve limiters backend request hrequest
      obtain ⟨hreplies, hend⟩ := ih halike hrest hforward
      have hkept : ((time, request) :: rest).filter (·.2.isAnswered) =
          (time, request) :: rest.filter (·.2.isAnswered) := List.filter_cons_of_pos hrequest
      simp only [hkept, Workplace.run, hanswer, hlog, hreplies, true_and]
      rintro later - hbefore
      obtain ⟨hnext, hothers⟩ := List.forall_mem_cons.mp hbefore
      exact hend later hnext hothers
    | false =>
      obtain ⟨hanswer, halike⟩ := htime.of_not_isAnswered limiters backend hrequest
      obtain ⟨hreplies, hend⟩ := ih halike hrest hforward
      have hdropped : ((time, request) :: rest).filter (·.2.isAnswered) =
          rest.filter (·.2.isAnswered) := List.filter_cons_of_neg (Bool.not_eq_true _ ▸ hrequest)
      simp only [hdropped, Workplace.run, hanswer, Option.map_none, Option.toList_none,
        List.nil_append]
      refine ⟨hreplies, fun later _ hbefore => ?_⟩
      obtain ⟨hnext, hothers⟩ := List.forall_mem_cons.mp hbefore
      exact hend later hnext hothers

end Alike

/-- Eviction does not show. Two runs that go forward and make the same requests, apart from those
that only bear on eviction, are answered alike, with the same events, and leave the same to be seen;
and a sweep changes nothing that is shown and holds on to exactly that. -/
theorem run_eviction (limiters : Nat → Limiter) (backend : δ → Store.Backend σ) (w : Workplace σ)
    (requests others : List (Instant × Request δ))
    (hrequests : requests.Pairwise fun a b => a.1 ≤ b.1)
    (hothers : others.Pairwise fun a b => a.1 ≤ b.1)
    (hsame : others.filter (·.2.isAnswered) = requests.filter (·.2.isAnswered)) :
    let done := w.run limiters backend requests
    let other := w.run limiters backend others
    (other.2 = done.2 ∧ ∀ later, (∀ r ∈ requests, r.1 ≤ later) → (∀ r ∈ others, r.1 ≤ later) →
      other.1.Alike done.1 later) ∧
    ∀ (c : Cache) (now : Instant) (subject : String) (e : Entry),
      let swept := (c.sweep now).state
      swept.get? now subject = c.get? now subject ∧
        ((subject, e) ∈ swept.entries.rows ↔ swept.get? now subject = some e) := by
  obtain ⟨hreplies, hend⟩ :=
    (Alike.refl w .zero).run limiters backend (fun r _ => Nat.zero_le r.1.nanos) hrequests
  obtain ⟨hreplies', hend'⟩ :=
    (Alike.refl w .zero).run limiters backend (fun r _ => Nat.zero_le r.1.nanos) hothers
  rw [hsame] at hreplies' hend'
  refine ⟨⟨hreplies'.trans hreplies.symm, fun later hbefore hbefore' => ?_⟩, ?_⟩
  · exact (hend' later (Nat.zero_le _) hbefore').trans (hend later (Nat.zero_le _) hbefore).symm
  · intro c now subject e
    have hshown := c.get?_sweep now subject
    exact ⟨hshown, (c.mem_rows_sweep now subject e).trans (by rw [hshown])⟩

/-- A closed entry is counted in, checked and written over. It makes no difference whether it was
dropped before, by a sweep or by a sweeper that came late, except to the number of entries that are
held. -/
theorem run_eviction_of_late_sweeper :
    let w : Workplace Relay := { cache := .empty, store := .create .zero }
    let backend (d : Delivery) : Store.Backend Relay := (Relay.service "memory").backend d
    let run (requests : List (Instant × Request Delivery)) :=
      w.run (fun _ => { window := .ofSecs 1 }) backend requests
    let lost : Delivery := .lostBefore .redis
    let second : Instant := ⟨nanosPerSec⟩
    let third : Instant := ⟨2 * nanosPerSec⟩
    let kept : List (Instant × Request Delivery) :=
      [(.zero, .overwrite "a" 9 3 (.ofSecs 1)), (.zero, .overwrite "b" 1 1 (.ofSecs 1)),
        (.zero, .check 0 "b" 1 .sound), (second, .increment "a" 3 (.ofSecs 1)),
        (second, .check 0 "b" 1 lost), (second, .read "b"), (third, .read "a"),
        (third, .check 1 "b" 2 .sound)]
    let swept : List (Instant × Request Delivery) :=
      [(.zero, .startSweeper (.ofMillis 100)), (.zero, .overwrite "a" 9 3 (.ofSecs 1)),
        (.zero, .overwrite "b" 1 1 (.ofSecs 1)), (.zero, .sweep), (.zero, .check 0 "b" 1 .sound),
        (second, .moveTimer (.ofSecs 1)), (second, .increment "a" 3 (.ofSecs 1)),
        (second, .check 0 "b" 1 lost), (second, .read "b"), (third, .sweep), (third, .read "a"),
        (third, .check 1 "b" 2 .sound), (third, .sweep)]
    (run swept).2 = (run kept).2 ∧ (run swept).1.Alike (run kept).1 third ∧
      (run swept).1.cache.size = 1 ∧ (run kept).1.cache.size = 2 := by
  intro w backend run lost second third kept swept
  obtain ⟨⟨hreplies, halike⟩, -⟩ := run_eviction (fun _ => { window := .ofSecs 1 }) backend w kept
    swept (by decide +zetaReduce) (by decide +zetaReduce) (by decide +zetaReduce)
  exact ⟨hreplies, halike third (by decide +zetaReduce) (by decide +zetaReduce),
    by decide +kernel +zetaReduce, by decide +kernel +zetaReduce⟩

end Workplace

end FixedWindow
