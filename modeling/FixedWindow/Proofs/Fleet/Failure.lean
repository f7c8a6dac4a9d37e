import FixedWindow.Proofs.Fleet.Outcome

/-!
# When a check fails

A check of a subject under a positive limit fails in one case only: no window of the subject is open
in the cache, and the clock cannot hold a new one. The store refuses such a call in the same way as
the local tier does, so that nothing is counted anywhere. In every other case a decision is made,
whatever becomes of the call to the store and however the clock moves.

What carries this is a bound on the windows that the store holds. None of them ends beyond the
clock, not even one that has closed, and might be found open again when the clock goes back; so the
local tier never refuses the store's figures. If the clock never goes back, no window that is seen
ends later than the longest window from now.

## Main definitions

* `Store.Memory.EndsBy`: a bound on the windows that the store holds, open or not.
* `Fleet.EndsWithin`: a bound on the windows ahead, in both tiers.

## Main results

* `Fleet.endsBy_step`, `Fleet.EndsWithin.step`: the bounds are kept by every step.
* `Fleet.decided_or_refused`, `Fleet.error_check_iff`: a check is refused in one case, and decides
  in all others.
* `Fleet.exists_end_of_check`: the reset that a decision announces is the end of an open window.
* `Fleet.failures_and_resets`: in a run, when checks fail, and which resets are announced.
-/

namespace FixedWindow

theorem Instant.le_of_add?_of_le {t u : Instant} {d longest : Span} (h : t.add? d = some u)
    (hd : d ≤ longest) : u ≤ ⟨t.nanos + longest.nanos⟩ := by
  obtain ⟨-, rfl⟩ := add?_eq_some_iff.mp h
  exact Nat.add_le_add_left hd _

/-! ### The windows that the store holds -/

namespace Store.Memory

variable {m : Memory} {bound : Instant}

/-- No window that the store holds, open or not, ends after the bound. -/
def EndsBy (m : Memory) (bound : Instant) : Prop :=
  ∀ key c, m.counters.get? key = some c → c.expiresAt ≤ bound

theorem endsBy_create (now bound : Instant) : (create now).EndsBy bound := by
  intro key c hc
  cases hc

theorem EndsBy.mono (h : m.EndsBy bound) {later : Instant} (hle : bound ≤ later) :
    m.EndsBy later :=
  fun key c hc => Nat.le_trans (h key c hc) hle

theorem EndsBy.closesAt_le (h : m.EndsBy bound) {now : Instant} {key : String} {t : Tally}
    (ht : m.tally? now key = some t) : t.closesAt ≤ bound := by
  obtain ⟨c, hc, rfl⟩ := Option.map_eq_some_iff.mp ht
  exact h key c (Option.filter_eq_some_iff.mp hc).1

theorem EndsBy.sweep (h : m.EndsBy bound) (now : Instant) : (m.sweep now).state.EndsBy bound := by
  intro key c hc
  rw [Memory.sweep, Table.get?_retain] at hc
  exact h key c (Option.filter_eq_some_iff.mp hc).1

/-- A call keeps the bound if a window that it opens does. -/
theorem EndsBy.increment (h : m.EndsBy bound) {now : Instant} {call : Call}
    (hnew : ∀ newEnd, now.add? call.window = some newEnd → newEnd ≤ bound) :
    (m.increment now call).state.EndsBy bound := by
  cases hend : now.add? call.window with
  | none =>
    rw [increment_of_add?_eq_none m hend]
    exact h
  | some newEnd =>
    have hpass : (m.sweepIfDue now call.window).state.EndsBy bound := by
      unfold sweepIfDue
      split
      · exact h
      · exact h.sweep now
    intro key c hc
    simp only [Memory.increment, hend, Table.get?_insert] at hc
    split at hc
    · cases hc
      cases hlive : (m.sweepIfDue now call.window).state.live? now call.key with
      | none => exact hnew newEnd hend
      | some live => exact hpass call.key live (Option.filter_eq_some_iff.mp hlive).1
    · exact hpass key c hc

end Store.Memory

namespace Fleet

open Store (Relay Delivery)

/-- Every step keeps a bound on the windows that the store holds, if those that it may open keep
it. -/
theorem endsBy_step (members : Nat → Member) (name : String) {f : Fleet Relay} {s : Step Delivery}
    {bound : Instant} (h : f.store.inner.EndsBy bound)
    (hnew : s.OnCheck fun i _ _ _ =>
      ∀ newEnd, f.now.add? (members i).limiter.window = some newEnd → newEnd ≤ bound) :
    (f.step members (Relay.service name) s).state.store.inner.EndsBy bound := by
  cases s with
  | set time => exact h
  | sweepCache i => exact h
  | sweepStore => exact h.sweep f.now
  | check i raw limit fares =>
    rcases (members i).limiter.store_check ((Relay.service name).backend fares) f.now raw limit
      (f.tiers (members i) i) with hstore | ⟨s, -, hstore⟩
    · exact (congrArg (·.inner.EndsBy bound) hstore).mpr h
    · refine (congrArg (·.inner.EndsBy bound) hstore).mpr ?_
      rcases Relay.inner_increment fares f.store f.now
        ⟨s.storeKey (members i).limiter.keyPrefix, (members i).limiter.window⟩ with hinner | hinner
      · exact hinner ▸ h
      · exact hinner ▸ h.increment hnew

/-! ### One check -/

section Check

variable (members : Nat → Member) (name : String) {f : Fleet Relay} (i : Nat) (subject : Subject)
  {limit : Nat} {d : Delivery}

theorem inner_check_of_add?_eq_none (raw : String) (limit : Nat) (hplain : d.IsPlain)
    (hend : f.now.add? (members i).limiter.window = none) :
    (f.check members ((Relay.service name).backend d) i raw limit).state.store.inner =
      f.store.inner := by
  rcases (members i).limiter.store_check ((Relay.service name).backend d) f.now raw limit
    (f.tiers (members i) i) with hstore | ⟨s, -, hstore⟩
  · exact congrArg Relay.inner hstore
  · exact (congrArg Relay.inner hstore).trans
      (Relay.increment_of_add?_eq_none hplain f.store _ hend).2

/-- A decision is the answer to a check of a subject under a positive limit. -/
theorem exists_check_of_ok {s : Step Delivery} {dec : Decision}
    (h : (f.passage members (Relay.service name) s).answer = some (.ok dec)) :
    ∃ i subject limit fares, s = .check i (Subject.text subject) limit fares ∧ 0 < limit ∧
      (f.check members ((Relay.service name).backend fares) i subject.text limit).answer =
        .ok dec := by
  cases s with
  | check i raw limit fares =>
    have hanswer := Option.some.inj h
    have hraw : raw ≠ "" := by
      rintro rfl
      rw [check_of_empty] at hanswer
      cases hanswer
    refine ⟨i, ⟨raw, hraw⟩, limit, fares, rfl, Nat.pos_of_ne_zero ?_, hanswer⟩
    rintro rfl
    rw [check_of_zero members i _ f ⟨raw, hraw⟩] at hanswer
    cases hanswer
  | set _ | sweepCache _ | sweepStore => cases h

variable (hplain : d.IsPlain) (hlimit : 0 < limit) (hword : limit ≤ maxCount)
  (hwindow : (members i).limiter.window ≠ .zero) (hlast : f.store.inner.EndsBy Instant.last)

include hplain hlimit hword hwindow hlast

theorem outcome_alone :
    f.Outcome (fun _ => members i) i subject limit
      (subject.storeKey (members i).limiter.keyPrefix)
      (f.check members ((Relay.service name).backend d) i subject.text limit) :=
  outcome_check (fun _ => rfl) name i subject hplain hlimit hword hwindow
    fun _ => hlast.closesAt_le

/-- A check is refused if no window of the subject is open in the cache and the clock cannot hold a
new one; then nothing is counted in either tier. Otherwise a decision is made. -/
theorem decided_or_refused :
    let done := f.check members ((Relay.service name).backend d) i subject.text limit
    let window := (members i).limiter.window
    let lacksWindow := f.live? (members i).cache subject.text = none ∧ f.now.add? window = none
    ((∃ dec, done.answer = .ok dec) ∧ ¬ lacksWindow) ∨
      lacksWindow ∧ done.answer = .error (.invariant (.clockOverflow window)) ∧
        done.state.caches = f.caches ∧ done.state.store.inner = f.store.inner := by
  intro done window lacksWindow
  have hcached (hlacks : lacksWindow) : f.cached? (members i).cache subject.text = none := by
    rw [cached?_eq_map, hlacks.1, Option.map_none]
  cases outcome_alone members name i subject hplain hlimit hword hwindow hlast with
  | denied t ht hfull hanswer hstate =>
    exact .inl ⟨⟨_, hanswer⟩, fun hlacks => by cases ht.symm.trans (hcached hlacks)⟩
  | answered newEnd hend hroom hadopts hstored =>
    exact .inl ⟨⟨_, hadopts.answer⟩, fun hlacks => by cases hend.symm.trans hlacks.2⟩
  | counted newEnd hend hroom hadopts hstored =>
    exact .inl ⟨⟨_, hadopts.answer⟩, fun hlacks => by
      cases (hend (hcached hlacks)).symm.trans hlacks.2⟩
  | refused hnone hend hanswer hcaches hstored =>
    exact .inr ⟨⟨Option.map_eq_none_iff.mp hnone, hend⟩, hanswer, hcaches,
      inner_check_of_add?_eq_none members name i subject.text limit hplain hend⟩

/-- A check fails only by being refused. -/
theorem error_check_iff :
    let done := f.check members ((Relay.service name).backend d) i subject.text limit
    let window := (members i).limiter.window
    ((∃ e, done.answer = .error e) ↔
        f.live? (members i).cache subject.text = none ∧ f.now.add? window = none) ∧
      ∀ e, done.answer = .error e → e = .invariant (.clockOverflow window) ∧
        done.state.caches = f.caches ∧ done.state.store.inner = f.store.inner := by
  intro done window
  rcases decided_or_refused members name i subject hplain hlimit hword hwindow hlast
    with ⟨⟨dec, hanswer⟩, hnot⟩ | ⟨hlacks, hanswer, hcaches, hinner⟩
  · have hnever (e : LimitError) : done.answer ≠ .error e := fun he => by
      cases hanswer.symm.trans he
    exact ⟨iff_of_false (fun ⟨e, he⟩ => hnever e he) hnot, fun e he => (hnever e he).elim⟩
  · refine ⟨iff_of_true ⟨_, hanswer⟩ hlacks, fun e he => ?_⟩
    cases hanswer.symm.trans he
    exact ⟨rfl, hcaches, hinner⟩

/-- The reset that a decision announces is the end of a window that is open in one of the tiers, or
of the one that the check opens. -/
theorem exists_end_of_check {dec : Decision}
    (hanswer : (f.check members ((Relay.service name).backend d) i subject.text limit).answer =
      .ok dec) :
    ∃ closesAt, f.now < closesAt ∧ dec.resetIn = closesAt.since f.now ∧
      ((∃ t, f.cached? (members i).cache subject.text = some t ∧ t.closesAt = closesAt) ∨
        (∃ t, f.stored? (subject.storeKey (members i).limiter.keyPrefix) = some t ∧
          t.closesAt = closesAt) ∨
        f.now.add? (members i).limiter.window = some closesAt) := by
  cases outcome_alone members name i subject hplain hlimit hword hwindow hlast with
  | denied t ht hfull htold hstate =>
    cases hanswer.symm.trans htold
    exact ⟨t.closesAt, lt_of_cached? ht, rfl, .inl ⟨t, ht, rfl⟩⟩
  | answered newEnd hend hroom hadopts hstored =>
    cases hanswer.symm.trans hadopts.answer
    cases hopen : f.stored? (subject.storeKey (members i).limiter.keyPrefix) with
    | none => exact ⟨newEnd, Instant.lt_of_add? hend hwindow, rfl, .inr (.inr hend)⟩
    | some t => exact ⟨t.closesAt, lt_of_stored? hopen, rfl, .inr (.inl ⟨t, rfl, rfl⟩)⟩
  | counted newEnd hend hroom hadopts hstored =>
    cases hanswer.symm.trans hadopts.answer
    cases hopen : f.cached? (members i).cache subject.text with
    | none => exact ⟨newEnd, Instant.lt_of_add? (hend hopen) hwindow, rfl, .inr (.inr (hend hopen))⟩
    | some t => exact ⟨t.closesAt, lt_of_cached? hopen, rfl, .inl ⟨t, rfl, rfl⟩⟩
  | refused hnone hend hrefused hcaches hstored => cases hanswer.symm.trans hrefused

end Check

/-! ### Runs -/

/-- No window ends later than the given span from now: none that is seen in a cache, and none that
the store holds. -/
structure EndsWithin (f : Fleet Relay) (longest : Span) : Prop where
  cached : ∀ j subject t, f.cached? j subject = some t →
    t.closesAt ≤ ⟨f.now.nanos + longest.nanos⟩
  held : f.store.inner.EndsBy ⟨f.now.nanos + longest.nanos⟩

theorem endsWithin_fresh (now : Instant) (longest : Span) : (fresh now).EndsWithin longest where
  cached _ _ _ ht := by cases ht
  held := Store.Memory.endsBy_create now _

section Run

variable {members : Nat → Member} (hwindow : ∀ i, (members i).limiter.window ≠ .zero)
  (name : String) {f : Fleet Relay} {s : Step Delivery}
  (hlast : f.store.inner.EndsBy Instant.last)
  (hvalid : s.OnCheck fun _ _ limit fares => limit ≤ maxCount ∧ fares.IsPlain)

include hwindow hlast hvalid

/-- A decision announces the end of a window that lies ahead, and within any span that bounds the
windows of the fleet and of the limiter. -/
theorem announced_of_ok {dec : Decision}
    (h : (f.passage members (Relay.service name) s).answer = some (.ok dec)) :
    Span.zero < dec.resetIn ∧
      ∀ longest, f.EndsWithin longest →
        (s.OnCheck fun i _ _ _ => (members i).limiter.window ≤ longest) →
        dec.resetIn ≤ longest := by
  obtain ⟨i, subject, limit, fares, rfl, hlimit, hanswer⟩ := exists_check_of_ok members name h
  obtain ⟨closesAt, hopen, hreset, hend⟩ :=
    exists_end_of_check members name i subject hvalid.2 hlimit hvalid.1 (hwindow i) hlast hanswer
  have hnanos : dec.resetIn.nanos = closesAt.nanos - f.now.nanos := congrArg Span.nanos hreset
  refine ⟨?_, fun longest hwithin hspan => ?_⟩
  · have hpos := Instant.lt_def.mp hopen
    show 0 < dec.resetIn.nanos
    omega
  · have hbound : closesAt.nanos ≤ f.now.nanos + longest.nanos := by
      rcases hend with ⟨t, ht, rfl⟩ | ⟨t, ht, rfl⟩ | hnew
      · exact hwithin.cached _ _ t ht
      · exact hwithin.held.closesAt_le ht
      · exact Instant.le_of_add?_of_le hnew hspan
    show dec.resetIn.nanos ≤ longest.nanos
    omega

omit hvalid in
/-- A check puts no window in a cache that ends later than those of the fleet and of its limiter. -/
theorem EndsWithin.cached_check {longest : Span} (h : f.EndsWithin longest) {i : Nat}
    (subject : Subject) {limit : Nat} {fares : Delivery} (hplain : fares.IsPlain)
    (hlimit : 0 < limit) (hword : limit ≤ maxCount)
    (hspan : (members i).limiter.window ≤ longest) {j : Nat} {other : String} {t : Tally}
    (ht : (f.check members ((Relay.service name).backend fares) i subject.text limit).state.cached?
      j other = some t) :
    t.closesAt ≤ ⟨f.now.nanos + longest.nanos⟩ := by
  have hadopted {adopted : Tally} {source : Source}
      (hadopts : f.Adopts (members i).cache subject.text limit adopted source
        (f.check members ((Relay.service name).backend fares) i subject.text limit))
      (hends : adopted.closesAt ≤ ⟨f.now.nanos + longest.nanos⟩) :
      t.closesAt ≤ ⟨f.now.nanos + longest.nanos⟩ := by
    rw [hadopts.cached] at ht
    split at ht
    · cases ht
      exact hends
    · exact h.cached j other t ht
  cases outcome_alone members name i subject hplain hlimit hword (hwindow i) hlast with
  | denied u hu hfull hanswer hstate =>
    rw [hstate] at ht
    exact h.cached j other t ht
  | answered newEnd hend hroom hadopts hstored =>
    exact hadopted hadopts (Tally.closesAt_next (P := (· ≤ ⟨f.now.nanos + longest.nanos⟩))
      (fun _ => h.held.closesAt_le) fun _ => Instant.le_of_add?_of_le hend hspan)
  | counted newEnd hend hroom hadopts hstored =>
    exact hadopted hadopts (Tally.closesAt_next (P := (· ≤ ⟨f.now.nanos + longest.nanos⟩))
      (h.cached _ _) fun hnone => Instant.le_of_add?_of_le (hend hnone) hspan)
  | refused hnone hend hanswer hcaches hstored =>
    rw [cached?, hcaches] at ht
    exact h.cached j other t ht

/-- If the clock does not go back, a span that bounds the windows of all limiters keeps bounding the
windows of the fleet. -/
theorem EndsWithin.step {longest : Span} (h : f.EndsWithin longest)
    (hforward : f.now ≤ s.clock f.now)
    (hspan : s.OnCheck fun i _ _ _ => (members i).limiter.window ≤ longest) :
    (f.step members (Relay.service name) s).state.EndsWithin longest := by
  have hlater : (⟨f.now.nanos + longest.nanos⟩ : Instant) ≤
      ⟨(s.clock f.now).nanos + longest.nanos⟩ := Nat.add_le_add_right hforward _
  constructor
  · intro j other t ht
    rw [now_step]
    cases s with
    | set _ | sweepCache _ | sweepStore =>
      rw [cached?_step members _ f j rfl hforward] at ht
      exact Nat.le_trans (h.cached j other t (Tally.open?_eq_some_iff.mp ht).1) hlater
    | check i raw limit fares =>
      by_cases hraw : raw = ""
      · subst hraw
        rw [Fleet.step, check_of_empty] at ht
        exact h.cached j other t ht
      rcases Nat.eq_zero_or_pos limit with rfl | hlimit
      · rw [Fleet.step, check_of_zero members i _ f ⟨raw, hraw⟩] at ht
        exact h.cached j other t ht
      · exact h.cached_check hwindow name hlast ⟨raw, hraw⟩ hvalid.2 hlimit hvalid.1 hspan ht
  · rw [now_step]
    refine endsBy_step members name (h.held.mono hlater) ?_
    cases s with
    | set _ | sweepCache _ | sweepStore => trivial
    | check i raw limit fares =>
      intro newEnd hend
      exact Nat.le_trans (Instant.le_of_add?_of_le hend hspan) hlater

omit hwindow hvalid

theorem endsBy_last_step :
    (f.step members (Relay.service name) s).state.store.inner.EndsBy Instant.last := by
  refine endsBy_step members name hlast ?_
  cases s with
  | set _ | sweepCache _ | sweepStore => trivial
  | check i raw limit fares => exact fun _ => Instant.le_last_of_add?

end Run

/-- In a run over an in-memory store whose calls succeed, fail before they are applied or fail
after, and in which the clock moves in any way, a check of a subject under a positive limit of 64
bits fails exactly if the subject has no live entry in the cache and the window would end after the
last instant of the clock. The failure names that window, and the caches and the store stay as they
are. Every decision announces a reset that lies ahead; if the clock never goes back, it lies no
further ahead than the longest window of the limiters that make checks. -/
theorem failures_and_resets (members : Nat → Member) (name : String)
    (hwindow : ∀ i, (members i).limiter.window ≠ .zero) (start : Instant)
    (steps : List (Step Delivery))
    (hsteps : ∀ s ∈ steps, s.OnCheck fun _ _ limit fares => limit ≤ maxCount ∧ fares.IsPlain) :
    let ps := (fresh start).passages members (Relay.service name) steps
    (∀ p ∈ ps, p.step.OnCheck fun i raw limit _ => raw ≠ "" → 0 < limit →
        let window := (members i).limiter.window
        ((∃ e, p.answer = some (.error e)) ↔
            p.before.live? (members i).cache raw = none ∧
              Instant.last.nanos < p.before.now.nanos + window.nanos) ∧
          ∀ e, p.answer = some (.error e) → e = .invariant (.clockOverflow window) ∧
            p.after.caches = p.before.caches ∧ p.after.store.inner = p.before.store.inner) ∧
      (∀ p ∈ ps, ∀ d, p.answer = some (.ok d) → Span.zero < d.resetIn) ∧
      ∀ longest, Forward start steps →
        (∀ s ∈ steps, s.OnCheck fun i _ _ _ => (members i).limiter.window ≤ longest) →
        ∀ p ∈ ps, ∀ d, p.answer = some (.ok d) → d.resetIn ≤ longest := by
  intro ps
  have hvalid := along_of_forall (P := fun _ s => s.OnCheck fun _ _ limit fares =>
    limit ≤ maxCount ∧ fares.IsPlain) (fun s hs _ => hsteps s hs) start
  have hrun := forall_passages members (Relay.service name) (f := fresh start)
    (I := fun g => g.store.inner.EndsBy Instant.last)
    (fun _ _ hlast _ => endsBy_last_step name hlast) (Store.Memory.endsBy_create start _) hvalid
  refine ⟨fun p hp => ?_, fun p hp d hanswer => ?_, fun longest hforward hspan p hp d hanswer => ?_⟩
  · obtain ⟨g, s, rfl, hlast, hs⟩ := hrun p hp
    cases s with
    | check i raw limit fares =>
      intro hraw hlimit window
      rw [← Instant.add?_eq_none_iff]
      simp only [passage, Passage.answer, Fleet.step, Option.some.injEq]
      exact error_check_iff members name i ⟨raw, hraw⟩ hs.2 hlimit hs.1 (hwindow i) hlast
    | set _ | sweepCache _ | sweepStore => trivial
  · obtain ⟨g, s, rfl, hlast, hs⟩ := hrun p hp
    exact (announced_of_ok hwindow name hlast hs hanswer).1
  · have hbounded := forall_passages members (Relay.service name) (f := fresh start)
      (I := fun g => g.store.inner.EndsBy Instant.last ∧ g.EndsWithin longest)
      (fun _ _ hg hs => ⟨endsBy_last_step name hg.1,
        hg.2.step hwindow name hg.1 hs.1.1 hs.1.2 hs.2⟩)
      ⟨Store.Memory.endsBy_create start _, endsWithin_fresh start longest⟩
      ((hvalid.and hforward).and (along_of_forall (fun s hs _ => hspan s hs) start))
    obtain ⟨g, s, rfl, ⟨hlast, hwithin⟩, hs⟩ := hbounded p hp
    exact (announced_of_ok hwindow name hlast hs.1.1 hanswer).2 longest hwithin hs.2

/-- Two limiters with prefixes of their own share a cache. The first opens a window that ends at the
last instant of the clock, the second counts in it locally, since the store cannot hold its longer
window; at the last instant no window is open and the check fails. When the clock is set back, the
window is seen again. -/
theorem failures_and_resets_at_last_instant :
    let members (i : Nat) : Member :=
      ⟨{ window := ⟨5 + 2 * i⟩, keyPrefix := if i = 0 then "x" else "y" }, 0⟩
    let start : Instant := ⟨Instant.last.nanos - 5⟩
    let steps : List (Step Delivery) :=
      [.check 0 "a" 3 .sound, .set ⟨Instant.last.nanos - 1⟩, .check 1 "a" 3 (.lostAfter .redis),
        .set Instant.last, .sweepStore, .check 1 "a" 3 .sound]
    let back : List (Step Delivery) :=
      steps ++ [.set ⟨Instant.last.nanos - 2⟩, .check 1 "a" 3 (.lostBefore .redis)]
    let ps := (fresh start).passages members (Relay.service "memory") steps
    let qs := (fresh start).passages members (Relay.service "memory") back
    (qs.map fun p => p.answer.map fun answer => answer.toOption.map Decision.resetIn) =
        [some (some ⟨5⟩), none, some (some ⟨1⟩), none, none, some none, none, some (some ⟨2⟩)] ∧
      (∀ p ∈ ps, ∀ d, p.answer = some (.ok d) → d.resetIn ≤ ⟨7⟩) ∧
      ∀ p ∈ qs, p.step.OnCheck fun i raw limit _ => raw ≠ "" → 0 < limit →
        ((∃ e, p.answer = some (.error e)) ↔
          p.before.live? 0 raw = none ∧ Instant.last.nanos < p.before.now.nanos + (5 + 2 * i)) := by
  intro members start steps back ps qs
  have hwindow (i : Nat) : (members i).limiter.window ≠ .zero := fun h => by
    have hnanos : 5 + 2 * i = 0 := congrArg Span.nanos h
    omega
  obtain ⟨-, -, hbound⟩ := failures_and_resets members "memory" hwindow start steps
    (by decide +zetaReduce)
  obtain ⟨hfails, -, -⟩ := failures_and_resets members "memory" hwindow start back
    (by decide +zetaReduce)
  exact ⟨by decide +kernel +zetaReduce,
    hbound ⟨7⟩ (by decide +kernel +zetaReduce) (by decide +zetaReduce),
    fun p hp => (hfails p hp).imp fun _ _ _ _ hfails hraw hlimit => (hfails hraw hlimit).1⟩

end Fleet

end FixedWindow
