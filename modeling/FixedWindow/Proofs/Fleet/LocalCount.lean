import FixedWindow.Proofs.Fleet.Sight
import FixedWindow.Proofs.Frame

/-!
# Counting within the limit

A check is counted in the cache only after the store was asked, and the store is asked only if the
live entry of the subject leaves room under the limit. So whatever the cache held before, whoever
wrote it and under whichever limit, a count that a check adds to is below the limit of this very
check: it never leaves the range of a counter, it ends within the limit, and the check is allowed.
It does not matter how long the store takes to fail, since time only closes windows.

## Main results

* `Limiter.room_of_opening_eq_ask`, `Limiter.of_opening_eq_settled`: what the part of a check before
  the call to the store has found out.
* `Limiter.conclude_within`: what is counted after a call that failed.
* `Fleet.counts_passage`: one check.
* `Fleet.counts_within_limit`: a run over any store, from any state.
-/

namespace FixedWindow

namespace Limiter

open Cache

variable (l : Limiter) {cache : Cache} {now : Instant} {raw : String} {limit : Nat}

/-- If the store is asked, the limit is positive and the live entry of the subject leaves room. -/
theorem room_of_opening_eq_ask {subject : Subject} {call : Store.Call}
    (h : l.opening cache now raw limit = .ask subject call) :
    0 < limit ∧ ∀ e, cache.get? now subject.text = some e → e.count < limit := by
  unfold opening at h
  split at h
  · cases h
  · cases h
  · rename_i s checked _ hlimit
    unfold checkedLimit at hlimit
    split at hlimit
    · cases hlimit
    rename_i hne
    cases hlimit
    split at h
    · cases h
    · rename_i hpasses
      cases h
      refine ⟨Nat.pos_of_ne_zero hne, fun e he => ?_⟩
      have hroom := Option.filter_eq_none_iff.mp hpasses e he
      simpa only [Entry.isExhausted, decide_eq_true_eq, Nat.not_le] using hroom

/-- A check that is settled before the store is asked is rejected, or denied by a full entry. -/
theorem of_opening_eq_settled {answer : Except LimitError Decision} {log : List Event}
    (h : l.opening cache now raw limit = .settled answer log) :
    (∃ why, answer = .error (.validation why)) ∨
      ∃ limit resetIn, answer = .ok (.exhausted limit resetIn) := by
  unfold opening at h
  split at h
  · rename_i hparse
    cases h
    unfold Subject.parse at hparse
    split at hparse
    · cases hparse
      exact .inl ⟨_, rfl⟩
    · cases hparse
  · rename_i hlimit
    cases h
    unfold checkedLimit at hlimit
    split at hlimit
    · cases hlimit
      exact .inl ⟨_, rfl⟩
    · cases hlimit
  · split at h
    · cases h
      exact .inr ⟨_, _, rfl⟩
    · cases h

/-- When a call to the store has failed, at the instant of the call or later, the check is counted
below its limit, or refused. -/
theorem conclude_within {later : Instant} (hle : now ≤ later) {subject : Subject}
    {call : Store.Call} (hask : l.opening cache now raw limit = .ask subject call)
    (hword : limit ≤ maxCount) (name : String) (degraded : Bool) (failure : StoreError) :
    let done := l.conclude name degraded cache later subject limit (.error failure)
    (∀ e, cache.get? later subject.text = some e → e.count < limit) ∧
      cache.AllOrNothing later subject.text
        (fun e d => d = .ofCount e.count limit (e.resetIn later) .degraded ∧
          e.count = cache.countOf later subject.text + 1 ∧ e.count ≤ limit)
        done.answer done.state.2 := by
  intro done
  obtain ⟨hpos, hasked⟩ := l.room_of_opening_eq_ask hask
  have hroom : ∀ e, cache.get? later subject.text = some e → e.count < limit := by
    intro e he
    -- an entry that is live later was live when the store was asked
    rw [cache.get?_later subject.text hle, Option.filter_eq_some_iff] at he
    exact hasked e he.1
  refine ⟨hroom, (l.conclude_counted name degraded cache later subject limit
    (fun e he => Nat.lt_of_lt_of_le (hroom e he) hword) failure).imp ?_⟩
  rintro e d ⟨htells, hcount⟩
  refine ⟨htells, hcount, ?_⟩
  rw [hcount, countOf]
  cases hlive : cache.get? later subject.text with
  | none => exact hpos
  | some live => exact hroom live hlive

end Limiter

namespace Fleet

variable {σ δ : Type} (members : Nat → Member) (service : Store.Service σ δ)

section Passage

variable {f : Fleet σ} {i : Nat} {raw : String} {limit : Nat} (fares : δ)

theorem passage_of_settled {answer : Except LimitError Decision} {log : List Event}
    (h : (members i).limiter.opening (f.caches (members i).cache) f.now raw limit =
      .settled answer log) :
    let p := f.passage members service (.check i raw limit fares)
    p.reply = none ∧ p.answer = some answer := by
  simp only [passage, reply?, Passage.answer, step, check, Limiter.check_eq, tiers, h, and_self]

/-- A check that asks the store concludes with what it is told. -/
theorem passage_of_ask {subject : Subject} {call : Store.Call}
    (h : (members i).limiter.opening (f.caches (members i).cache) f.now raw limit =
      .ask subject call) :
    let p := f.passage members service (.check i raw limit fares)
    let store := service.backend fares
    let told := (store.increment f.store f.now call).answer
    let done := (members i).limiter.conclude store.name (f.degraded i)
      (f.caches (members i).cache) f.now subject limit told
    p.reply = some told ∧ p.answer = some done.answer ∧
      p.after.caches (members i).cache = done.state.2 := by
  simp only [passage, reply?, Passage.answer, Passage.after, step, check, Limiter.check_eq, tiers,
    h, setAt, if_true, and_self]

end Passage

/-- What one check counts in the cache, whatever the fleet was like before. -/
theorem counts_passage (f : Fleet σ) (i : Nat) (raw : String) {limit : Nat} (fares : δ)
    (hword : limit ≤ maxCount) :
    let p := f.passage members service (.check i raw limit fares)
    let before? := f.live? (members i).cache raw
    (p.StoreFailed → (∀ e, before? = some e → e.count < limit) ∧
        ∀ d, p.answer = some (.ok d) → ∃ e, p.after.live? (members i).cache raw = some e ∧
          e.count = before?.elim 0 Entry.count + 1 ∧ e.count ≤ limit) ∧
      ∀ d, p.answer = some (.ok d) →
        (d.source = .degraded → p.StoreFailed ∧ d.allowed = true) ∧
          (¬ p.StoreAnswered → d.allowed = false → d.source = .cache) := by
  intro p before?
  cases hopening : (members i).limiter.opening (f.caches (members i).cache) f.now raw limit with
  | settled answer log =>
    obtain ⟨hreply, hanswer⟩ := passage_of_settled members service fares hopening
    have hnot : ¬ p.StoreFailed := by
      rintro ⟨e, he⟩
      cases hreply.symm.trans he
    refine ⟨fun hfailed => (hnot hfailed).elim, fun d hd => ?_⟩
    rcases (members i).limiter.of_opening_eq_settled hopening with ⟨_, rfl⟩ | ⟨_, _, rfl⟩
    · cases hanswer.symm.trans hd
    · cases hanswer.symm.trans hd
      exact ⟨nofun, fun _ _ => rfl⟩
  | ask subject call =>
    obtain ⟨hreply, hanswer, hcache⟩ := passage_of_ask members service fares hopening
    obtain ⟨rfl, -⟩ := (members i).limiter.of_opening_eq_ask hopening
    generalize ((service.backend fares).increment f.store f.now call).answer = told at *
    cases told with
    | ok figures =>
      have hwritten := (members i).limiter.conclude_answered (service.backend fares).name
        (f.degraded i) (f.caches (members i).cache) f.now subject limit figures
      have hnot : ¬ p.StoreFailed := by
        rintro ⟨e, he⟩
        cases hreply.symm.trans he
      refine ⟨fun hfailed => (hnot hfailed).elim, fun d hd => ?_⟩
      obtain ⟨e, -, ⟨rfl, -, -⟩, -⟩ := hwritten.of_ok (Option.some.inj (hanswer.symm.trans hd))
      exact ⟨nofun, fun hsilent => (hsilent ⟨figures, hreply⟩).elim⟩
    | error failure =>
      obtain ⟨hroom, hwritten⟩ := (members i).limiter.conclude_within (Nat.le_refl _) hopening hword
        (service.backend fares).name (f.degraded i) failure
      refine ⟨fun _ => ⟨hroom, fun d hd => ?_⟩, fun d hd => ?_⟩
      · obtain ⟨e, hlive, ⟨-, hcount, hwithin⟩, hleft⟩ :=
          hwritten.of_ok (Option.some.inj (hanswer.symm.trans hd))
        refine ⟨e, Cache.get?_eq_some_iff.mpr ⟨?_, hlive⟩, hcount, hwithin⟩
        rw [hcache, hleft]
        exact Table.get?_insert_self ..
      · obtain ⟨e, -, ⟨rfl, -, hwithin⟩, -⟩ :=
          hwritten.of_ok (Option.some.inj (hanswer.symm.trans hd))
        have hallowed : (Decision.ofCount e.count limit (e.resetIn f.now) .degraded).allowed =
            true := Decision.allowed_ofCount.mpr hwithin
        exact ⟨fun _ => ⟨⟨failure, hreply⟩, hallowed⟩,
          fun _ hdenied => by cases hallowed.symm.trans hdenied⟩

/-- A call to a store that failed, at the instant at which the store was asked or later, leads to a
count below the limit of the check, whatever the cache held; so the check is never denied on a local
count. In a run over any store, from any state, under limits of 64 bits and on a clock that moves in
any way, no check leaves the range of the counters: each one that is counted locally finds a live
count below its limit, if there is one, and leaves the next count, which is within the limit. Each
decision that rests on a local count allows its check, and each denial without an answer of the
store comes from a full entry of the cache. -/
theorem counts_within_limit :
    (∀ (l : Limiter) (cache : Cache) (now later : Instant) (raw : String) (limit : Nat)
        (subject : Subject) (call : Store.Call), now ≤ later → limit ≤ maxCount →
      l.opening cache now raw limit = .ask subject call →
      ∀ (name : String) (degraded : Bool) (failure : StoreError),
        let done := l.conclude name degraded cache later subject limit (.error failure)
        (∀ e, cache.get? later subject.text = some e → e.count < limit) ∧
          (∀ d, done.answer = .ok d → d.source = .degraded ∧ d.allowed = true) ∧
          ∀ err, done.answer = .error err → ∃ why, err = .invariant why) ∧
      ∀ (f : Fleet σ) (steps : List (Step δ)),
        (∀ s ∈ steps, s.OnCheck fun _ _ limit _ => limit ≤ maxCount) →
        ∀ p ∈ f.passages members service steps, p.step.OnCheck fun i raw limit _ =>
          let before? := p.before.live? (members i).cache raw
          (p.StoreFailed → (∀ e, before? = some e → e.count < limit) ∧
              ∀ d, p.answer = some (.ok d) → ∃ e, p.after.live? (members i).cache raw = some e ∧
                e.count = before?.elim 0 Entry.count + 1 ∧ e.count ≤ limit) ∧
            (∀ why, p.answer ≠ some (.error (.abort why))) ∧
            ∀ d, p.answer = some (.ok d) →
              (d.source = .degraded → p.StoreFailed ∧ d.allowed = true) ∧
                (¬ p.StoreAnswered → d.allowed = false → d.source = .cache) := by
  refine ⟨fun l cache now later raw limit subject call hle hword hask name degraded failure => ?_,
    fun f steps hword p hp => ?_⟩
  · obtain ⟨hroom, hwritten⟩ := l.conclude_within hle hask hword name degraded failure
    refine ⟨hroom, fun d hd => ?_, fun err herr => (hwritten.of_error herr).1⟩
    obtain ⟨e, -, ⟨rfl, -, hwithin⟩, -⟩ := hwritten.of_ok hd
    exact ⟨rfl, Decision.allowed_ofCount.mpr hwithin⟩
  · obtain ⟨g, s, rfl, -, hs⟩ := forall_passages members service (I := fun _ => True)
      (fun _ _ _ _ => trivial) trivial (along_of_forall (fun s hs _ => hword s hs) f.now) p hp
    cases s with
    | set _ | sweepCache _ | sweepStore => trivial
    | check i raw limit fares =>
      obtain ⟨hcounts, hsources⟩ := counts_passage members service g i raw fares hs
      refine ⟨hcounts, fun why hwhy => ?_, hsources⟩
      rcases ((members i).limiter.of_check_error (service.backend fares) g.now raw limit
        (g.tiers (members i) i) hs (Option.some.inj hwhy)).1 with ⟨_, h⟩ | ⟨_, h⟩
      · cases h
      · cases h

/-- Two limiters share a cache that holds the largest count for one subject and the count before it
for another, and a store that answers as it is told to. The first subject is denied by the cache
while the store fails, the second is counted once and then denied as well. An answer with the
largest count is denied, and under a larger limit still denied by the cache; once its window has
closed, the subject is counted anew, and the old entry is not seen when the clock goes back. A
failure that comes when the window of the second subject has closed finds no live entry either. -/
theorem counts_within_limit_at_maxCount :
    let members (i : Nat) : Member := ⟨{ window := ⟨7 + i⟩ }, 0⟩
    let service : Store.Service Unit Store.Answer :=
      ⟨fun told => ⟨"told", fun _ _ _ => { answer := told, state := () }⟩,
        fun _ _ => { answer := 0, state := () }⟩
    let cache := (Cache.empty.put "a" ⟨maxCount, 1, ⟨20⟩⟩).put "b" ⟨maxCount - 1, 1, ⟨20⟩⟩
    let f : Fleet Unit := { now := ⟨10⟩, caches := fun _ => cache, store := () }
    let steps : List (Step Store.Answer) :=
      [.check 0 "a" maxCount (.error .redis), .check 1 "b" maxCount (.error .redis),
        .check 0 "b" maxCount (.error .redis), .check 0 "c" 3 (.ok ⟨maxCount, ⟨5⟩⟩),
        .check 1 "c" maxCount (.error .redis), .set ⟨15⟩, .check 1 "c" 1 (.error .redis),
        .set ⟨14⟩, .check 0 "c" 2 (.error .redis)]
    let ps := f.passages members service steps
    let late := (members 0).limiter.conclude "told" false cache ⟨20⟩ ⟨"b", by decide⟩ maxCount
      (.error .redis)
    (ps.map fun p => p.answer.map fun answer =>
        answer.toOption.map fun d => (d.source, d.allowed)) =
      [some (some (.cache, false)), some (some (.degraded, true)), some (some (.cache, false)),
        some (some (.store, false)), some (some (.cache, false)), none,
        some (some (.degraded, true)), none, some (some (.degraded, true))] ∧
      (∀ p ∈ ps, p.step.OnCheck fun _ raw limit _ => p.StoreFailed →
        ∀ e, p.before.live? 0 raw = some e → e.count < limit) ∧
      late.answer = .ok ⟨true, maxCount, maxCount - 1, ⟨7⟩, .degraded⟩ ∧
      ∀ e, cache.get? ⟨20⟩ "b" = some e → e.count < maxCount := by
  intro members service cache f steps ps late
  obtain ⟨hlate, hruns⟩ := counts_within_limit members service
  obtain ⟨hbelow, -, -⟩ := hlate (members 0).limiter cache ⟨10⟩ ⟨20⟩ "b" maxCount
    ⟨"b", by decide⟩ ⟨"rate_limit:b", ⟨7⟩⟩ (by decide) (Nat.le_refl _) rfl "told" false .redis
  refine ⟨by decide +kernel +zetaReduce, fun p hp => ?_, rfl, hbelow⟩
  exact (hruns f steps (by decide +zetaReduce) p hp).imp fun _ _ _ _ h hfailed =>
    (h.1 hfailed).1

end Fleet

end FixedWindow
