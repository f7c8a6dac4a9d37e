import FixedWindow.Proofs.LiveEntry
import FixedWindow.Proofs.Tally

/-!
# The outcomes of a check

A check of a subject under a positive limit has three outcomes. A tally in the local tier that has
reached the limit denies it, and nothing changes. Otherwise the store is asked: its answer becomes
the local tally and is the verdict, or, after a failure, the local tally counts the call and is the
verdict. Whatever happens, the local tier keeps what it has of every other subject.

## Main results

* `Limiter.opening_of_full`, `Limiter.opening_of_room`: when the store is asked.
* `Limiter.conclude_ok`, `Limiter.conclude_error`: how its answer is put to use.
* `Limiter.attempt_eq_check`, `Limiter.attempt_of_abort`: a check whose call is not aborted, and one
  whose call is.
* `Limiter.check_seesLive`, `Limiter.cache_check`, `Limiter.store_check`: a check depends on the
  live entry of its own subject and writes at most that, and makes at most one call to the store.
-/

namespace FixedWindow

theorem checkedLimit_of_pos {limit : Nat} (h : 0 < limit) : checkedLimit limit = .ok limit :=
  if_neg (Nat.ne_of_gt h)

namespace Limiter

variable (l : Limiter) {cache : Cache} {now : Instant} {subject : Subject} {limit : Nat}

/-- A local tally that has reached the limit denies. -/
theorem opening_of_full (hlimit : 0 < limit) {t : Tally}
    (ht : cache.tally? now subject.text = some t) (hfull : limit ≤ t.count) :
    l.opening cache now subject.text limit =
      .settled (.ok (.exhausted limit (t.closesAt.since now)))
        [.exhausted subject.text limit t.count] := by
  obtain ⟨e, he, rfl⟩ := Option.map_eq_some_iff.mp ht
  have hdenies : (cache.get? now subject.text).filter (·.isExhausted limit) = some e := by
    rw [he]
    exact Option.filter_some_pos (decide_eq_true hfull)
  simp only [opening, subject.parse_text, checkedLimit_of_pos hlimit, hdenies]
  rfl

/-- As long as the local tally leaves room under the limit, the store is asked. -/
theorem opening_of_room (hlimit : 0 < limit)
    (hroom : ∀ t, cache.tally? now subject.text = some t → t.count < limit) :
    l.opening cache now subject.text limit =
      .ask subject ⟨subject.storeKey l.keyPrefix, l.window⟩ := by
  have hpasses : (cache.get? now subject.text).filter (·.isExhausted limit) = none := by
    refine Option.filter_eq_none_iff.mpr fun e he => ?_
    have hlt := hroom e.tally (by rw [Cache.tally?, he, Option.map_some])
    simp only [Entry.isExhausted, decide_eq_true_eq, Nat.not_le]
    exact hlt
  simp only [opening, subject.parse_text, checkedLimit_of_pos hlimit, hpasses]

theorem opening_of_zero (cache : Cache) (now : Instant) (subject : Subject) :
    l.opening cache now subject.text 0 = .settled (.error (.validation .zeroLimit)) [] := by
  simp only [opening, subject.parse_text]
  rfl

theorem of_opening_eq_ask {raw : String} {call : Store.Call}
    (h : l.opening cache now raw limit = .ask subject call) :
    raw = subject.text ∧ call = ⟨subject.storeKey l.keyPrefix, l.window⟩ := by
  unfold opening at h
  split at h
  · cases h
  · cases h
  · rename_i s _ hparse _
    split at h
    · cases h
    · cases h
      exact ⟨(Subject.text_of_parse hparse).symm, rfl⟩

/-- An answer of the store becomes the local tally and decides. -/
theorem conclude_ok (store : String) (degraded : Bool) (cache : Cache) (subject : Subject)
    (limit : Nat) {t : Tally} (hopen : now < t.closesAt) (hlast : t.closesAt ≤ Instant.last) :
    let done := l.conclude store degraded cache now subject limit
      (.ok ⟨t.count, t.closesAt.since now⟩)
    done.answer = .ok (.ofCount t.count limit (t.closesAt.since now) .store) ∧
      done.state.2 = cache.put subject.text ⟨t.count, limit, t.closesAt⟩ := by
  simp only [conclude, settle, Cache.overwrite_of_tally cache subject.text limit hopen hlast,
    and_self]

/-- Figures of the store that decide name a window that is open and ends within the clock. -/
theorem exists_tally_of_conclude_ok (store : String) (degraded : Bool) (cache : Cache)
    (subject : Subject) (limit : Nat) {figures : Store.WindowCount} {d : Decision}
    (h : (l.conclude store degraded cache now subject limit (.ok figures)).answer = .ok d) :
    ∃ t : Tally, figures = ⟨t.count, t.closesAt.since now⟩ ∧ now < t.closesAt ∧
      t.closesAt ≤ Instant.last := by
  cases hzero : figures.ttl.isZero with
  | true => simp [conclude, settle, Cache.overwrite, hzero] at h
  | false =>
    cases hend : now.add? figures.ttl with
    | none => simp [conclude, settle, Cache.overwrite, Cache.windowEnd, hzero, hend] at h
    | some resetAt =>
      have hne : figures.ttl ≠ .zero := by
        rw [ne_eq, ← Span.isZero_eq_true_iff, hzero]
        exact Bool.false_ne_true
      refine ⟨⟨figures.count, resetAt⟩, ?_, Instant.lt_of_add? hend hne,
        Instant.le_last_of_add? hend⟩
      simp only [Instant.since_of_add? hend]

theorem within_of_conclude_ok (store : String) (degraded : Bool) (cache : Cache)
    (subject : Subject) (limit : Nat) {t : Tally} (hopen : now < t.closesAt) {d : Decision}
    (h : (l.conclude store degraded cache now subject limit
      (.ok ⟨t.count, t.closesAt.since now⟩)).answer = .ok d) : t.closesAt ≤ Instant.last := by
  obtain ⟨u, hfigures, hu, hlast⟩ :=
    l.exists_tally_of_conclude_ok store degraded cache subject limit h
  have hspan : t.closesAt.nanos - now.nanos = u.closesAt.nanos - now.nanos :=
    congrArg (fun figures => figures.ttl.nanos) hfigures
  simp only [Instant.lt_def, Instant.le_def] at hopen hu hlast ⊢
  omega

/-- After a failure the local tally counts the call and decides. -/
theorem conclude_error (store : String) (degraded : Bool) (cache : Cache) (subject : Subject)
    (limit : Nat) {newEnd : Instant} (hwindow : l.window ≠ .zero)
    (hend : cache.tally? now subject.text = none → now.add? l.window = some newEnd)
    (hroom : ∀ t, cache.tally? now subject.text = some t → t.count < maxCount) (e : StoreError) :
    let t := Tally.next (cache.tally? now subject.text) newEnd
    let done := l.conclude store degraded cache now subject limit (.error e)
    done.answer = .ok (.ofCount t.count limit (t.closesAt.since now) .degraded) ∧
      done.state.2 = cache.put subject.text ⟨t.count, limit, t.closesAt⟩ := by
  obtain ⟨hanswer, hstate⟩ := cache.increment_of_add? limit hwindow hend hroom
  simp only [conclude, settle, hanswer, hstate, Entry.resetIn, and_self]

theorem conclude_error_of_add?_eq_none (store : String) (degraded : Bool) (cache : Cache)
    (subject : Subject) (limit : Nat) (hwindow : l.window ≠ .zero)
    (hnone : cache.tally? now subject.text = none) (hend : now.add? l.window = none)
    (e : StoreError) :
    let done := l.conclude store degraded cache now subject limit (.error e)
    done.answer = .error (.invariant (.clockOverflow l.window)) ∧ done.state.2 = cache := by
  simp only [conclude, settle, cache.increment_of_add?_eq_none limit hwindow hnone hend, and_self]

/-- A decision that rests on the store is the verdict on the store's figures. -/
theorem of_conclude_source (store : String) (degraded : Bool) (cache : Cache) (now : Instant)
    (subject : Subject) (limit : Nat) {answer : Store.Answer} {d : Decision}
    (h : (l.conclude store degraded cache now subject limit answer).answer = .ok d)
    (hsource : d.source = .store) :
    ∃ figures, answer = .ok figures ∧ d = .ofCount figures.count limit figures.ttl .store := by
  cases answer with
  | ok figures =>
    refine ⟨figures, rfl, ?_⟩
    simp only [conclude, settle] at h
    split at h
    · cases h
    · cases h; rfl
  | error e =>
    simp only [conclude, settle] at h
    split at h
    · cases h
    · cases h; cases hsource

/-- If no call is aborted, a check over a store whose calls may be aborted is one over a store that
always answers. -/
theorem attempt_eq_check {σ : Type} (store : Store.Fragile σ) {now : Instant} {subject : Subject}
    {limit : Nat} {tiers : Tiers σ} {answer : Store.Answer}
    (h : (store.increment tiers.store now ⟨subject.storeKey l.keyPrefix, l.window⟩).answer =
      .ok answer) :
    l.attempt store now subject.text limit tiers =
      l.check store.guarded now subject.text limit tiers := by
  rw [attempt, check_eq]
  split
  · rfl
  · rename_i s call hask
    obtain ⟨htext, rfl⟩ := l.of_opening_eq_ask hask
    obtain rfl : subject = s := Subject.ext htext
    simp only [h, store.answer_guarded h]
    rfl

theorem store_attempt {σ : Type} (store : Store.Fragile σ) (now : Instant) (raw : String)
    (limit : Nat) (tiers : Tiers σ) :
    (l.attempt store now raw limit tiers).state.store = tiers.store ∨
      ∃ call, (l.attempt store now raw limit tiers).state.store =
        (store.increment tiers.store now call).state := by
  unfold attempt
  split
  · exact .inl rfl
  · rename_i call _
    refine .inr ⟨call, ?_⟩
    cases hserved : (store.increment tiers.store now call).answer <;> simp only [hserved]

/-- If the call is aborted, so is the check, and only the store has changed. -/
theorem attempt_of_abort {σ : Type} (store : Store.Fragile σ) {now : Instant} {subject : Subject}
    {limit : Nat} {tiers : Tiers σ} (hlimit : 0 < limit)
    (hroom : ∀ t, tiers.cache.tally? now subject.text = some t → t.count < limit) {why : Abort}
    (h : (store.increment tiers.store now ⟨subject.storeKey l.keyPrefix, l.window⟩).answer =
      .error why) :
    let done := l.attempt store now subject.text limit tiers
    done.answer = .error (.abort why) ∧ done.state.degraded = tiers.degraded ∧
      done.state.cache = tiers.cache := by
  simp only [attempt, l.opening_of_room hlimit hroom, h, and_self]

/-- A check sees the live entry of its subject only. On two caches that show the same one it makes
the same call to the store, if it makes one, and puts the same entry in place. -/
theorem check_seesLive {σ : Type} (store : Store.Backend σ) (raw : String) (limit : Nat)
    (degraded : Bool) (s : σ) {c c' : Cache} (h : c.get? now raw = c'.get? now raw) :
    ∃ decided flag written s' log,
      l.check store now raw limit ⟨degraded, c, s⟩ =
          { answer := decided, state := ⟨flag, c.putAny raw written, s'⟩, log := log } ∧
        l.check store now raw limit ⟨degraded, c', s⟩ =
          { answer := decided, state := ⟨flag, c'.putAny raw written, s'⟩, log := log } := by
  simp only [check_eq, ← l.opening_congr h limit]
  split
  · exact ⟨_, degraded, none, s, _, rfl, rfl⟩
  · rename_i subject call hask
    obtain ⟨rfl, rfl⟩ := l.of_opening_eq_ask hask
    obtain ⟨decided, flag, written, log, hlog⟩ := l.conclude_seesLive store.name subject limit
      (store.increment s now ⟨subject.storeKey l.keyPrefix, l.window⟩).answer h
    obtain ⟨hc, hc'⟩ := hlog degraded
    simp only [hc, hc']
    exact ⟨decided, flag, written, _, _, rfl, rfl⟩

/-- A check writes at most the entry of its own subject. -/
theorem cache_check {σ : Type} (store : Store.Backend σ) (now : Instant) (raw : String)
    (limit : Nat) (tiers : Tiers σ) :
    (l.check store now raw limit tiers).state.cache = tiers.cache ∨
      ∃ e, (l.check store now raw limit tiers).state.cache = tiers.cache.put raw e := by
  obtain ⟨_, _, written, _, _, hcheck, -⟩ :=
    l.check_seesLive store raw limit tiers.degraded tiers.store (c := tiers.cache) rfl
  have hcache : (l.check store now raw limit tiers).state.cache =
      tiers.cache.putAny raw written := congrArg (fun done => done.state.cache) hcheck
  cases written with
  | none => exact .inl hcache
  | some e => exact .inr ⟨e, hcache⟩

/-- A check makes at most one call to the store, for its own subject. -/
theorem store_check {σ : Type} (store : Store.Backend σ) (now : Instant) (raw : String)
    (limit : Nat) (tiers : Tiers σ) :
    (l.check store now raw limit tiers).state.store = tiers.store ∨
      ∃ s : Subject, s.text = raw ∧ (l.check store now raw limit tiers).state.store =
        (store.increment tiers.store now ⟨s.storeKey l.keyPrefix, l.window⟩).state := by
  rw [check_eq]
  split
  · exact .inl rfl
  · rename_i s call hask
    obtain ⟨rfl, rfl⟩ := l.of_opening_eq_ask hask
    exact .inr ⟨s, rfl, rfl⟩

end Limiter

end FixedWindow
