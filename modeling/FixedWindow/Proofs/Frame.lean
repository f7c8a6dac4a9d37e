import FixedWindow.Proofs.Check

/-!
# What a check touches

A check works on three things: its limiter's mode, the cache and the store. It either is settled at
once and touches none of them, or makes a single call to the store and then at most one write to the
cache. The write is all or nothing: it is refused and leaves the whole table as it was, closed
entries included, or it puts one live entry in place, which is what the decision says. None of this
depends on what the store makes of the call.

## Main definitions

* `Cache.AllOrNothing`: an answer with the cache that comes with it, refused or of one live entry.
* `Store.Backend.recording`, `Limiter.callsMade`: the calls that a check makes to a store.
* `Limiter.Course`: the ways in which a check goes, each with all that it leaves behind.

## Main results

* `Cache.allOrNothing_overwrite`, `Cache.allOrNothing_increment`: the two writes.
* `Limiter.conclude_answered`, `Limiter.conclude_counted`: what follows the call to the store.
* `Limiter.check_of_full`, `Limiter.check_of_room`: a check with a live entry, full or with room.
* `Limiter.course_check`, `Limiter.of_check_error`: how a check goes, and how it fails.
* `Limiter.of_attempt_abort`: a check is aborted by the store only.
* `Limiter.check_frame`: what a check answers, calls and writes, over any store.
-/

namespace FixedWindow

/-! ### Writes to the cache -/

namespace Cache

variable {α : Type}

/-- An operation on a subject is refused and leaves the whole cache as it was, or it puts one live
entry in place and answers something that is told by this entry. -/
inductive AllOrNothing (c : Cache) (now : Instant) (subject : String) (Tells : Entry → α → Prop)
    (answer : Except LimitError α) (left : Cache) : Prop
  | refused (why : Refusal) (hanswer : answer = .error (.invariant why)) (hleft : left = c)
  | put (e : Entry) (a : α) (hlive : now < e.resetAt) (htells : Tells e a)
      (hanswer : answer = .ok a) (hleft : left = c.put subject e)

theorem AllOrNothing.imp {c left : Cache} {now : Instant} {subject : String}
    {Tells Says : Entry → α → Prop} {answer : Except LimitError α}
    (h : c.AllOrNothing now subject Tells answer left) (himp : ∀ e a, Tells e a → Says e a) :
    c.AllOrNothing now subject Says answer left := by
  cases h with
  | refused why hanswer hleft => exact .refused why hanswer hleft
  | put e a hlive htells hanswer hleft => exact .put e a hlive (himp e a htells) hanswer hleft

theorem AllOrNothing.of_error {c left : Cache} {now : Instant} {subject : String}
    {Tells : Entry → α → Prop} {answer : Except LimitError α}
    (h : c.AllOrNothing now subject Tells answer left) {err : LimitError}
    (herr : answer = .error err) : (∃ why, err = .invariant why) ∧ left = c := by
  cases h with
  | refused why hanswer hleft =>
    cases hanswer.symm.trans herr
    exact ⟨⟨why, rfl⟩, hleft⟩
  | put e a hlive htells hanswer hleft => cases hanswer.symm.trans herr

theorem AllOrNothing.of_ok {c left : Cache} {now : Instant} {subject : String}
    {Tells : Entry → α → Prop} {answer : Except LimitError α}
    (h : c.AllOrNothing now subject Tells answer left) {a : α} (hok : answer = .ok a) :
    ∃ e, now < e.resetAt ∧ Tells e a ∧ left = c.put subject e := by
  cases h with
  | refused why hanswer hleft => cases hanswer.symm.trans hok
  | put e b hlive htells hanswer hleft =>
    cases hanswer.symm.trans hok
    exact ⟨e, hlive, htells, hleft⟩

/-- The count of the live entry of a subject, or none. -/
def countOf (c : Cache) (now : Instant) (subject : String) : Nat :=
  (c.get? now subject).elim 0 Entry.count

variable (c : Cache) {now : Instant} (subject : String)

/-- Figures obtained elsewhere are refused, or become the entry of the subject. -/
theorem allOrNothing_overwrite (count limit : Nat) (ttl : Span) :
    let write := c.overwrite now subject count limit ttl
    c.AllOrNothing now subject
      (fun e a => a = e ∧ e.count = count ∧ now.add? ttl = some e.resetAt) write.answer
      write.state := by
  intro write
  simp only [write, overwrite]
  split
  · exact .refused _ rfl rfl
  · rename_i hzero
    cases hend : now.add? ttl with
    | none =>
      simp only [windowEnd, hend]
      exact .refused _ rfl rfl
    | some resetAt =>
      have hne : ttl ≠ .zero := fun h => hzero (Span.isZero_eq_true_iff.mpr h)
      simp only [windowEnd, hend]
      exact .put ⟨count, limit, resetAt⟩ _ (Instant.lt_of_add? hend hne) ⟨rfl, rfl, rfl⟩ rfl rfl

/-- A call that is counted locally is refused, or the entry of the subject has one more. -/
theorem allOrNothing_increment {limit : Nat} (window : Span)
    (hroom : ∀ e, c.get? now subject = some e → e.count < maxCount) :
    let write := c.increment now subject limit window
    c.AllOrNothing now subject (fun e a => a = e ∧ e.count = c.countOf now subject + 1)
      write.answer write.state := by
  intro write
  simp only [write, increment, countOf]
  split
  · exact .refused _ rfl rfl
  · rename_i hzero
    cases hget : c.get? now subject with
    | some live =>
      simp only [hroom live hget, if_true]
      exact .put ⟨live.count + 1, limit, live.resetAt⟩ _ (get?_eq_some_iff.mp hget).2 ⟨rfl, rfl⟩
        rfl rfl
    | none =>
      cases hend : now.add? window with
      | none =>
        simp only [windowEnd, hend]
        exact .refused _ rfl rfl
      | some resetAt =>
        have hne : window ≠ .zero := fun h => hzero (Span.isZero_eq_true_iff.mpr h)
        simp only [windowEnd, hend]
        exact .put ⟨1, limit, resetAt⟩ _ (Instant.lt_of_add? hend hne) ⟨rfl, rfl⟩ rfl rfl

end Cache

/-! ### Calls to the store -/

/-- The store, with a list of the calls that were made to it, oldest first. -/
def Store.Backend.recording {σ : Type} (store : Backend σ) : Backend (σ × List Call) where
  name := store.name
  increment s now call :=
    let served := store.increment s.1 now call
    { answer := served.answer, state := (served.state, s.2 ++ [call]), log := served.log }

namespace Limiter

open Cache

variable (l : Limiter) {σ : Type} (store : Store.Backend σ)

/-- The calls that a check makes to the store, in order. -/
def callsMade (now : Instant) (raw : String) (limit : Nat) (tiers : Tiers σ) : List Store.Call :=
  (l.check store.recording now raw limit
    ⟨tiers.degraded, tiers.cache, tiers.store, []⟩).state.store.2

/-! ### After the call -/

section Conclude

variable (name : String) (degraded : Bool) (cache : Cache) (now : Instant) (subject : Subject)
  (limit : Nat)

theorem settle_allOrNothing {write : Effect Cache (Except LimitError Entry)}
    {Tells : Entry → Entry → Prop} {Says : Entry → Decision → Prop} {decision : Entry → Decision}
    (hwrite : cache.AllOrNothing now subject.text Tells write.answer write.state)
    (himp : ∀ e a, Tells e a → Says e (decision a)) :
    let done := settle subject.text write decision
    cache.AllOrNothing now subject.text Says done.answer done.state := by
  intro done
  cases hwrite with
  | refused why hanswer hleft =>
    simp only [done, settle, hanswer]
    exact .refused why rfl hleft
  | put e a hlive htells hanswer hleft =>
    simp only [done, settle, hanswer]
    exact .put e _ hlive (himp e a htells) rfl hleft

/-- An answer of the store is refused, or becomes the entry of the subject and decides. -/
theorem conclude_answered (figures : Store.WindowCount) :
    let done := l.conclude name degraded cache now subject limit (.ok figures)
    cache.AllOrNothing now subject.text
      (fun e d => d = .ofCount e.count limit (e.resetIn now) .store ∧ e.count = figures.count ∧
        now.add? figures.ttl = some e.resetAt) done.answer done.state.2 :=
  settle_allOrNothing cache now subject
    (cache.allOrNothing_overwrite subject.text figures.count limit figures.ttl) fun e a => by
      rintro ⟨rfl, hcount, hend⟩
      refine ⟨?_, hcount, hend⟩
      rw [hcount, Entry.resetIn, Instant.since_of_add? hend]

/-- After a failure of the store the check is refused, or is counted in the entry of the subject,
which decides. -/
theorem conclude_counted (hroom : ∀ e, cache.get? now subject.text = some e → e.count < maxCount)
    (failure : StoreError) :
    let done := l.conclude name degraded cache now subject limit (.error failure)
    cache.AllOrNothing now subject.text
      (fun e d => d = .ofCount e.count limit (e.resetIn now) .degraded ∧
        e.count = cache.countOf now subject.text + 1) done.answer done.state.2 :=
  settle_allOrNothing cache now subject
    (cache.allOrNothing_increment subject.text l.window hroom) fun e a => by
      rintro ⟨rfl, hcount⟩
      exact ⟨rfl, hcount⟩

end Conclude

/-! ### The course of a check -/

variable (now : Instant) (raw : String) (limit : Nat) (tiers : Tiers σ)

/-- The ways in which a check goes, with what it answers, calls and leaves. -/
inductive Course (done : Effect (Tiers σ) (Except LimitError Decision)) : Prop
  /-- The arguments are rejected. -/
  | rejected (hinvalid : raw = "" ∨ limit = 0)
      (hanswer : done.answer =
        .error (.validation (if raw = "" then .emptySubject else .zeroLimit)))
      (hstate : done.state = tiers) (hcalls : l.callsMade store now raw limit tiers = [])
  /-- A full live entry denies the check. -/
  | denied (hvalid : ¬ (raw = "" ∨ limit = 0)) (e : Entry)
      (he : tiers.cache.get? now raw = some e) (hfull : limit ≤ e.count)
      (hanswer : done.answer = .ok (.exhausted limit (e.resetIn now))) (hstate : done.state = tiers)
      (hcalls : l.callsMade store now raw limit tiers = [])
  /-- The store is asked, and what comes of it is refused or decides. -/
  | asked (hvalid : ¬ (raw = "" ∨ limit = 0))
      (hroom : ∀ e, tiers.cache.get? now raw = some e → e.count < limit)
      (call : Store.Call) (hcall : call = ⟨l.keyPrefix ++ ":" ++ raw, l.window⟩)
      (hcalls : l.callsMade store now raw limit tiers = [call])
      (hstore : done.state.store = (store.increment tiers.store now call).state)
      (source : Source) (hcache : tiers.cache.AllOrNothing now raw
        (fun e d => d = .ofCount e.count limit (e.resetIn now) source) done.answer
        done.state.cache)

theorem check_of_settled {answer : Except LimitError Decision} {log : List Event}
    (h : l.opening tiers.cache now raw limit = .settled answer log) :
    l.check store now raw limit tiers = { answer := answer, state := tiers, log := log } ∧
      l.callsMade store now raw limit tiers = [] := by
  simp only [callsMade, check_eq, h, and_self]

/-- A live entry that has reached the limit denies a check. -/
theorem check_of_full (hlimit : 0 < limit) (subject : Subject) {e : Entry}
    (he : tiers.cache.get? now subject.text = some e) (hfull : limit ≤ e.count) :
    let done := l.check store now subject.text limit tiers
    done.answer = .ok (.exhausted limit (e.resetIn now)) ∧ done.state = tiers ∧
      l.callsMade store now subject.text limit tiers = [] := by
  intro done
  have htally : tiers.cache.tally? now subject.text = some e.tally :=
    congrArg (Option.map Entry.tally) he
  obtain ⟨hcheck, hcalls⟩ := l.check_of_settled store now subject.text limit tiers
    (l.opening_of_full hlimit htally hfull)
  exact ⟨congrArg Effect.answer hcheck, congrArg Effect.state hcheck, hcalls⟩

/-- As long as the live entry leaves room under the limit, the store is asked, and the check
concludes with its answer. -/
theorem check_of_room (hlimit : 0 < limit) (subject : Subject)
    (hroom : ∀ e, tiers.cache.get? now subject.text = some e → e.count < limit) :
    let call : Store.Call := ⟨subject.storeKey l.keyPrefix, l.window⟩
    let served := store.increment tiers.store now call
    let settled := l.conclude store.name tiers.degraded tiers.cache now subject limit served.answer
    let done := l.check store now subject.text limit tiers
    done.answer = settled.answer ∧
      done.state = ⟨settled.state.1, settled.state.2, served.state⟩ ∧
      l.callsMade store now subject.text limit tiers = [call] := by
  have hopening : l.opening tiers.cache now subject.text limit =
      .ask subject ⟨subject.storeKey l.keyPrefix, l.window⟩ := by
    refine l.opening_of_room hlimit fun t ht => ?_
    obtain ⟨e, he, rfl⟩ := Option.map_eq_some_iff.mp ht
    exact hroom e he
  simp only [callsMade, check_eq, hopening, Store.Backend.recording, List.nil_append, and_self]

/-- What the store answers to a check leads to a single write. A limit of 64 bits keeps the count of
the entry in range. -/
theorem course_of_room (hword : limit ≤ maxCount) (hlimit : 0 < limit) (subject : Subject)
    (hroom : ∀ e, tiers.cache.get? now subject.text = some e → e.count < limit) :
    l.Course store now subject.text limit tiers
      (l.check store now subject.text limit tiers) := by
  obtain ⟨hanswer, hstate, hcalls⟩ := l.check_of_room store now limit tiers hlimit subject hroom
  have hvalid : ¬ (subject.text = "" ∨ limit = 0) :=
    fun h => h.elim subject.nonempty (Nat.ne_of_gt hlimit)
  suffices ∃ source, tiers.cache.AllOrNothing now subject.text
      (fun e d => d = .ofCount e.count limit (e.resetIn now) source)
      (l.check store now subject.text limit tiers).answer
      (l.check store now subject.text limit tiers).state.cache by
    obtain ⟨source, hcache⟩ := this
    exact .asked hvalid hroom _ rfl hcalls (congrArg Tiers.store hstate) source hcache
  rw [hanswer, hstate]
  cases (store.increment tiers.store now ⟨subject.storeKey l.keyPrefix, l.window⟩).answer with
  | ok figures =>
    exact ⟨.store, (l.conclude_answered store.name tiers.degraded tiers.cache now subject limit
      figures).imp fun _ _ h => h.1⟩
  | error failure =>
    exact ⟨.degraded, (l.conclude_counted store.name tiers.degraded tiers.cache now subject limit
      (fun e he => Nat.lt_of_lt_of_le (hroom e he) hword) failure).imp fun _ _ h => h.1⟩

/-- How a check goes under a limit of 64 bits. -/
theorem course_check (hword : limit ≤ maxCount) :
    l.Course store now raw limit tiers (l.check store now raw limit tiers) := by
  by_cases hraw : raw = ""
  · subst hraw
    have hopening : l.opening tiers.cache now "" limit =
        .settled (.error (.validation .emptySubject)) [] := rfl
    obtain ⟨hcheck, hcalls⟩ := l.check_of_settled store now "" limit tiers hopening
    rw [hcheck]
    exact .rejected (.inl rfl) rfl rfl hcalls
  obtain ⟨subject, rfl⟩ : ∃ subject : Subject, subject.text = raw := ⟨⟨raw, hraw⟩, rfl⟩
  rcases Nat.eq_zero_or_pos limit with rfl | hlimit
  · obtain ⟨hcheck, hcalls⟩ := l.check_of_settled store now subject.text 0 tiers
      (l.opening_of_zero tiers.cache now subject)
    rw [hcheck]
    exact .rejected (.inr rfl) (by rw [if_neg hraw]) rfl hcalls
  by_cases hfull : ∃ e, tiers.cache.get? now subject.text = some e ∧ limit ≤ e.count
  · obtain ⟨e, he, hle⟩ := hfull
    obtain ⟨hanswer, hstate, hcalls⟩ := l.check_of_full store now limit tiers hlimit subject he hle
    exact .denied (fun h => h.elim hraw (Nat.ne_of_gt hlimit)) e he hle hanswer hstate hcalls
  · exact l.course_of_room store now limit tiers hword hlimit subject fun e he =>
      Nat.lt_of_not_le fun hle => hfull ⟨e, he, hle⟩

/-! ### What a check answers, calls and writes -/

/-- A check that fails was rejected, or its write was refused, and the cache is as it was. -/
theorem of_check_error (hword : limit ≤ maxCount) {err : LimitError}
    (herr : (l.check store now raw limit tiers).answer = .error err) :
    ((∃ why, err = .validation why) ∨ ∃ why, err = .invariant why) ∧
      (l.check store now raw limit tiers).state.cache = tiers.cache := by
  cases l.course_check store now raw limit tiers hword with
  | rejected hinvalid hanswer hstate hcalls =>
    cases hanswer.symm.trans herr
    exact ⟨.inl ⟨_, rfl⟩, congrArg Tiers.cache hstate⟩
  | denied hvalid e he hfull hanswer hstate hcalls => cases hanswer.symm.trans herr
  | asked hvalid hroom asks hcall hcalls hstore source hcache =>
    exact (hcache.of_error herr).imp .inr id

/-- Under a limit of 64 bits, a check is aborted only if its call to the store is. -/
theorem of_attempt_abort {store : Store.Fragile σ} (hword : limit ≤ maxCount) {why : Abort}
    (h : (l.attempt store now raw limit tiers).answer = .error (.abort why)) :
    ∃ call, (store.increment tiers.store now call).answer = .error why := by
  have hcheck : l.attempt store now raw limit tiers ≠
      l.check store.guarded now raw limit tiers := fun heq => by
    rcases (l.of_check_error store.guarded now raw limit tiers hword (heq ▸ h)).1 with
      ⟨_, hwhy⟩ | ⟨_, hwhy⟩ <;> cases hwhy
  cases hopening : l.opening tiers.cache now raw limit with
  | settled answer log => exact (hcheck (by simp only [attempt, check_eq, hopening])).elim
  | ask subject call =>
    refine ⟨call, ?_⟩
    cases hserved : (store.increment tiers.store now call).answer with
    | error _ =>
      simp only [attempt, hopening, hserved] at h
      cases h
      rfl
    | ok answer =>
      obtain ⟨rfl, rfl⟩ := l.of_opening_eq_ask hopening
      exact (hcheck (l.attempt_eq_check store hserved)).elim

/-- A check over any store, in any state, under a limit of 64 bits. If the subject is empty or the
limit is zero, it is rejected; if a live entry has reached the limit, it is denied by the cache; in
both cases no call is made and nothing changes. Otherwise one call is made, with the key and the
window of the limiter. A check fails by a rejection or by a refusal of the cache only, whatever the
store answers, and then the cache is as it was. A decision that does not come from a full entry
comes with a write of the subject's entry and of no other; the entry is live, and the decision is
the verdict on it. -/
theorem check_frame (hword : limit ≤ maxCount) :
    let done := l.check store now raw limit tiers
    let calls := l.callsMade store now raw limit tiers
    let invalid := raw = "" ∨ limit = 0
    let live? := tiers.cache.get? now raw
    let call : Store.Call := ⟨l.keyPrefix ++ ":" ++ raw, l.window⟩
    (invalid →
        done.answer = .error (.validation (if raw = "" then .emptySubject else .zeroLimit)) ∧
          calls = [] ∧ done.state = tiers) ∧
      (¬ invalid → ∀ e, live? = some e → limit ≤ e.count →
        done.answer = .ok (.exhausted limit (e.resetIn now)) ∧ calls = [] ∧ done.state = tiers) ∧
      (¬ invalid → (∀ e, live? = some e → e.count < limit) →
        calls = [call] ∧ done.state.store = (store.increment tiers.store now call).state) ∧
      (∀ err, done.answer = .error err →
        ((∃ why, err = .validation why) ∨ ∃ why, err = .invariant why) ∧
          done.state.cache = tiers.cache) ∧
      ∀ d, done.answer = .ok d → d.source ≠ .cache →
        (∀ other, other ≠ raw →
            done.state.cache.entries.get? other = tiers.cache.entries.get? other) ∧
          ∃ e, done.state.cache.entries.get? raw = some e ∧ now < e.resetAt ∧
            (d.allowed = true ↔ e.count ≤ limit) ∧ d.limit = limit ∧
            d.remaining = limit - e.count ∧ d.resetIn = e.resetAt.since now := by
  intro done calls invalid live? call
  have herror (err : LimitError) (herr : done.answer = .error err) :=
    l.of_check_error store now raw limit tiers hword herr
  cases l.course_check store now raw limit tiers hword with
  | rejected hinvalid hanswer hstate hcalls =>
    refine ⟨fun _ => ⟨hanswer, hcalls, hstate⟩, fun hvalid => (hvalid hinvalid).elim,
      fun hvalid => (hvalid hinvalid).elim, herror, fun d hd => ?_⟩
    cases hanswer.symm.trans hd
  | denied hvalid e he hfull hanswer hstate hcalls =>
    refine ⟨fun hinvalid => (hvalid hinvalid).elim, fun _ other hother _ => ?_,
      fun _ hroom => absurd hfull (Nat.not_le.mpr (hroom e he)), herror, fun d hd hsource => ?_⟩
    · cases he.symm.trans hother
      exact ⟨hanswer, hcalls, hstate⟩
    · cases hanswer.symm.trans hd
      exact (hsource rfl).elim
  | asked hvalid hroom asks hcall hcalls hstore source hcache =>
    subst hcall
    refine ⟨fun hinvalid => (hvalid hinvalid).elim,
      fun _ e he hfull => absurd hfull (Nat.not_le.mpr (hroom e he)),
      fun _ _ => ⟨hcalls, hstore⟩, herror, fun d hd _ => ?_⟩
    obtain ⟨e, hlive, rfl, hleft⟩ := hcache.of_ok hd
    simp only [done, hleft, Cache.put]
    exact ⟨fun other hother => Table.get?_insert_of_ne _ _ hother, e,
      Table.get?_insert_self .., hlive, Decision.allowed_ofCount, rfl, rfl, rfl⟩

/-- A cache holds a closed entry and one that a limit of 64 bits leaves room for a single call in. A
store with an answer that names no open window makes the check fail, and one that fails has it
counted in the cache; either is asked once, and the closed entry stays. -/
theorem check_frame_of_closed_window :
    let l : Limiter := { window := .ofSecs 60, keyPrefix := "p" }
    let store (answer : Store.Answer) : Store.Backend Unit :=
      ⟨"constant", fun _ _ _ => { answer := answer, state := () }⟩
    let cache := (Cache.empty.put "b" ⟨9, 1, ⟨5⟩⟩).put "a" ⟨maxCount - 1, 1, ⟨20⟩⟩
    let tiers : Tiers Unit := { cache := cache, store := () }
    let done (answer : Store.Answer) := l.check (store answer) ⟨10⟩ "a" maxCount tiers
    let calls (answer : Store.Answer) := l.callsMade (store answer) ⟨10⟩ "a" maxCount tiers
    (done (.ok ⟨1, .zero⟩)).answer = .error (.invariant (.closedWindow "a")) ∧
      (done (.ok ⟨1, .zero⟩)).state.cache = cache ∧
      calls (.ok ⟨1, .zero⟩) = [⟨"p:a", .ofSecs 60⟩] ∧
      (done (.error .redis)).answer = .ok ⟨true, maxCount, 0, ⟨10⟩, .degraded⟩ ∧
      (done (.error .redis)).state.cache.entries.get? "b" = some ⟨9, 1, ⟨5⟩⟩ ∧
      calls (.error .redis) = [⟨"p:a", .ofSecs 60⟩] := by
  intro l store cache tiers done calls
  have hfrom (answer : Store.Answer) :=
    l.check_frame (store answer) ⟨10⟩ "a" maxCount tiers (Nat.le_refl _)
  have hvalid : ¬ ("a" = "" ∨ maxCount = 0) := by decide
  have hroom : ∀ e, cache.get? ⟨10⟩ "a" = some e → e.count < maxCount := by
    decide +kernel +zetaReduce
  obtain ⟨-, -, hasked, herror, -⟩ := hfrom (.ok ⟨1, .zero⟩)
  obtain ⟨-, -, hasked', -, hdecided⟩ := hfrom (.error .redis)
  have hclosed : (done (.ok ⟨1, .zero⟩)).answer = .error (.invariant (.closedWindow "a")) := rfl
  have hcounted : (done (.error .redis)).answer = .ok ⟨true, maxCount, 0, ⟨10⟩, .degraded⟩ := rfl
  exact ⟨hclosed, (herror _ hclosed).2, (hasked hvalid hroom).1, hcounted,
    (hdecided _ hcounted nofun).1 "b" (by decide), (hasked' hvalid hroom).1⟩

end Limiter

end FixedWindow
