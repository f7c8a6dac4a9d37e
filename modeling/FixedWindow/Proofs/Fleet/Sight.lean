import FixedWindow.Proofs.Check
import FixedWindow.Proofs.Fleet.Timeline
import FixedWindow.Proofs.Store.Counting

/-!
# What a fleet shows of a subject

A check of a subject depends on a fleet only through the open window of the subject in the cache of
the limiter, and through what the store makes of the subject's key. These two are followed here
through the steps of a run. Any step but a check of the subject lets time pass and does nothing else
to them (`Fleet.cached?_step`, `Fleet.stored?_step`); a check of the subject finds a full local
tally, or is answered by the store, or is counted locally.

## Main definitions

* `Fleet.live?`: the live entry of a subject in a cache.
* `Fleet.cached?`, `Fleet.stored?`: the open window of a subject in a cache, of a key in the store.
* `Fleet.fresh`: limiters that have made no check, over an in-memory store of their own.
* `Fleet.ask`: a check that asks the store, whatever the local tier shows.
* `Fleet.Adopts`: what such a check is told and leaves in the local tier.

## Main results

* `Fleet.live?_step`, `Fleet.cached?_step`, `Fleet.stored?_step`: steps that do not check the
  subject.
* `Fleet.check_of_zero`, `Fleet.check_of_empty`, `Fleet.check_of_full`, `Fleet.check_of_room`: a
  check is rejected, or denied by a full local tally, or asks the store.
* `Fleet.ask_of_answer`, `Fleet.ask_of_failure`, `Fleet.ask_of_refusal`, `Fleet.ask_sound`: what
  comes of asking.
* `Fleet.adopts_of_source`: what a decision that rests on the store leaves behind.
-/

namespace FixedWindow.Fleet

open Store (Relay Delivery)

variable {σ δ : Type}

/-- The live entry of a subject in the cache numbered `j`. -/
def live? (f : Fleet σ) (j : Nat) (subject : String) : Option Entry :=
  (f.caches j).get? f.now subject

/-- The open window of a subject in the cache numbered `j`. -/
def cached? (f : Fleet σ) (j : Nat) (subject : String) : Option Tally :=
  (f.caches j).tally? f.now subject

/-- The open window of a key in the store. -/
def stored? (f : Fleet Relay) (key : String) : Option Tally := f.store.tally? f.now key

/-- Limiters that have made no check, over an in-memory store created now. -/
def fresh (now : Instant) : Fleet Relay := { now := now, store := .create now }

theorem cached?_eq_map (f : Fleet σ) (j : Nat) (subject : String) :
    f.cached? j subject = (f.live? j subject).map Entry.tally := rfl

theorem lt_of_cached? {f : Fleet σ} {j : Nat} {subject : String} {t : Tally}
    (h : f.cached? j subject = some t) : f.now < t.closesAt :=
  Cache.lt_of_tally? h

theorem lt_of_stored? {f : Fleet Relay} {key : String} {t : Tally}
    (h : f.stored? key = some t) : f.now < t.closesAt :=
  Store.Memory.lt_of_tally? h

theorem full_or_room (f : Fleet σ) (j : Nat) (subject : String) (limit : Nat) :
    (∃ t, f.cached? j subject = some t ∧ limit ≤ t.count) ∨
      ∀ t, f.cached? j subject = some t → t.count < limit := by
  by_cases h : ∃ t, f.cached? j subject = some t ∧ limit ≤ t.count
  · exact .inl h
  · exact .inr fun t ht => Nat.lt_of_not_le fun hle => h ⟨t, ht, hle⟩

@[simp] theorem setAt_self {α : Type} (g : Nat → α) (i : Nat) : setAt g i (g i) = g := by
  funext j
  unfold setAt
  split
  · rename_i h
    rw [h]
  · rfl

/-! ### Steps that do not check the subject -/

section Elsewhere

variable (members : Nat → Member)

theorem live?_check_of_ne (store : Store.Backend σ) (f : Fleet σ) (i j : Nat)
    {raw subject : String} (limit : Nat) (h : subject ≠ raw) :
    (f.check members store i raw limit).state.live? j subject = f.live? j subject := by
  simp only [live?, check, setAt]
  split
  · rename_i hj
    subst hj
    rcases (members i).limiter.cache_check store f.now raw limit (f.tiers (members i) i)
      with hcache | ⟨e, hcache⟩
    · rw [hcache]; rfl
    · rw [hcache, Cache.get?_put, if_neg h]
      rfl
  · rfl

/-- A step that does not check the subject lets time pass in every cache. -/
theorem live?_step (service : Store.Service σ δ) (f : Fleet σ) {s : Step δ} (j : Nat)
    {subject : String} (hs : s.checks subject = false) (hforward : f.now ≤ s.clock f.now) :
    (f.step members service s).state.live? j subject =
      (f.live? j subject).filter (·.isLive (s.clock f.now)) := by
  have hstill : f.live? j subject = (f.live? j subject).filter (·.isLive f.now) :=
    Cache.get?_later _ _ (Nat.le_refl _)
  cases s with
  | set time => exact Cache.get?_later _ _ hforward
  | check i raw limit fares =>
    have hne : subject ≠ raw := fun h => by simp [Step.checks, h] at hs
    exact (live?_check_of_ne members (service.backend fares) f i j limit hne).trans hstill
  | sweepCache i =>
    refine Eq.trans ?_ hstill
    simp only [live?, step, onCache, setAt]
    split
    · rename_i hj
      rw [Cache.get?_sweep, hj]
    · rfl
  | sweepStore => exact hstill

/-- A step that does not check the subject lets time pass for its window in every cache. -/
theorem cached?_step (service : Store.Service σ δ) (f : Fleet σ) {s : Step δ} (j : Nat)
    {subject : String} (hs : s.checks subject = false) (hforward : f.now ≤ s.clock f.now) :
    (f.step members service s).state.cached? j subject =
      Tally.open? (f.cached? j subject) (s.clock f.now) := by
  rw [cached?_eq_map, live?_step members service f j hs hforward, cached?_eq_map, Tally.open?,
    Option.filter_map]
  rfl

variable {members} {keyPrefix : String}
  (hshared : ∀ i, (members i).limiter.keyPrefix = keyPrefix)

include hshared in
theorem stored?_check_of_ne (name : String) (d : Delivery) (f : Fleet Relay) (i : Nat)
    {raw : String} {subject : Subject} (limit : Nat) (h : subject.text ≠ raw) :
    (f.check members ((Relay.service name).backend d) i raw limit).state.stored?
        (subject.storeKey keyPrefix) = f.stored? (subject.storeKey keyPrefix) := by
  rcases (members i).limiter.store_check ((Relay.service name).backend d) f.now raw limit
    (f.tiers (members i) i) with hstore | ⟨s, hs, hstore⟩
  · exact congrArg (Relay.tally? · f.now _) hstore
  · refine (congrArg (Relay.tally? · f.now _) hstore).trans ?_
    refine Relay.tally?_increment_of_ne d f.store f.now fun hkey => h ?_
    rw [hshared, Subject.storeKey_inj] at hkey
    rw [hkey, hs]

include hshared in
/-- A step that does not check the subject lets time pass in the store. -/
theorem stored?_step (name : String) (f : Fleet Relay) {s : Step Delivery} {subject : Subject}
    (hs : s.checks subject.text = false) (hforward : f.now ≤ s.clock f.now) :
    (f.step members (Relay.service name) s).state.stored? (subject.storeKey keyPrefix) =
      Tally.open? (f.stored? (subject.storeKey keyPrefix)) (s.clock f.now) := by
  have hstill : f.stored? (subject.storeKey keyPrefix) =
      Tally.open? (f.stored? (subject.storeKey keyPrefix)) f.now :=
    Store.Memory.tally?_later _ _ (Nat.le_refl _)
  cases s with
  | set time => exact Store.Memory.tally?_later _ _ hforward
  | check i raw limit fares =>
    have hne : subject.text ≠ raw := fun h => by simp [Step.checks, h] at hs
    exact (stored?_check_of_ne hshared name fares f i limit hne).trans hstill
  | sweepCache i => exact hstill
  | sweepStore => exact (Relay.tally?_sweep f.store f.now _).trans hstill

end Elsewhere

/-! ### Steps that check the subject -/

section Checked

private theorem cached?_of_put {f f' : Fleet σ} {j : Nat} (limit : Nat) {subject : String}
    {t : Tally} (hnow : f'.now = f.now)
    (hcaches : f'.caches = setAt f.caches j ((f.caches j).put subject ⟨t.count, limit, t.closesAt⟩))
    (hopen : f.now < t.closesAt) (k : Nat) (other : String) :
    f'.cached? k other = if k = j ∧ other = subject then some t else f.cached? k other := by
  simp only [cached?, hnow, hcaches, setAt]
  by_cases hk : k = j
  · subst hk
    rw [if_pos rfl, Cache.tally?_put _ subject other hopen]
    simp only [Entry.tally, true_and]
  · simp only [hk, false_and, if_false]

/-- The call that the limiter numbered `i` makes for a subject. -/
def call (members : Nat → Member) (i : Nat) (subject : Subject) : Store.Call :=
  ⟨subject.storeKey (members i).limiter.keyPrefix, (members i).limiter.window⟩

/-- A check of a subject that asks the store, whatever the local tier shows. -/
def ask (members : Nat → Member) (store : Store.Backend σ) (f : Fleet σ) (i : Nat)
    (subject : Subject) (limit : Nat) : Effect (Fleet σ) (Except LimitError Decision) :=
  let m := members i
  let served := store.increment f.store f.now (call members i subject)
  let done := m.limiter.conclude store.name (f.degraded i) (f.caches m.cache) f.now subject limit
    served.answer
  { answer := done.answer
    state := { f with
      degraded := setAt f.degraded i done.state.1
      caches := setAt f.caches m.cache done.state.2
      store := served.state }
    log := served.log ++ done.log }

/-- A check tells a tally that includes it, and the cache numbered `j` adopts this tally. -/
structure Adopts (f : Fleet σ) (j : Nat) (subject : String) (limit : Nat) (t : Tally)
    (source : Source) (done : Effect (Fleet σ) (Except LimitError Decision)) : Prop where
  answer : done.answer = .ok (.ofCount t.count limit (t.closesAt.since f.now) source)
  cached : ∀ k other, done.state.cached? k other =
    if k = j ∧ other = subject then some t else f.cached? k other

variable (members : Nat → Member) {f : Fleet σ} (i : Nat) {subject : Subject} {limit : Nat}

/-- A full local tally denies, and the fleet stays as it is. -/
theorem check_of_full (hlimit : 0 < limit) (store : Store.Backend σ) {t : Tally}
    (ht : f.cached? (members i).cache subject.text = some t) (hfull : limit ≤ t.count) :
    f.check members store i subject.text limit =
      { answer := .ok (.exhausted limit (t.closesAt.since f.now))
        state := f
        log := [.exhausted subject.text limit t.count] } := by
  have hopening := (members i).limiter.opening_of_full hlimit ht hfull
  simp only [check, Limiter.check_eq, tiers, hopening, setAt_self]

/-- A limit of zero is rejected, and the fleet stays as it is. -/
theorem check_of_zero (store : Store.Backend σ) (f : Fleet σ) (subject : Subject) :
    f.check members store i subject.text 0 =
      { answer := .error (.validation .zeroLimit), state := f } := by
  have hopening := (members i).limiter.opening_of_zero (f.caches (members i).cache) f.now subject
  simp only [check, Limiter.check_eq, tiers, hopening, setAt_self]

/-- The empty subject is rejected, and the fleet stays as it is. -/
theorem check_of_empty (store : Store.Backend σ) (f : Fleet σ) (limit : Nat) :
    f.check members store i "" limit =
      { answer := .error (.validation .emptySubject), state := f } := by
  have hopening : (members i).limiter.opening (f.caches (members i).cache) f.now "" limit =
      .settled (.error (.validation .emptySubject)) [] := rfl
  simp only [check, Limiter.check_eq, tiers, hopening, setAt_self]

/-- As long as the local tally leaves room, the store is asked. -/
theorem check_of_room (hlimit : 0 < limit)
    (hroom : ∀ t, f.cached? (members i).cache subject.text = some t → t.count < limit)
    (store : Store.Backend σ) :
    f.check members store i subject.text limit = f.ask members store i subject limit := by
  have hopening := (members i).limiter.opening_of_room hlimit hroom
  simp only [check, Limiter.check_eq, tiers, hopening, ask, call]

theorem reply?_of_room (hlimit : 0 < limit)
    (hroom : ∀ t, f.cached? (members i).cache subject.text = some t → t.count < limit)
    (service : Store.Service σ δ) (fares : δ) :
    f.reply? members service (.check i subject.text limit fares) =
      some ((service.backend fares).increment f.store f.now (call members i subject)).answer := by
  have hopening := (members i).limiter.opening_of_room hlimit hroom
  simp only [reply?, hopening, call]

theorem reply?_of_full (hlimit : 0 < limit) {t : Tally}
    (ht : f.cached? (members i).cache subject.text = some t) (hfull : limit ≤ t.count)
    (service : Store.Service σ δ) (fares : δ) :
    f.reply? members service (.check i subject.text limit fares) = none := by
  have hopening := (members i).limiter.opening_of_full hlimit ht hfull
  simp only [reply?, hopening]

/-- An answer of the store decides and becomes the local tally. -/
theorem ask_of_answer (limit : Nat) (store : Store.Backend σ) {t : Tally}
    (hanswer : (store.increment f.store f.now (call members i subject)).answer =
      .ok ⟨t.count, t.closesAt.since f.now⟩)
    (hopen : f.now < t.closesAt) (hlast : t.closesAt ≤ Instant.last) :
    f.Adopts (members i).cache subject.text limit t .store
      (f.ask members store i subject limit) := by
  obtain ⟨hdecision, hcache⟩ := (members i).limiter.conclude_ok store.name (f.degraded i)
    (f.caches (members i).cache) subject limit hopen hlast
  simp only [ask, hanswer]
  refine ⟨hdecision, fun k other => cached?_of_put limit ?_ ?_ hopen k other⟩
  · rfl
  · exact congrArg (setAt f.caches (members i).cache) hcache

/-- After a failure of the store the local tally counts the call and decides. -/
theorem ask_of_failure (limit : Nat) (store : Store.Backend σ) {e : StoreError} {newEnd : Instant}
    (hanswer : (store.increment f.store f.now (call members i subject)).answer = .error e)
    (hwindow : (members i).limiter.window ≠ .zero)
    (hend : f.cached? (members i).cache subject.text = none →
      f.now.add? (members i).limiter.window = some newEnd)
    (hword : ∀ t, f.cached? (members i).cache subject.text = some t → t.count < maxCount) :
    f.Adopts (members i).cache subject.text limit
      (Tally.next (f.cached? (members i).cache subject.text) newEnd) .degraded
      (f.ask members store i subject limit) := by
  obtain ⟨hdecision, hcache⟩ := (members i).limiter.conclude_error store.name (f.degraded i)
    (f.caches (members i).cache) subject limit hwindow hend hword e
  have hopen : f.now < (Tally.next (f.cached? (members i).cache subject.text) newEnd).closesAt :=
    Tally.closesAt_next (fun _ => lt_of_cached?) fun h => Instant.lt_of_add? (hend h) hwindow
  simp only [ask, hanswer]
  refine ⟨hdecision, fun k other => cached?_of_put limit ?_ ?_ hopen k other⟩
  · rfl
  · exact congrArg (setAt f.caches (members i).cache) hcache

/-- After a failure of the store, a check for which the clock cannot hold a window is refused, and
the caches stay as they are. -/
theorem ask_of_refusal (limit : Nat) (store : Store.Backend σ) {e : StoreError}
    (hanswer : (store.increment f.store f.now (call members i subject)).answer = .error e)
    (hwindow : (members i).limiter.window ≠ .zero)
    (hnone : f.cached? (members i).cache subject.text = none)
    (hend : f.now.add? (members i).limiter.window = none) :
    (f.ask members store i subject limit).answer =
        .error (.invariant (.clockOverflow (members i).limiter.window)) ∧
      (f.ask members store i subject limit).state.caches = f.caches := by
  obtain ⟨herror, hcache⟩ := (members i).limiter.conclude_error_of_add?_eq_none store.name
    (f.degraded i) (f.caches (members i).cache) subject limit hwindow hnone hend e
  simp only [ask, hanswer, hcache, setAt_self]
  exact ⟨herror, trivial⟩

end Checked

/-! ### The in-memory store in a check of the subject -/

section InMemory

variable {members : Nat → Member} {keyPrefix : String}
  (hshared : ∀ i, (members i).limiter.keyPrefix = keyPrefix)
  {f : Fleet Relay} (name : String) (i : Nat) (subject : Subject) (limit : Nat)

include hshared

/-- However a check fares, the key of its subject keeps its tally or gains the call. -/
theorem stored?_check (d : Delivery) (hwindow : (members i).limiter.window ≠ .zero) :
    let done := f.check members ((Relay.service name).backend d) i subject.text limit
    let key := subject.storeKey keyPrefix
    done.state.stored? key = f.stored? key ∨
      ∃ newEnd, f.now.add? (members i).limiter.window = some newEnd ∧
        done.state.stored? key = some (Tally.next (f.stored? key) newEnd) := by
  rcases (members i).limiter.store_check ((Relay.service name).backend d) f.now subject.text limit
    (f.tiers (members i) i) with hstore | ⟨s, hs, hstore⟩
  · exact .inl (congrArg (Relay.tally? · f.now _) hstore)
  · obtain rfl : s = subject := Subject.ext hs
    rw [hshared] at hstore
    have hseen := congrArg (Relay.tally? · f.now (s.storeKey keyPrefix)) hstore
    rcases Relay.tally?_increment d f.store f.now
      ⟨s.storeKey keyPrefix, (members i).limiter.window⟩ hwindow with h | ⟨newEnd, hend, h⟩
    · exact .inl (hseen.trans h)
    · exact .inr ⟨newEnd, hend, hseen.trans h⟩

theorem stored?_ask_of_ne (d : Delivery) {other : Subject} (h : other.text ≠ subject.text) :
    (f.ask members ((Relay.service name).backend d) i subject limit).state.stored?
        (other.storeKey keyPrefix) = f.stored? (other.storeKey keyPrefix) := by
  rw [← hshared i]
  exact Relay.tally?_increment_of_ne d f.store f.now fun hkey => h (Subject.storeKey_inj.mp hkey)

omit hshared in
theorem not_storeFailed_of_sound (raw : String)
    (hreach : (f.now.add? (members i).limiter.window).isSome = true) :
    ¬ (f.passage members (Relay.service name) (.check i raw limit .sound)).StoreFailed := by
  rintro ⟨e, he⟩
  simp only [passage, reply?] at he
  split at he
  · cases he
  · rename_i s call hask
    obtain ⟨rfl, rfl⟩ := Limiter.of_opening_eq_ask _ hask
    obtain ⟨newEnd, hend⟩ := Option.isSome_iff_exists.mp hreach
    cases (Option.some.inj he).symm.trans (Relay.answer_increment_sound f.store _ hend)

variable (hwindow : (members i).limiter.window ≠ .zero) {newEnd : Instant}
  (hend : f.now.add? (members i).limiter.window = some newEnd)

include hwindow hend

theorem stored?_ask {d : Delivery} (hd : d.Applies) :
    (f.ask members ((Relay.service name).backend d) i subject limit).state.stored?
        (subject.storeKey keyPrefix) =
      some (Tally.next (f.stored? (subject.storeKey keyPrefix)) newEnd) := by
  rw [← hshared i]
  exact Relay.tally?_increment_of_applies hd f.store (call members i subject) hwindow hend

/-- A sound call is told the store's tally with the call in it, which becomes the local one. -/
theorem ask_sound
    (hlast : ∀ u, f.stored? (subject.storeKey keyPrefix) = some u → u.closesAt ≤ Instant.last) :
    let t := Tally.next (f.stored? (subject.storeKey keyPrefix)) newEnd
    let done := f.ask members ((Relay.service name).backend .sound) i subject limit
    f.Adopts (members i).cache subject.text limit t .store done ∧
      done.state.stored? (subject.storeKey keyPrefix) = some t := by
  have hopen : f.now < (Tally.next (f.stored? (subject.storeKey keyPrefix)) newEnd).closesAt :=
    Tally.closesAt_next (fun _ => lt_of_stored?) fun _ => Instant.lt_of_add? hend hwindow
  have hin : (Tally.next (f.stored? (subject.storeKey keyPrefix)) newEnd).closesAt ≤
      Instant.last :=
    Tally.closesAt_next (P := (· ≤ Instant.last)) hlast fun _ => Instant.le_last_of_add? hend
  obtain rfl := hshared i
  exact ⟨ask_of_answer members i limit ((Relay.service name).backend .sound)
      (Relay.answer_increment_sound f.store (call members i subject) hend) hopen hin,
    stored?_ask hshared name i subject limit hwindow hend trivial⟩

omit hwindow hend

/-- A check whose decision rests on the store is told the store's tally with the call in it, which
becomes the local one. -/
theorem adopts_of_source (hlimit : 0 < limit) {d : Delivery} (hplain : d.IsPlain)
    (hwindow : (members i).limiter.window ≠ .zero) {dec : Decision}
    (hanswer : (f.check members ((Relay.service name).backend d) i subject.text limit).answer =
      .ok dec) (hsource : dec.source = .store) :
    ∃ newEnd, let t := Tally.next (f.stored? (subject.storeKey keyPrefix)) newEnd
      let done := f.check members ((Relay.service name).backend d) i subject.text limit
      f.Adopts (members i).cache subject.text limit t .store done ∧
        done.state.stored? (subject.storeKey keyPrefix) = some t ∧ t.closesAt ≤ Instant.last := by
  rcases f.full_or_room (members i).cache subject.text limit with ⟨t, ht, hle⟩ | hroom
  · rw [check_of_full members i hlimit ((Relay.service name).backend d) ht hle] at hanswer
    cases hanswer
    cases hsource
  · rw [check_of_room members i hlimit hroom] at hanswer ⊢
    obtain ⟨figures, hfigures, -⟩ := (members i).limiter.of_conclude_source name
      (f.degraded i) (f.caches (members i).cache) f.now subject limit hanswer hsource
    obtain ⟨rfl, newEnd, hend⟩ := Relay.sound_of_answer_ok hplain hfigures
    obtain rfl := hshared i
    have hsound := Relay.answer_increment_sound f.store (call members i subject) hend
    have hopen : f.now < (Tally.next (f.stored?
        (subject.storeKey (members i).limiter.keyPrefix)) newEnd).closesAt :=
      Tally.closesAt_next (fun _ => lt_of_stored?) fun _ => Instant.lt_of_add? hend hwindow
    -- had the window ended beyond the clock, the local tier would have refused the figures
    have hlast : (Tally.next (f.stored?
        (subject.storeKey (members i).limiter.keyPrefix)) newEnd).closesAt ≤ Instant.last := by
      refine (members i).limiter.within_of_conclude_ok name (f.degraded i)
        (f.caches (members i).cache) subject limit hopen (d := dec) ?_
      rw [← hanswer]
      exact congrArg (fun answer => ((members i).limiter.conclude name (f.degraded i)
        (f.caches (members i).cache) f.now subject limit answer).answer) hsound.symm
    exact ⟨newEnd, ask_of_answer members i limit ((Relay.service name).backend .sound) hsound
      hopen hlast, stored?_ask hshared name i subject limit hwindow hend trivial, hlast⟩

theorem of_check_source (hlimit : 0 < limit) {d : Delivery} (hplain : d.IsPlain)
    (hwindow : (members i).limiter.window ≠ .zero) {dec : Decision}
    (hanswer : (f.check members ((Relay.service name).backend d) i subject.text limit).answer =
      .ok dec) (hsource : dec.source = .store) :
    ∃ newEnd, let t := Tally.next (f.stored? (subject.storeKey keyPrefix)) newEnd
      (f.check members ((Relay.service name).backend d) i subject.text limit).state.stored?
          (subject.storeKey keyPrefix) = some t ∧
        dec = .ofCount t.count limit (t.closesAt.since f.now) .store := by
  obtain ⟨newEnd, hadopts, hstored, -⟩ :=
    adopts_of_source hshared name i subject limit hlimit hplain hwindow hanswer hsource
  exact ⟨newEnd, hstored, Except.ok.inj (hanswer.symm.trans hadopts.answer)⟩

end InMemory

end FixedWindow.Fleet
