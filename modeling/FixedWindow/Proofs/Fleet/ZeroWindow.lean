import FixedWindow.Proofs.Fleet.Failure
import FixedWindow.Proofs.Fleet.Server

/-!
# Limiters without a window

A limiter whose window is empty is of no use: it can open no window of its own in the local tier,
and one that it opens in the in-memory store is closed at once. Still, its checks do not always
fail. It sees the windows that others opened: an entry in a cache that it shares, which may deny its
check, and a window under its key in the store, which may decide it.

What decides is the answer of the store, if the local tier does not deny: figures that name an open
window, one that the clock can hold, decide the check, and anything else makes it fail. Whenever
such a check fails, the local tier has refused a write, and nothing has changed there.

## Main definitions

* `Store.WindowCount.IsOpen`: figures that name an open window.

## Main results

* `Limiter.conclude_of_isOpen`, `Limiter.conclude_of_not_isOpen`, `Limiter.conclude_error_of_zero`:
  what the answers of a store come to.
* `Store.Relay.exists_tally_of_isOpen`, `Store.Relay.exists_isOpen_of_tally`: what the in-memory
  store answers to a limiter without a window.
* `Fleet.decided_iff_of_zero`, `Fleet.decided_iff_inMemory`: when a check decides.
* `Fleet.HasNoWindow.refused`, `Fleet.HasNoWindow.step`: if no limiter has a window, every check
  fails.
-/

namespace FixedWindow

open Store (Relay Delivery)

/-! ### What answers come to -/

/-- The figures name a window that is open, and that the clock can hold. -/
def Store.WindowCount.IsOpen (figures : Store.WindowCount) (now : Instant) : Prop :=
  figures.ttl ≠ .zero ∧ (now.add? figures.ttl).isSome = true

instance (now : Instant) : DecidablePred (Store.WindowCount.IsOpen · now) := fun _ =>
  inferInstanceAs (Decidable (_ ∧ _))

namespace Limiter

variable (l : Limiter) (store : String) (degraded : Bool) (cache : Cache) (now : Instant)
  (subject : Subject) (limit : Nat)

/-- Figures that name an open window decide. -/
theorem conclude_of_isOpen {figures : Store.WindowCount} (h : figures.IsOpen now) :
    (l.conclude store degraded cache now subject limit (.ok figures)).answer =
      .ok (.ofCount figures.count limit figures.ttl .store) := by
  obtain ⟨hne, hfits⟩ := h
  obtain ⟨resetAt, hend⟩ := Option.isSome_iff_exists.mp hfits
  have hzero : figures.ttl.isZero = false := Span.isZero_eq_false_iff.mpr hne
  have hok : Cache.windowEnd now figures.ttl = .ok resetAt := Cache.windowEnd_eq_ok_iff.mpr hend
  simp only [conclude, settle, Cache.overwrite, hzero, hok, Bool.false_eq_true, if_false]

/-- Other figures are refused, and the local tier stays as it is. -/
theorem conclude_of_not_isOpen {figures : Store.WindowCount} (h : ¬ figures.IsOpen now) :
    let done := l.conclude store degraded cache now subject limit (.ok figures)
    (∃ refusal, done.answer = .error (.invariant refusal)) ∧ done.state.2 = cache := by
  cases hzero : figures.ttl.isZero with
  | true =>
    simp only [conclude, settle, Cache.overwrite, hzero, if_true]
    exact ⟨⟨_, rfl⟩, trivial⟩
  | false =>
    have hne : figures.ttl ≠ .zero := fun hz => by
      rw [hz] at hzero
      cases hzero
    have hnone : now.add? figures.ttl = none := by
      rw [← Option.not_isSome_iff_eq_none]
      exact fun hsome => h ⟨hne, hsome⟩
    simp only [conclude, settle, Cache.overwrite, Cache.windowEnd, hzero, hnone,
      Bool.false_eq_true, if_false]
    exact ⟨⟨_, rfl⟩, trivial⟩

/-- After a failure of the store a limiter without a window is refused, and the local tier stays as
it is. -/
theorem conclude_error_of_zero (hwindow : l.window = .zero) (e : StoreError) :
    let done := l.conclude store degraded cache now subject limit (.error e)
    done.answer = .error (.invariant (.zeroWindow subject.text)) ∧ done.state.2 = cache := by
  have hzero : l.window.isZero = true := Span.isZero_eq_true_iff.mpr hwindow
  simp only [conclude, settle, Cache.increment, hzero, if_true, and_self]

end Limiter

/-! ### What the two stores answer -/

theorem Instant.add?_zero {t : Instant} (h : t ≤ last) : t.add? .zero = some t :=
  add?_eq_some_iff.mpr ⟨h, rfl⟩

/-- A limiter without a window is told of an open window only if its call succeeds, and another
limiter has opened one under the key. -/
theorem Store.Relay.exists_tally_of_isOpen {d : Delivery} (hd : d.IsPlain) {r : Relay}
    {now : Instant} (call : Call) (hwindow : call.window = .zero) {figures : WindowCount}
    (hanswer : (r.increment d now call).answer = .ok figures) (hopen : figures.IsOpen now) :
    d = .sound ∧ ∃ t, r.tally? now call.key = some t := by
  obtain ⟨rfl, newEnd, hend⟩ := sound_of_answer_ok hd hanswer
  refine ⟨rfl, Option.ne_none_iff_exists'.mp fun hnone => hopen.1 ?_⟩
  rw [answer_increment_sound r call hend, hnone] at hanswer
  cases hanswer
  -- a window that the call opens is as empty as the one it asks for
  exact (Instant.since_of_add? hend).trans hwindow

/-- A limiter without a window is told of the window that is open under its key, if its call
succeeds. -/
theorem Store.Relay.exists_isOpen_of_tally {r : Relay} {now : Instant}
    (hlast : r.inner.EndsBy Instant.last) (call : Call) (hwindow : call.window = .zero) {t : Tally}
    (ht : r.tally? now call.key = some t) :
    ∃ figures, (r.increment .sound now call).answer = .ok figures ∧ figures.IsOpen now := by
  have hlt : now < t.closesAt := Memory.lt_of_tally? ht
  have hle : t.closesAt ≤ Instant.last := hlast.closesAt_le ht
  have hend : now.add? call.window = some now := by
    rw [hwindow]
    exact Instant.add?_zero (Nat.le_of_lt (Nat.lt_of_lt_of_le hlt hle))
  refine ⟨_, answer_increment_sound r call hend, ?_, ?_⟩
  · rw [ht]
    exact Instant.since_ne_zero hlt
  · rw [ht]
    exact Option.isSome_iff_exists.mpr ⟨_, Instant.add?_since (Nat.le_of_lt hlt) hle⟩

/-- A call without a window opens none, so that a key that shows nothing goes on showing nothing. -/
theorem Store.Relay.tally?_increment_of_zero (d : Delivery) {r : Relay} {now : Instant}
    {call : Call} (hwindow : call.window = .zero) {key : String}
    (hnone : r.tally? now key = none) :
    (r.increment d now call).state.tally? now key = none := by
  by_cases hkey : key = call.key
  · subst hkey
    unfold tally? at hnone ⊢
    rcases inner_increment d r now call with hinner | hinner
    · rw [hinner, hnone]
    · cases hend : now.add? call.window with
      | none => rw [hinner, Memory.increment_of_add?_eq_none r.inner hend, hnone]
      | some newEnd =>
        obtain ⟨-, rfl⟩ := Instant.add?_eq_some_iff.mp hend
        rw [hinner, Memory.tally?_increment_self r.inner hend, hnone, hwindow]
        exact Tally.open?_of_le (Nat.le_refl _)
  · rw [tally?_increment_of_ne d r now hkey, hnone]

namespace Fleet

variable {σ δ : Type} {members : Nat → Member} {i : Nat}

/-! ### One check -/

section Check

variable (hwindow : (members i).limiter.window = .zero) (subject : Subject) {limit : Nat}
  (hlimit : 0 < limit) (service : Store.Service σ δ) (f : Fleet σ) (fares : δ)

include hwindow hlimit

/-- A check through a limiter without a window is denied by a full local tally, is decided by
figures of the store that name an open window, or is refused; then the caches stay as they are. -/
theorem cases_of_zero :
    let p := f.passage members service (.check i subject.text limit fares)
    let full := ∃ t, f.cached? (members i).cache subject.text = some t ∧ limit ≤ t.count
    let open? := ∃ figures, p.reply = some (.ok figures) ∧ figures.IsOpen f.now
    ((full ∨ open?) ∧ ∃ d, p.answer = some (.ok d)) ∨
      ¬ (full ∨ open?) ∧ (∃ refusal, p.answer = some (.error (.invariant refusal))) ∧
        p.after.caches = f.caches := by
  intro p full open?
  rcases f.full_or_room (members i).cache subject.text limit with hfull | hroom
  · obtain ⟨t, ht, hle⟩ := hfull
    have hdenied := check_of_full members i hlimit (service.backend fares) ht hle
    exact .inl ⟨.inl ⟨t, ht, hle⟩, _, congrArg some (congrArg Effect.answer hdenied)⟩
  have hnotfull : ¬ full := fun ⟨t, ht, hle⟩ => Nat.not_lt.mpr hle (hroom t ht)
  have hasks := check_of_room members i hlimit hroom (service.backend fares)
  have hanswer : p.answer =
      some (f.ask members (service.backend fares) i subject limit).answer :=
    congrArg some (congrArg Effect.answer hasks)
  have hcaches : p.after.caches =
      (f.ask members (service.backend fares) i subject limit).state.caches :=
    congrArg (fun done => done.state.caches) hasks
  have hreply : p.reply = _ := reply?_of_room members i hlimit hroom service fares
  rw [hanswer, hcaches]
  simp only [ask]
  generalize ((service.backend fares).increment f.store f.now (call members i subject)).answer =
    answer at hreply
  cases answer with
  | error e =>
    obtain ⟨hrefused, hcache⟩ := (members i).limiter.conclude_error_of_zero
      (service.backend fares).name (f.degraded i) (f.caches (members i).cache) f.now subject limit
      hwindow e
    refine .inr ⟨?_, ⟨_, congrArg some hrefused⟩, ?_⟩
    · rintro (hfull | ⟨figures, hfigures, -⟩)
      · exact hnotfull hfull
      · cases hreply.symm.trans hfigures
    · rw [hcache, setAt_self]
  | ok figures =>
    by_cases hopen : figures.IsOpen f.now
    · exact .inl ⟨.inr ⟨figures, hreply, hopen⟩, _,
        congrArg some ((members i).limiter.conclude_of_isOpen _ _ _ _ subject limit hopen)⟩
    · obtain ⟨⟨refusal, hrefused⟩, hcache⟩ := (members i).limiter.conclude_of_not_isOpen
        (service.backend fares).name (f.degraded i) (f.caches (members i).cache) f.now subject limit
        hopen
      refine .inr ⟨?_, ⟨refusal, congrArg some hrefused⟩, ?_⟩
      · rintro (hfull | ⟨other, hother, hisOpen⟩)
        · exact hnotfull hfull
        · cases hreply.symm.trans hother
          exact hopen hisOpen
      · rw [hcache, setAt_self]

/-- A check through a limiter without a window decides exactly if it is denied by a full local
tally, or the store names an open window. -/
theorem decided_iff_of_zero :
    let p := f.passage members service (.check i subject.text limit fares)
    (∃ d, p.answer = some (.ok d)) ↔
      (∃ t, f.cached? (members i).cache subject.text = some t ∧ limit ≤ t.count) ∨
        ∃ figures, p.reply = some (.ok figures) ∧ figures.IsOpen f.now := by
  intro p
  rcases cases_of_zero hwindow subject hlimit service f fares
    with ⟨hholds, hanswer⟩ | ⟨hnot, ⟨refusal, hrefused⟩, -⟩
  · exact iff_of_true hanswer hholds
  · refine iff_of_false (fun ⟨d, hd⟩ => ?_) hnot
    cases hrefused.symm.trans hd

end Check

/-- Over an in-memory store a check through a limiter without a window decides exactly if it is
denied by a full local tally, or heard by a store in which a window is open under its key. -/
theorem decided_iff_inMemory (hwindow : (members i).limiter.window = .zero) (name : String)
    {f : Fleet Relay} (hlast : f.store.inner.EndsBy Instant.last) (subject : Subject) {limit : Nat}
    (hlimit : 0 < limit) {d : Delivery} (hplain : d.IsPlain) :
    (∃ dec, (f.passage members (Relay.service name) (.check i subject.text limit d)).answer =
        some (.ok dec)) ↔
      (∃ t, f.cached? (members i).cache subject.text = some t ∧ limit ≤ t.count) ∨
        d = .sound ∧ ∃ t, f.stored? (subject.storeKey (members i).limiter.keyPrefix) = some t := by
  have hdecided := decided_iff_of_zero hwindow subject hlimit (Relay.service name) f d
  rcases f.full_or_room (members i).cache subject.text limit with hfull | hroom
  · exact iff_of_true (hdecided.mpr (.inl hfull)) (.inl hfull)
  · have hreply : (f.passage members (Relay.service name)
        (.check i subject.text limit d)).reply =
          some (f.store.increment d f.now (call members i subject)).answer :=
      reply?_of_room members i hlimit hroom (Relay.service name) d
    refine hdecided.trans (or_congr Iff.rfl ⟨?_, ?_⟩)
    · rintro ⟨figures, hfigures, hopen⟩
      exact Relay.exists_tally_of_isOpen hplain (call members i subject) hwindow
        (Option.some.inj (hreply.symm.trans hfigures)) hopen
    · rintro ⟨rfl, t, ht⟩
      obtain ⟨figures, hanswer, hopen⟩ :=
        Relay.exists_isOpen_of_tally hlast (call members i subject) hwindow ht
      exact ⟨figures, hreply.trans (congrArg some hanswer), hopen⟩

/-! ### Fleets without windows -/

/-- No window is open in any tier. -/
structure HasNoWindow (f : Fleet Relay) : Prop where
  cached : ∀ j subject, f.cached? j subject = none
  stored : ∀ key, f.stored? key = none

theorem hasNoWindow_fresh (now : Instant) : (fresh now).HasNoWindow :=
  ⟨fun _ _ => rfl, fun _ => rfl⟩

section AllZero

variable (hwindow : ∀ i, (members i).limiter.window = .zero) (name : String) {f : Fleet Relay}
  (h : f.HasNoWindow)

include hwindow h

/-- If no limiter has a window and none is open, a check of a subject is refused. -/
theorem HasNoWindow.refused (i : Nat) (subject : Subject) {limit : Nat} (hlimit : 0 < limit)
    {d : Delivery} (hplain : d.IsPlain) :
    let p := f.passage members (Relay.service name) (.check i subject.text limit d)
    (∃ refusal, p.answer = some (.error (.invariant refusal))) ∧ p.after.caches = f.caches := by
  intro p
  have hroom : ∀ t, f.cached? (members i).cache subject.text = some t → t.count < limit :=
    fun t ht => by cases (h.cached _ _).symm.trans ht
  have hreply : p.reply = some (f.store.increment d f.now (call members i subject)).answer :=
    reply?_of_room members i hlimit hroom (Relay.service name) d
  rcases cases_of_zero (hwindow i) subject hlimit (Relay.service name) f d
    with ⟨⟨t, ht, -⟩ | ⟨figures, hfigures, hopen⟩, -⟩ | ⟨-, hrefused⟩
  · cases (h.cached _ _).symm.trans ht
  · obtain ⟨-, t, ht⟩ := Relay.exists_tally_of_isOpen hplain (call members i subject)
      (hwindow i) (Option.some.inj (hreply.symm.trans hfigures)) hopen
    cases (h.stored _).symm.trans ht
  · exact hrefused

/-- If no limiter has a window, none is ever open, provided that the clock does not go back. -/
theorem HasNoWindow.step {s : Step Delivery} (hforward : f.now ≤ s.clock f.now)
    (hplain : s.OnCheck fun _ _ _ fares => fares.IsPlain) :
    (f.step members (Relay.service name) s).state.HasNoWindow := by
  have hwaits (hs : ∀ subject, s.checks subject = false) (j : Nat) (subject : String) :
      (f.step members (Relay.service name) s).state.cached? j subject = none := by
    rw [cached?_step members _ f j (hs subject) hforward, h.cached]
    rfl
  cases s with
  | set time =>
    refine ⟨hwaits fun _ => rfl, fun key => ?_⟩
    refine (Store.Memory.tally?_later _ key hforward).trans ?_
    exact congrArg (Tally.open? · time) (h.stored key)
  | sweepCache i => exact ⟨hwaits fun _ => rfl, h.stored⟩
  | sweepStore =>
    exact ⟨hwaits fun _ => rfl, fun key => (Relay.tally?_sweep f.store f.now key).trans
      (h.stored key)⟩
  | check i raw limit fares =>
    constructor
    · by_cases hraw : raw = ""
      · subst hraw
        rw [Fleet.step, check_of_empty]
        exact h.cached
      rcases Nat.eq_zero_or_pos limit with rfl | hlimit
      · rw [Fleet.step, check_of_zero members i _ f ⟨raw, hraw⟩]
        exact h.cached
      · intro j subject
        have hcaches := (h.refused hwindow name i ⟨raw, hraw⟩ hlimit hplain).2
        exact (congrArg (fun caches => (caches j).tally? f.now subject) hcaches).trans
          (h.cached j subject)
    · intro key
      rcases (members i).limiter.store_check ((Relay.service name).backend fares) f.now raw limit
        (f.tiers (members i) i) with hstore | ⟨s, -, hstore⟩
      · exact (congrArg (Relay.tally? · f.now key) hstore).trans (h.stored key)
      · exact (congrArg (Relay.tally? · f.now key) hstore).trans
          (Relay.tally?_increment_of_zero fares (hwindow i) (h.stored key))

end AllZero

/-! ### Runs -/

/-- Over any store, a check of a subject through a limiter without a window is decided or refused.
It is decided exactly if a full live entry denies it, or the store answers with figures that name an
open window. In a run over an in-memory store whose calls succeed or fail, the latter means that the
call succeeds and a window is open under its key; if no limiter has a window, and the clock does not
go back, that is never the case. -/
theorem checks_without_window (members : Nat → Member) :
    (∀ (σ δ : Type) (service : Store.Service σ δ) (f : Fleet σ) (i : Nat) (subject : Subject)
        (limit : Nat) (fares : δ), (members i).limiter.window = .zero → 0 < limit →
      let p := f.passage members service (.check i subject.text limit fares)
      ((∃ d, p.answer = some (.ok d)) ∨
          ∃ refusal, p.answer = some (.error (.invariant refusal))) ∧
        ((∃ d, p.answer = some (.ok d)) ↔
          (∃ t, f.cached? (members i).cache subject.text = some t ∧ limit ≤ t.count) ∨
            ∃ figures, p.reply = some (.ok figures) ∧ figures.IsOpen f.now)) ∧
      ∀ (name : String) (start : Instant) (steps : List (Step Delivery)),
        (∀ s ∈ steps, s.OnCheck fun _ _ _ fares => fares.IsPlain) →
        let ps := (fresh start).passages members (Relay.service name) steps
        (∀ p ∈ ps, p.step.OnCheck fun i raw limit fares => ∀ subject : Subject,
            subject.text = raw → (members i).limiter.window = .zero → 0 < limit →
          ((∃ d, p.answer = some (.ok d)) ↔
            (∃ t, p.before.cached? (members i).cache raw = some t ∧ limit ≤ t.count) ∨
              fares = .sound ∧
                ∃ t, p.before.stored? (subject.storeKey (members i).limiter.keyPrefix) = some t)) ∧
          (Forward start steps → (∀ i, (members i).limiter.window = .zero) →
            ∀ p ∈ ps, p.step.OnCheck fun _ raw limit _ => raw ≠ "" → 0 < limit →
              ∃ refusal, p.answer = some (.error (.invariant refusal))) := by
  refine ⟨fun σ δ service f i subject limit fares hwindow hlimit => ⟨?_, ?_⟩,
    fun name start steps hplain => ⟨fun p hp => ?_, fun hforward hwindow p hp => ?_⟩⟩
  · rcases cases_of_zero hwindow subject hlimit service f fares
      with ⟨-, hdecided⟩ | ⟨-, hrefused, -⟩
    · exact .inl hdecided
    · exact .inr hrefused
  · exact decided_iff_of_zero hwindow subject hlimit service f fares
  · obtain ⟨g, s, rfl, hlast, hs⟩ := forall_passages members (Relay.service name)
      (I := fun g => g.store.inner.EndsBy Instant.last)
      (fun _ _ hlast _ => endsBy_last_step name hlast) (Store.Memory.endsBy_create start _)
      (along_of_forall (fun s hs _ => hplain s hs) start) p hp
    cases s with
    | set _ | sweepCache _ | sweepStore => trivial
    | check i raw limit fares =>
      rintro subject rfl hwindow hlimit
      exact decided_iff_inMemory hwindow name hlast subject hlimit hs
  · obtain ⟨g, s, rfl, hnone, hs⟩ := forall_passages members (Relay.service name)
      (I := HasNoWindow) (fun _ _ hg hs => hg.step hwindow name hs.2 hs.1) (hasNoWindow_fresh start)
      ((along_of_forall (fun s hs _ => hplain s hs) start).and hforward) p hp
    cases s with
    | set _ | sweepCache _ | sweepStore => trivial
    | check i raw limit fares =>
      intro hraw hlimit
      exact (hnone.refused hwindow name i ⟨raw, hraw⟩ hlimit hs.1).1

/-- Limiter `0` has no window. Its first check is refused; once limiter `1` has opened a window
under the key, the next one is decided by the store, and leaves an entry that denies a check under a
lower limit; while the store fails it is refused again. Over a server its first check is decided, in
a window of a millisecond. Without limiter `1` every check is refused. -/
theorem checks_without_window_of_others :
    let members (i : Nat) : Member := ⟨{ window := .ofSecs (60 * i) }, i⟩
    let noWindows (i : Nat) : Member := ⟨{ window := .zero }, i⟩
    let subject : Subject := ⟨"a", by decide⟩
    let steps : List (Step Delivery) :=
      [.check 0 "a" 5 .sound, .check 1 "a" 5 .sound, .check 0 "a" 5 .sound, .check 0 "a" 2 .sound,
        .check 0 "a" 5 (.lostAfter .redis)]
    let ps := (fresh .zero).passages members (Relay.service "memory") steps
    let qs := (fresh .zero).passages noWindows (Relay.service "memory") steps
    let client : Redis.Client Redis.Keyspace :=
      { connections := 1, timeout := .ofMillis 50, server := {} }
    let shared : Fleet (Redis.Client Redis.Keyspace) := { now := .zero, store := client }
    let p := shared.passage members (Redis.Client.service Redis.Keyspace.peer) (.check 0 "a" 5 ())
    (ps.map (fun p => p.answer.map fun answer => answer.toOption.map Decision.source) =
        [some none, some (some .store), some (some .store), some (some .cache), some none]) ∧
      (∀ p ∈ ps, p.step = .check 0 "a" 5 .sound →
        ((∃ d, p.answer = some (.ok d)) ↔
          (∃ t, p.before.cached? 0 "a" = some t ∧ 5 ≤ t.count) ∨
            ∃ t, p.before.stored? (subject.storeKey defaultKeyPrefix) = some t)) ∧
      (∀ p ∈ qs, p.step.OnCheck fun _ raw limit _ => raw ≠ "" → 0 < limit →
        ∃ refusal, p.answer = some (.error (.invariant refusal))) ∧
      p.answer.bind Except.toOption = some ⟨true, 5, 4, .ofMillis 1, .store⟩ ∧
      ((∃ d, p.answer = some (.ok d)) ↔
        (∃ t, shared.cached? 0 "a" = some t ∧ 5 ≤ t.count) ∨
          ∃ figures, p.reply = some (.ok figures) ∧ figures.IsOpen .zero) := by
  intro members noWindows subject steps ps qs client shared p
  have hplain : ∀ s ∈ steps, s.OnCheck fun _ _ _ fares => fares.IsPlain := by
    decide +zetaReduce
  obtain ⟨hany, hmemory⟩ := checks_without_window members
  obtain ⟨-, hnone⟩ := checks_without_window noWindows
  obtain ⟨hdecided, -⟩ := hmemory "memory" .zero steps hplain
  obtain ⟨-, hrefused⟩ := hnone "memory" .zero steps hplain
  obtain ⟨-, hserver⟩ := hany _ _ (Redis.Client.service Redis.Keyspace.peer) shared 0 subject 5 ()
    rfl (by decide)
  refine ⟨by decide +kernel +zetaReduce, fun p hp hstep => ?_,
    hrefused (by decide +zetaReduce) fun _ => rfl, by decide +kernel +zetaReduce, hserver⟩
  have hcheck := hdecided p hp
  rw [hstep] at hcheck
  exact (hcheck subject rfl rfl (by decide)).trans
    (or_congr Iff.rfl ⟨fun hheard => hheard.2, fun hopen => ⟨rfl, hopen⟩⟩)

end Fleet

end FixedWindow
