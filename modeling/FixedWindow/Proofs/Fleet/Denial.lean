import FixedWindow.Proofs.Fleet.Sight

/-!
# Denials last until their reset

A check is denied by a full local entry, or by figures of the store that are beyond the limit; a
check that is counted locally is never denied. Either way the cache is left *blocking*: it holds an
entry of the subject that has reached the limit and closes at the very instant that the denial
announces. Nothing removes this entry before that instant. Sweeps keep it, the checks of other
subjects do not touch it, and the checks of its own subject through the same cache find it full, as
long as they ask for no higher limit; so they are denied in their turn, without a call to the store,
whatever the store would have said. The clock may be moved in any way that stays before the reset.

## Main definitions

* `Fleet.Blocks`: a cache holds an entry that has reached a limit and closes at a given instant.

## Main results

* `Fleet.blocks_of_denied`: a denial leaves its cache blocking until the announced reset.
* `Fleet.Blocks.step`, `Fleet.Blocks.check`: what a step keeps of this, and what a check is told.
* `Fleet.denials_until_reset`: a denial lasts until its reset.
-/

namespace FixedWindow

/-! ### Decisions that deny -/

/-- A call that is counted locally stays within the limit if there was room under it. -/
theorem Cache.count_le_of_increment (c : Cache) {now : Instant} {subject : String} {limit : Nat}
    {window : Span} (hlimit : 0 < limit)
    (hroom : ∀ t, c.tally? now subject = some t → t.count < limit) {e : Entry}
    (h : (c.increment now subject limit window).answer = .ok e) : e.count ≤ limit := by
  unfold increment at h
  split at h
  · cases h
  · split at h
    · rename_i live hlive
      have hless : live.count < limit := hroom live.tally (by rw [tally?, hlive, Option.map_some])
      split at h
      · cases h
        exact hless
      · cases h
    · split at h
      · cases h
      · cases h
        exact hlimit

namespace Limiter

variable (l : Limiter) {cache : Cache} {now : Instant} {subject : Subject} {limit : Nat}

theorem allowed_of_conclude_error (store : String) (degraded : Bool) {e : StoreError}
    (hlimit : 0 < limit) (hroom : ∀ t, cache.tally? now subject.text = some t → t.count < limit)
    {d : Decision}
    (h : (l.conclude store degraded cache now subject limit (.error e)).answer = .ok d) :
    d.allowed = true := by
  simp only [conclude, settle] at h
  split at h
  · cases h
  · rename_i entry hentry
    cases h
    exact Decision.allowed_ofCount.mpr (cache.count_le_of_increment hlimit hroom hentry)

end Limiter

namespace Fleet

open Store (Relay Delivery)

variable {σ δ : Type}

/-! ### Caches that block -/

/-- The cache numbered `j` holds an entry of the subject that has reached the limit and closes at
`reset`, whatever the clock shows. -/
def Blocks (f : Fleet σ) (j : Nat) (subject : String) (limit : Nat) (reset : Instant) : Prop :=
  ∃ e, (f.caches j).entries.get? subject = some e ∧ limit ≤ e.count ∧ e.resetAt = reset

theorem blocks_of_cached? {f : Fleet σ} {j : Nat} {subject : String} {limit : Nat} {t : Tally}
    (ht : f.cached? j subject = some t) (hfull : limit ≤ t.count) :
    f.Blocks j subject limit t.closesAt := by
  obtain ⟨e, he, rfl⟩ := Option.map_eq_some_iff.mp ht
  exact ⟨e, (Cache.get?_eq_some_iff.mp he).1, hfull, rfl⟩

/-- A denial leaves its cache blocking until the announced reset, whatever the store is. -/
theorem blocks_of_denied (members : Nat → Member) (store : Store.Backend σ) {f : Fleet σ} (i : Nat)
    {subject : Subject} {limit : Nat} {d : Decision}
    (hanswer : (f.check members store i subject.text limit).answer = .ok d)
    (hdenied : d.allowed = false) :
    let reset : Instant := ⟨f.now.nanos + d.resetIn.nanos⟩
    f.now < reset ∧ (f.check members store i subject.text limit).state.Blocks (members i).cache
      subject.text limit reset := by
  intro reset
  have hlimit : 0 < limit := by
    refine Nat.pos_of_ne_zero fun hzero => ?_
    subst hzero
    rw [check_of_zero] at hanswer
    cases hanswer
  -- the reset that is announced is the end of the window that the denial is about
  have hreset {t : Tally} (hopen : f.now < t.closesAt) (hd : d.resetIn = t.closesAt.since f.now) :
      reset = t.closesAt := by
    have hless := Instant.lt_def.mp hopen
    ext
    simp only [reset, hd, Instant.since]
    omega
  rcases f.full_or_room (members i).cache subject.text limit with ⟨t, ht, hfull⟩ | hroom
  · have hopen := lt_of_cached? ht
    rw [check_of_full members i hlimit store ht hfull] at hanswer ⊢
    cases hanswer
    rw [hreset hopen rfl]
    exact ⟨hopen, blocks_of_cached? ht hfull⟩
  · rw [check_of_room members i hlimit hroom] at hanswer ⊢
    cases hserved : (store.increment f.store f.now (call members i subject)).answer with
    | error e =>
      simp only [ask, hserved] at hanswer
      have hallowed := (members i).limiter.allowed_of_conclude_error store.name (f.degraded i)
        hlimit hroom hanswer
      cases hdenied.symm.trans hallowed
    | ok figures =>
      obtain ⟨t, rfl, hopen, hlast⟩ := (members i).limiter.exists_tally_of_conclude_ok store.name
        (f.degraded i) (f.caches (members i).cache) subject limit
        (by simpa only [ask, hserved] using hanswer)
      have hadopts := ask_of_answer members i limit store hserved hopen hlast
      cases hanswer.symm.trans hadopts.answer
      have hover : limit ≤ t.count := by
        have hnot : ¬ t.count ≤ limit := of_decide_eq_false hdenied
        omega
      rw [hreset hopen rfl]
      exact ⟨hopen, blocks_of_cached? ((hadopts.cached _ _).trans (if_pos ⟨rfl, rfl⟩)) hover⟩

namespace Blocks

variable {f : Fleet σ} {j : Nat} {subject : Subject} {limit : Nat} {reset : Instant}

theorem exists_cached? (h : f.Blocks j subject.text limit reset) (hnow : f.now < reset) :
    ∃ t, f.cached? j subject.text = some t ∧ limit ≤ t.count ∧ t.closesAt = reset := by
  obtain ⟨e, he, hfull, rfl⟩ := h
  have hget : (f.caches j).get? f.now subject.text = some e :=
    Cache.get?_eq_some_iff.mpr ⟨he, hnow⟩
  exact ⟨e.tally, congrArg (Option.map Entry.tally) hget, hfull, rfl⟩

/-- What a check is told by a cache that blocks: it is denied, or rejected if it names no limit at
all. The fleet stays as it is. -/
theorem check (h : f.Blocks j subject.text limit reset) (hnow : f.now < reset)
    (members : Nat → Member) {i : Nat} (hi : (members i).cache = j) {used : Nat}
    (hused : used ≤ limit) (store : Store.Backend σ) :
    (f.check members store i subject.text used).answer =
        (if used = 0 then .error (.validation .zeroLimit)
          else .ok (.exhausted used (reset.since f.now))) ∧
      (f.check members store i subject.text used).state = f := by
  subst hi
  by_cases hzero : used = 0
  · subst hzero
    rw [check_of_zero]
    exact ⟨rfl, rfl⟩
  · obtain ⟨t, ht, hfull, rfl⟩ := h.exists_cached? hnow
    rw [check_of_full members i (Nat.pos_of_ne_zero hzero) store ht (Nat.le_trans hused hfull),
      if_neg hzero]
    exact ⟨rfl, rfl⟩

theorem reply? (h : f.Blocks j subject.text limit reset) (hnow : f.now < reset)
    (members : Nat → Member) {i : Nat} (hi : (members i).cache = j) {used : Nat}
    (hused : used ≤ limit) (service : Store.Service σ δ) (fares : δ) :
    f.reply? members service (.check i subject.text used fares) = none := by
  subst hi
  by_cases hzero : used = 0
  · subst hzero
    simp only [Fleet.reply?, Limiter.opening_of_zero]
  · obtain ⟨t, ht, hfull, -⟩ := h.exists_cached? hnow
    exact reply?_of_full members i (Nat.pos_of_ne_zero hzero) ht (Nat.le_trans hused hfull) service
      fares

/-- Before the reset, every step leaves the cache blocking, unless it is a check of the subject
through this cache that asks for a higher limit. -/
theorem step (h : f.Blocks j subject.text limit reset) (hnow : f.now < reset)
    (members : Nat → Member) (service : Store.Service σ δ) {s : Step δ}
    (hs : s.OnCheck fun k raw used _ => raw = subject.text → (members k).cache = j → used ≤ limit) :
    (f.step members service s).state.Blocks j subject.text limit reset := by
  cases s with
  | set time => exact h
  | sweepStore => exact h
  | sweepCache i =>
    obtain ⟨e, he, hfull, rfl⟩ := h
    refine ⟨e, ?_, hfull, rfl⟩
    simp only [Fleet.step, onCache, setAt]
    split
    · rename_i hj
      have hlive : e.isLive f.now = true := decide_eq_true hnow
      rw [Cache.sweep, Table.get?_retain, ← hj, he]
      exact Option.filter_some_pos hlive
    · exact he
  | check i raw used fares =>
    by_cases hj : (members i).cache = j
    · by_cases hraw : raw = subject.text
      · subst hraw
        have hstays := (h.check hnow members hj (hs rfl hj) (service.backend fares)).2
        simp only [Fleet.step, hstays]
        exact h
      · -- another subject's entry is written at most
        obtain ⟨e, he, hfull⟩ := h
        refine ⟨e, ?_, hfull⟩
        simp only [Fleet.step, Fleet.check, setAt, hj, if_true]
        rcases (members i).limiter.cache_check (service.backend fares) f.now raw used
          (f.tiers (members i) i) with hcache | ⟨e', hcache⟩
        · rw [hcache, ← he, ← hj]
          rfl
        · rw [hcache, Cache.put, Table.get?_insert_of_ne _ _ (Ne.symm hraw), ← he, ← hj]
          rfl
    · obtain ⟨e, he, hfull⟩ := h
      refine ⟨e, ?_, hfull⟩
      simp only [Fleet.step, Fleet.check, setAt, if_neg (Ne.symm hj), he]

end Blocks

/-- A denial lasts until the reset that it announces, whatever the store is and whatever it
answers. As long as the clock shows an earlier instant, and the checks of the subject through the
same cache ask for no higher limit, each of them is denied by the cache, with the time that is left
until that reset; it makes no call to the store and changes nothing. A check that names no limit at
all is rejected, as it would be at any time. -/
theorem denials_until_reset (members : Nat → Member) (service : Store.Service σ δ) (f : Fleet σ)
    (i : Nat) (subject : Subject) (limit : Nat) (fares : δ) (d : Decision)
    (hanswer : (f.check members (service.backend fares) i subject.text limit).answer = .ok d)
    (hdenied : d.allowed = false) (steps : List (Step δ)) :
    let reset : Instant := ⟨f.now.nanos + d.resetIn.nanos⟩
    let g := (f.check members (service.backend fares) i subject.text limit).state
    Along (fun now s => s.clock now < reset) g.now steps →
      (∀ s ∈ steps, s.OnCheck fun k raw used _ =>
        raw = subject.text → (members k).cache = (members i).cache → used ≤ limit) →
      ∀ p ∈ g.passages members service steps, p.step.OnCheck fun k raw used _ =>
        raw = subject.text → (members k).cache = (members i).cache →
          p.answer = some (if used = 0 then .error (.validation .zeroLimit)
            else .ok (.exhausted used (reset.since p.before.now))) ∧
          p.reply = none ∧ p.after = p.before := by
  intro reset g hbefore hlimits
  obtain ⟨hnow, hblocks⟩ := blocks_of_denied members (service.backend fares) i hanswer hdenied
  have hrun := forall_passages members service (f := g)
    (I := fun f => f.now < reset ∧ f.Blocks (members i).cache subject.text limit reset)
    (fun f s hf hs => ⟨(now_step members service f s).symm ▸ hs.1,
      hf.2.step hf.1 members service hs.2⟩)
    ⟨hnow, hblocks⟩ (hbefore.and (along_of_forall (fun s hs _ => hlimits s hs) g.now))
  intro p hp
  obtain ⟨f', s, rfl, ⟨hnow', hblocks'⟩, -, hs⟩ := hrun p hp
  cases s with
  | check k raw used fares' =>
    rintro rfl hk
    obtain ⟨hanswer', hstate⟩ :=
      hblocks'.check hnow' members hk (hs rfl hk) (service.backend fares')
    exact ⟨congrArg some hanswer', hblocks'.reply? hnow' members hk (hs rfl hk) service fares',
      hstate⟩
  | set _ | sweepCache _ | sweepStore => trivial

/-- The store reports nine calls under a limit of two, with thirty nanoseconds to go. The clock is
set back and then forward to the last instant before the reset; the caches and the store are swept,
another subject is checked, and so is this one through a limiter that shares the cache and through
one that does not, which alone asks the store. -/
theorem denials_until_reset_of_forged_reply :
    let members (i : Nat) : Member := ⟨{ window := ⟨10⟩ }, i / 2⟩
    let service := Relay.service "memory"
    let subject : Subject := ⟨"a", by decide⟩
    let f := fresh ⟨50⟩
    let denied := f.check members (service.backend (.forged ⟨9, ⟨30⟩⟩)) 0 subject.text 2
    let steps : List (Step Delivery) :=
      [.set ⟨10⟩, .sweepCache 0, .check 1 "a" 1 (.lostBefore .redis), .check 0 "b" 1 .sound,
        .set ⟨79⟩, .sweepCache 1, .sweepStore, .check 0 "a" 2 .sound, .check 2 "a" 7 .sound]
    denied.answer = .ok (.ofCount 9 2 ⟨30⟩ .store) ∧
      (∀ p ∈ denied.state.passages members service steps, p.step.OnCheck fun k raw used _ =>
        raw = "a" → (members k).cache = 0 →
          p.answer = some (if used = 0 then .error (.validation .zeroLimit)
            else .ok (.exhausted used ((⟨80⟩ : Instant).since p.before.now))) ∧
          p.reply = none ∧ p.after = p.before) ∧
      (denied.state.run members service steps).state.store.calls.map Store.Call.key =
        ["rate_limit:a", "rate_limit:b", "rate_limit:a"] := by
  intro members service subject f denied steps
  have hanswer : denied.answer = .ok (.ofCount 9 2 ⟨30⟩ .store) :=
    ok_of_toOption (by decide +kernel +zetaReduce)
  refine ⟨hanswer, ?_, by decide +kernel +zetaReduce⟩
  exact denials_until_reset members service f 0 subject 2 (.forged ⟨9, ⟨30⟩⟩) _ hanswer rfl
    steps (by decide +zetaReduce) (by decide +zetaReduce)

end Fleet

end FixedWindow
