import FixedWindow.Proofs.Fleet.Sight

/-!
# Caches that trail the store

As long as no call to the store fails, every cache *trails* the store on a subject: whatever it
shows of the subject is the window that the store has open, with a count that the store has reached.
A cache may be behind, because other limiters counted in the meantime, but it never shows a window
that the store has closed. A check keeps this, and it is denied by a full local tally only when the
store's own count has reached the limit.

## Main definitions

* `Fleet.Trails`: every cache trails the store on a subject.

## Main results

* `Fleet.trails_fresh`, `Fleet.Trails.step`, `Fleet.Trails.check`: it holds along a run whose calls
  to the store succeed, and what a check of the subject is told there.
-/

namespace FixedWindow.Fleet

open Store (Relay Delivery)

/-- Every cache shows of the subject the window that the store has open under the key, if any, with
a count that the store has reached; and the window ends within the clock. -/
structure Trails (f : Fleet Relay) (subject key : String) : Prop where
  behind : ∀ j t, f.cached? j subject = some t →
    ∃ u, f.stored? key = some u ∧ t.closesAt = u.closesAt ∧ t.count ≤ u.count
  within : ∀ u, f.stored? key = some u → u.closesAt ≤ Instant.last

theorem trails_fresh (now : Instant) (subject key : String) : Trails (fresh now) subject key where
  behind _ _ h := by cases h
  within _ h := by cases h

variable {members : Nat → Member} {keyPrefix : String}
  (hshared : ∀ i, (members i).limiter.keyPrefix = keyPrefix)
  {name : String} {f : Fleet Relay} {subject : Subject}

namespace Trails

include hshared in
/-- Time and the checks of other subjects keep the caches trailing. -/
theorem step (h : f.Trails subject.text (subject.storeKey keyPrefix)) {s : Step Delivery}
    (hs : s.checks subject.text = false) (hforward : f.now ≤ s.clock f.now) :
    (f.step members (Relay.service name) s).state.Trails subject.text
      (subject.storeKey keyPrefix) where
  behind j t ht := by
    rw [cached?_step members _ f j hs hforward] at ht
    obtain ⟨hcached, hopen⟩ := Tally.open?_eq_some_iff.mp ht
    obtain ⟨u, hstored, hend, hcount⟩ := h.behind j t hcached
    refine ⟨u, ?_, hend, hcount⟩
    rw [stored?_step hshared name f hs hforward, hstored]
    exact Tally.open?_of_lt (hend ▸ hopen)
  within u hu := by
    rw [stored?_step hshared name f hs hforward] at hu
    exact h.within u (Tally.open?_eq_some_iff.mp hu).1

variable {i limit : Nat} {d : Delivery}

include hshared in
/-- A check of the subject that meets no failure keeps the caches trailing. It is denied by a local
tally that is full, and then so is the store's; or it is told the store's tally with the call in
it. -/
theorem check (h : f.Trails subject.text (subject.storeKey keyPrefix)) (hlimit : 0 < limit)
    (hwindow : (members i).limiter.window ≠ .zero) (hplain : d.IsPlain)
    (hok : ∀ e, f.reply? members (Relay.service name) (.check i subject.text limit d) ≠
      some (.error e)) :
    let key := subject.storeKey keyPrefix
    let done := f.check members ((Relay.service name).backend d) i subject.text limit
    done.state.Trails subject.text key ∧ ∃ t, done.state.stored? key = some t ∧
      ((f.stored? key = some t ∧ limit ≤ t.count ∧
          done.answer = .ok (.exhausted limit (t.closesAt.since f.now))) ∨
        ∃ newEnd, f.now.add? (members i).limiter.window = some newEnd ∧
          t = Tally.next (f.stored? key) newEnd ∧
          done.answer = .ok (.ofCount t.count limit (t.closesAt.since f.now) .store)) := by
  rcases f.full_or_room (members i).cache subject.text limit with ⟨t, ht, hle⟩ | hroom
  · obtain ⟨u, hstored, hend, hcount⟩ := h.behind _ t ht
    have hdone := check_of_full members i hlimit ((Relay.service name).backend d) ht hle
    simp only [hdone]
    exact ⟨h, u, hstored, .inl ⟨hstored, Nat.le_trans hle hcount, by rw [hend]⟩⟩
  · rw [reply?_of_room members i hlimit hroom] at hok
    rw [check_of_room members i hlimit hroom]
    obtain ⟨figures, hfigures⟩ : ∃ figures, (f.store.increment d f.now
        (call members i subject)).answer = .ok figures := by
      cases hanswer : (f.store.increment d f.now (call members i subject)).answer with
      | ok figures => exact ⟨figures, rfl⟩
      | error e => exact absurd (congrArg some hanswer) (hok e)
    obtain ⟨rfl, newEnd, hend⟩ := Relay.sound_of_answer_ok hplain hfigures
    obtain ⟨hadopts, hstored⟩ :=
      ask_sound hshared name i subject limit hwindow hend h.within
    refine ⟨⟨fun k t ht => ?_, fun u hu => ?_⟩, _, hstored,
      .inr ⟨newEnd, hend, rfl, hadopts.answer⟩⟩
    · rw [hadopts.cached] at ht
      refine ⟨_, hstored, ?_⟩
      split at ht
      · cases ht
        exact ⟨rfl, Nat.le_refl _⟩
      · obtain ⟨u, hu, hsame, hcount⟩ := h.behind k t ht
        rw [hu]
        exact ⟨hsame, Nat.le_succ_of_le hcount⟩
    · cases hstored.symm.trans hu
      exact Tally.closesAt_next (P := (· ≤ Instant.last)) h.within
        fun _ => Instant.le_last_of_add? hend

end Trails

end FixedWindow.Fleet
